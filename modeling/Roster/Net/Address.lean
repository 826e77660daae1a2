/-
Roster.Net.Address — internet addresses and their texts.

An address of version 4 is four decimal numbers joined by points, none with a
leading zero. One of version 6 is eight groups of up to four hexadecimal digits
joined by colons, of which one run may be left out as `::`; its last two groups
may be written as a version 4 address. It is written with the first longest run
of two or more zero groups left out.
-/
import Roster.Digits

namespace Roster.Net

/-- An internet address. -/
inductive Address where
  | v4 (a b c d : Nat)
  | v6 (groups : List Nat)
  deriving DecidableEq, Repr

namespace Address

/-! ## Reading -/

/-- Reads at most `most` digits, of which there must be one; more digits are refused. -/
def number? (digit : Char → Option Nat) (radix most : Nat) (cs : List Char) :
    Option (Nat × Nat × List Char) :=
  let ds := cs.takeWhile fun c => (digit c).isSome
  if ds.isEmpty ∨ ds.length > most then none
  else
    let n := ds.foldl (fun n c => n * radix + (digit c).getD 0) 0
    some (n, ds.length, cs.drop ds.length)

/-- One number of a version 4 address. -/
def octet? (cs : List Char) : Option (Nat × List Char) := do
  let (n, length, rest) ← number? Digits.decimalValue? 10 3 cs
  if n > 255 ∨ (cs.head? = some '0' ∧ length > 1) then none
  return (n, rest)

/-- The rest after the given character. -/
def after? (c : Char) : List Char → Option (List Char)
  | d :: rest => if d = c then some rest else none
  | [] => none

/-- The four numbers of a version 4 address in front of a text. -/
def quad? (cs : List Char) : Option ((Nat × Nat × Nat × Nat) × List Char) := do
  let (a, cs) ← octet? cs
  let (b, cs) ← octet? (← after? '.' cs)
  let (c, cs) ← octet? (← after? '.' cs)
  let (d, cs) ← octet? (← after? '.' cs)
  return ((a, b, c, d), cs)

/-- The text after the colon that a group needs unless it is the first. -/
def separated? (first : Bool) (cs : List Char) : Option (List Char) :=
  if first then some cs else after? ':' cs

/--
Reads at most `left` groups in front of a text, the first of them without a
colon; the answer says whether they end with a version 4 address.
-/
def groups (first : Bool) : Nat → List Char → List Nat × Bool × List Char
  | 0, cs => ([], false, cs)
  | left + 1, cs =>
    let quad := if left = 0 then none else (separated? first cs).bind quad?
    match quad with
    | some ((a, b, c, d), rest) => ([a * 256 + b, c * 256 + d], true, rest)
    | none =>
      match (separated? first cs).bind (number? Digits.hexValue? 16 4) with
      | some (n, _, rest) =>
        let (more, quad, rest) := groups false left rest
        (n :: more, quad, rest)
      | none => ([], false, cs)

/-- Reads the eight groups of a version 6 address in front of a text. -/
def eight? (cs : List Char) : Option (List Nat × List Char) := do
  let (head, quad, rest) := groups true 8 cs
  if head.length = 8 then return (head, rest)
  if quad then none
  let rest ← after? ':' (← after? ':' rest)
  let (tail, _, rest) := groups true (7 - head.length) rest
  return (head ++ List.replicate (8 - head.length - tail.length) 0 ++ tail, rest)

/-- Reads an address that fills the whole text. -/
def ofText? (s : String) : Option Address :=
  match quad? s.toList with
  | some ((a, b, c, d), rest) => if rest.isEmpty then some (v4 a b c d) else sixth?
  | none => sixth?
where
  sixth? : Option Address :=
    match eight? s.toList with
    | some (gs, []) => some (v6 gs)
    | _ => none

/--
Reads an address that a port follows; one of version 6 stands in brackets,
perhaps with a scope.
-/
def ofSocketText? (s : String) : Option Address :=
  let host := ((s.toList.reverse.dropWhile (· ≠ ':')).drop 1).reverse
  match host with
  | '[' :: inside => ofText? (String.ofList (inside.dropLast.takeWhile (· ≠ '%')))
  | _ => ofText? (String.ofList host)

/-! ## Writing -/

def quadText (a b c d : Nat) : String := ".".intercalate ([a, b, c, d].map Digits.natText)

/-- A group without leading zeros. -/
def groupText (n : Nat) : String :=
  let ds := (Digits.hexField 4 n).dropWhile (· = '0')
  if ds.isEmpty then "0" else String.ofList ds

def groupsText (gs : List Nat) : String := ":".intercalate (gs.map groupText)

/-- Length of the run of zeros at the front. -/
def zeroRun (gs : List Nat) : Nat := (gs.takeWhile (· = 0)).length

/-- Start and length of the first longest run of zeros. -/
def longestRun (gs : List Nat) : Nat × Nat :=
  (List.range gs.length).foldl
    (fun best i =>
      let n := zeroRun (gs.drop i)
      if n > best.2 then (i, n) else best)
    (0, 0)

/-- The address as text. -/
def text : Address → String
  | v4 a b c d => quadText a b c d
  | v6 [0, 0, 0, 0, 0, 0xFFFF, x, y] =>
    "::ffff:" ++ quadText (x / 256) (x % 256) (y / 256) (y % 256)
  | v6 gs =>
    let (start, length) := longestRun gs
    if length > 1 then
      groupsText (gs.take start) ++ "::" ++ groupsText (gs.drop (start + length))
    else groupsText gs

/-- The address with a port. -/
def socketText (a : Address) (port : Nat) : String :=
  match a with
  | v4 .. => a.text ++ ":" ++ Digits.natText port
  | v6 _ => "[" ++ a.text ++ "]:" ++ Digits.natText port

end Address

end Roster.Net
