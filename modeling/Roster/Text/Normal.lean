/-
Roster.Text.Normal — the composed normal form of a text.

A text is decomposed as far as possible, marks that follow one another are put
in the order of their classes, and then each character is composed with the
nearest earlier one that can take it and from which nothing cuts it off.
-/
import Roster.Text.NormalTable

namespace Roster.Text

/-- The combining class of a character; zero for all that are no marks. -/
def combiningClass (n : Nat) : Nat :=
  match orderRanges.find? (inRow n) with
  | some [_, _, k] => k
  | _ => 0

def isMark (c : Char) : Bool := (markRanges.find? (inRow c.toNat)).isSome

/-! ## Hangul -/

/-- The first syllable, and the first leading, vowel and trailing letters. -/
def firstSyllable : Nat := 0xAC00

def firstLeading : Nat := 0x1100

def firstVowel : Nat := 0x1161

/-- One before the first trailing letter, which stands for none. -/
def noTrailing : Nat := 0x11A7

/-- The letters of a syllable. -/
def syllableLetters (n : Nat) : List Nat :=
  let k := n - firstSyllable
  let front := [firstLeading + k / 588, firstVowel + k % 588 / 28]
  if k % 28 = 0 then front else front ++ [noTrailing + k % 28]

def isSyllable (n : Nat) : Bool := firstSyllable ≤ n && n < firstSyllable + 11172

/-- The syllable of a leading letter and a vowel, or of a syllable and a trailing letter. -/
def syllable? (a b : Nat) : Option Nat :=
  if firstLeading ≤ a ∧ a < firstLeading + 19 ∧ firstVowel ≤ b ∧ b < firstVowel + 21 then
    some (firstSyllable + ((a - firstLeading) * 21 + (b - firstVowel)) * 28)
  else if isSyllable a ∧ (a - firstSyllable) % 28 = 0 ∧ noTrailing < b ∧ b < noTrailing + 28 then
    some (a + (b - noTrailing))
  else none

/-! ## Decomposition -/

/-- What a character fully decomposes into. -/
def decompose (n : Nat) : List Nat :=
  if n < 0xC0 then [n]
  else if isSyllable n then syllableLetters n
  else
    match decompositions.find? (fun row => row.head? = some n) with
    | some (_ :: parts) => parts
    | _ => [n]

/-- Puts a character with its class behind those of no greater class, but never before a zero. -/
def insertMark (x : Nat × Nat) : List (Nat × Nat) → List (Nat × Nat)
  | [] => [x]
  | y :: rest => if x.2 ≠ 0 ∧ x.2 < y.2 then y :: insertMark x rest else x :: y :: rest

/-- Characters with their classes, the last one first, marks in order. -/
def ordered (ns : List Nat) : List (Nat × Nat) :=
  ns.foldl (fun acc n => insertMark (n, combiningClass n) acc) []

/-! ## Composition -/

/-- The character that a pair composes to. -/
def compose? (a b : Nat) : Option Nat :=
  match syllable? a b with
  | some n => some n
  | none =>
    match compositions.find? (fun row => row.take 2 = [a, b]) with
    | some [_, _, n] => some n
    | _ => none

/-- A starter with the marks after it that it could not take, last first. -/
structure Cluster where
  starter : Option Nat
  marks : List Nat
  /-- The class of the last of those marks. -/
  lastClass : Nat

/-- Writes a cluster. -/
def Cluster.chars (c : Cluster) : List Nat := c.starter.toList ++ c.marks.reverse

/-- Takes the next character into a cluster, or ends it and starts another. -/
def composeNext (state : List Nat × Cluster) (x : Nat × Nat) : List Nat × Cluster :=
  let (done, c) := state
  let (n, k) := x
  let free := c.marks.isEmpty || (c.lastClass ≠ 0 && c.lastClass < k)
  let joined := match c.starter with
    | some s => if free then compose? s n else none
    | none => none
  match joined with
  | some s => (done, { c with starter := some s })
  | none =>
    if k = 0 then (done ++ c.chars, ⟨some n, [], 0⟩)
    else (done, { c with marks := n :: c.marks, lastClass := k })

/-- The normal form of code points. -/
def normalize (ns : List Nat) : List Nat :=
  let marked := (ordered (ns.flatMap decompose)).reverse
  let (done, c) := marked.foldl composeNext ([], ⟨none, [], 0⟩)
  done ++ c.chars

/-- The normal form of a text. -/
def normalizeChars (cs : List Char) : List Char :=
  (normalize (cs.map Char.toNat)).map Char.ofNat

end Roster.Text
