/-
Roster.Password.Stored — the text in which a password hash is kept.

Fields stand behind dollar signs: the algorithm, `v=` and the version, the cost
as `m=`, `t=` and `p=` with commas between, the salt and the digest, both in
base64 without padding. Version and cost may be left out, and then take their
defaults. Numbers have no leading zeros.
-/
import Roster.Base64
import Roster.Password.Cost

namespace Roster.Password

open Hash.Argon2 (Cost Kind Settings Version)

/-- A password hash with all that is needed to check a password against it. -/
structure Stored where
  settings : Settings
  salt : List UInt8
  digest : List UInt8
  deriving DecidableEq, Repr

namespace Stored

/-! ## Writing -/

/-- The cost as a field. -/
def costText (c : Cost) : String :=
  "m=" ++ Digits.natText c.memory ++ ",t=" ++ Digits.natText c.passes ++ ",p=" ++
    Digits.natText c.lanes

/-- The text of a hash that covers no data beside password and salt. -/
def text (s : Stored) : String :=
  "$" ++ s.settings.kind.name ++ "$v=" ++ Digits.natText s.settings.version.code ++ "$" ++
    costText s.settings.cost ++ "$" ++ Base64.standard.encode s.salt ++ "$" ++
    Base64.standard.encode s.digest

/-! ## Reading -/

/-- The pieces between separators; there is always one more than there are separators. -/
def splitAt (separator : Char) : List Char → List (List Char)
  | [] => [[]]
  | c :: rest =>
    if c = separator then [] :: splitAt separator rest
    else
      match splitAt separator rest with
      | [] => [[c]]
      | piece :: pieces => (c :: piece) :: pieces

/-- Whether a character may stand in the name of an algorithm or parameter. -/
def isNameChar (c : Char) : Bool := c.isLower || c.isDigit || c = '-'

/-- Whether a character may stand in a value. -/
def isValueChar (c : Char) : Bool := c.isAlphanum || c = '/' || c = '+' || c = '.' || c = '-'

def isName (cs : List Char) : Bool := cs ≠ [] && cs.length ≤ 32 && cs.all isNameChar

def isValue (cs : List Char) : Bool := cs.length ≤ 64 && cs.all isValueChar

/-- The number written by digits, if it has no leading zero and is below 2^32. -/
def number? (cs : List Char) : Option Nat :=
  match cs with
  | [] => none
  | ['0'] => some 0
  | '0' :: _ => none
  | cs => (Digits.decimalFold? 0 cs).filter (· < 0x100000000)

/-- A parameter's name and value. -/
def parameter? (cs : List Char) : Option (List Char × List Char) :=
  match splitAt '=' cs with
  | [name, value] => if isName name && isValue value then some (name, value) else none
  | _ => none

/-- The numbers that the parameters set. -/
structure Parameters where
  memory : Nat := defaultCost.memory
  passes : Nat := defaultCost.passes
  lanes : Nat := defaultCost.lanes
  data : List UInt8 := []

/-- Base64 text of at most `most` bytes. -/
def shortBytes? (most : Nat) (cs : List Char) : Option (List UInt8) :=
  (Base64.standard.decodeChars? cs).filter fun bytes => bytes.length ≤ most

/-- Takes one parameter; of two with one name the later counts. -/
def setParameter? (s : Parameters) : List Char × List Char → Option Parameters
  | (['m'], value) => (number? value).map fun n => { s with memory := n }
  | (['t'], value) => (number? value).map fun n => { s with passes := n }
  | (['p'], value) => (number? value).map fun n => { s with lanes := n }
  | (name, value) =>
    if name = "keyid".toList then (shortBytes? 8 value).map fun _ => s
    else if name = "data".toList then (shortBytes? 32 value).map fun data => { s with data }
    else none

/-- Reads the field of parameters. -/
def parameters? (field : List Char) : Option Parameters := do
  if field.length > 127 then none
  let pairs ← (splitAt ',' field).mapM parameter?
  pairs.foldlM setParameter? {}

/-- The version, if the field has the form of one. -/
def version? (field : List Char) : Option (Option Version) :=
  match field with
  | 'v' :: '=' :: value =>
    if field.contains ',' then none
    else
      some (if isValue value then (number? value).bind Version.ofCode? else none)
  | _ => none

/-- The salt of a field; the text has a least and a greatest length, and eight bytes at least. -/
def salt? (field : List Char) : Option (List UInt8) := do
  if field.length < 4 ∨ field.length > 64 then none
  let bytes ← Base64.standard.decodeChars? field
  if bytes.length < 8 then none
  return bytes

def digest? (field : List Char) : Option (List UInt8) := do
  let bytes ← Base64.standard.decodeChars? field
  if bytes.length < 10 ∨ bytes.length > 64 then none
  return bytes

/-- Reads salt and digest, which end the text. -/
def ofEnd? (kind : Kind) (version : Version) (p : Parameters) : List (List Char) → Option Stored
  | [salt, digest] => do
    let salt ← salt? salt
    let digest ← digest? digest
    let cost ← (makeCost p.memory p.passes p.lanes).toOption
    return ⟨⟨kind, version, cost, digest.length, p.data⟩, salt, digest⟩
  | _ => none

/-- Reads the fields after the version. -/
def afterVersion? (kind : Kind) (version : Version) : List (List Char) → Option Stored
  | field :: rest =>
    if field.contains '=' then
      (parameters? field).bind fun p => ofEnd? kind version p rest
    else ofEnd? kind version {} (field :: rest)
  | [] => none

/-- Reads the fields after the algorithm. -/
def afterKind? (kind : Kind) : List (List Char) → Option Stored
  | field :: rest =>
    match version? field with
    | some version => version.bind fun v => afterVersion? kind v rest
    | none => afterVersion? kind .v19 (field :: rest)
  | [] => none

/-- Reads a stored hash. -/
def ofText? (s : String) : Option Stored :=
  match splitAt '$' s.toList with
  | [] :: kind :: rest =>
    (Kind.ofName? (String.ofList kind)).bind fun kind => afterKind? kind rest
  | _ => none

end Stored

end Roster.Password
