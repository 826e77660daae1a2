/-
Roster.Uuid — 128-bit identifiers and their texts.

An identifier is always written as 32 lower-case hexadecimal digits in groups
of 8, 4, 4, 4 and 12. Four spellings are read: those groups with hyphens, the
same in braces, the same after `urn:uuid:`, and the 32 digits alone; letter
case is free. Reading back what was written gives the identifier again.
-/
import Roster.Digits

namespace Roster

/-- A 128-bit identifier. -/
structure Uuid where
  value : Fin 0x100000000000000000000000000000000
  deriving DecidableEq

namespace Uuid

instance : Inhabited Uuid := ⟨⟨0⟩⟩

/-- The identifier whose bits are all zero. -/
def nil : Uuid := ⟨0⟩

/-- The identifier with the value `n` modulo 2^128. -/
def ofNat (n : Nat) : Uuid := ⟨Fin.ofNat _ n⟩

/-- The 32 digits without hyphens. -/
def digits (u : Uuid) : List Char := Digits.hexField 32 u.value.val

/-- Puts hyphens between the five groups of 32 digits. -/
def hyphenate (ds : List Char) : List Char :=
  ds.take 8 ++ '-' :: (ds.drop 8).take 4 ++ '-' :: (ds.drop 12).take 4 ++
    '-' :: (ds.drop 16).take 4 ++ '-' :: ds.drop 20

/-- The hyphenated text in lower case. -/
def chars (u : Uuid) : List Char := hyphenate u.digits

def text (u : Uuid) : String := String.ofList u.chars

/-- Reads exactly 32 digits. -/
def ofDigits? (ds : List Char) : Option Uuid :=
  if ds.length = 32 then (Digits.hexFold? 0 ds).map ofNat else none

/-- Reads 36 characters with hyphens at the group ends. -/
def ofHyphenated? (cs : List Char) : Option Uuid :=
  if cs.length = 36 ∧ cs[8]? = some '-' ∧ cs[13]? = some '-' ∧ cs[18]? = some '-' ∧
      cs[23]? = some '-' then
    ofDigits? (cs.take 8 ++ (cs.drop 9).take 4 ++ (cs.drop 14).take 4 ++ (cs.drop 19).take 4 ++
      cs.drop 24)
  else none

/-- The prefix of the URN spelling. -/
def urnPrefix : List Char := "urn:uuid:".toList

/-- The text inside braces, if it stands in braces. -/
def unbraced? (cs : List Char) : Option (List Char) :=
  match cs with
  | '{' :: rest => if rest.getLast? = some '}' then some rest.dropLast else none
  | _ => none

/-- Reads any of the four spellings. -/
def ofChars? (cs : List Char) : Option Uuid :=
  if cs.length = 32 then ofDigits? cs
  else if cs.length = 36 then ofHyphenated? cs
  else if cs.length = 38 then (unbraced? cs).bind ofHyphenated?
  else if cs.length = 45 ∧ cs.take 9 = urnPrefix then ofHyphenated? (cs.drop 9)
  else none

def ofText? (s : String) : Option Uuid := ofChars? s.toList

theorem ofNat_val (u : Uuid) : ofNat u.value.val = u := by
  cases u with
  | mk v => simp [ofNat]

theorem ofDigits?_digits (u : Uuid) : ofDigits? u.digits = some u := by
  have h : u.value.val < Nat.pow 16 32 := u.value.isLt
  simp [ofDigits?, digits, Digits.length_hexField, Digits.hexFold?_hexField 0 h, ofNat_val]

/-- Why a text is no identifier; offsets count bytes from the start of the text. -/
inductive Flaw where
  | badCharacter (c : Char) (offset : Nat)
  | badLength (found : Nat)
  | badGroupCount (found : Nat)
  | badGroupLength (group : Nat) (expected found : Nat)
  deriving DecidableEq, Repr

namespace Flaw

def message : Flaw → String
  | badCharacter c offset =>
    "invalid character: found `" ++ String.singleton c ++ "` at " ++ Digits.natText offset
  | badLength found => "invalid length: found " ++ Digits.natText found
  | badGroupCount found => "invalid group count: expected 5, found " ++ Digits.natText found
  | badGroupLength group expected found =>
    "invalid group length in group " ++ Digits.natText group ++ ": expected " ++
      Digits.natText expected ++ ", found " ++ Digits.natText found

end Flaw

/-- The first character that is neither a hexadecimal digit nor a hyphen, with its offset. -/
def strayCharacter? (offset : Nat) : List Char → Option (Char × Nat)
  | [] => none
  | c :: rest =>
    if c = '-' ∨ (Digits.hexValue? c).isSome then strayCharacter? (offset + c.utf8Size) rest
    else some (c, offset)

/-- The places of the hyphens. -/
def hyphenPlaces (place : Nat) : List Char → List Nat
  | [] => []
  | c :: rest =>
    if c = '-' then place :: hyphenPlaces (place + 1) rest else hyphenPlaces (place + 1) rest

/--
Names what is wrong with a text that is no identifier: a stray character comes
first, then the length of a text without hyphens, the number of groups, and the
first group of a wrong length.
-/
def flawOf (s : String) : Flaw :=
  let cs := s.toList
  let (inner, shift, plain) :=
    match unbraced? cs with
    | some inner => (inner, 1, false)
    | none => if cs.take 9 = urnPrefix then (cs.drop 9, 9, false) else (cs, 0, true)
  match strayCharacter? shift inner with
  | some (c, offset) => .badCharacter c offset
  | none =>
    match hyphenPlaces 0 inner with
    | [] => if plain then .badLength s.utf8ByteSize else .badGroupCount 1
    | [a, b, c, d] =>
      if a ≠ 8 then .badGroupLength 0 8 a
      else if b ≠ 13 then .badGroupLength 1 4 (b - 9)
      else if c ≠ 18 then .badGroupLength 2 4 (c - 14)
      else if d ≠ 23 then .badGroupLength 3 4 (d - 19)
      else .badGroupLength 4 12 (s.utf8ByteSize - 24)
    | places => .badGroupCount (places.length + 1)

/-- Reads an identifier or says what is wrong with the text. -/
def parse (s : String) : Except Flaw Uuid :=
  match ofText? s with
  | some u => .ok u
  | none => .error (flawOf s)

end Uuid

end Roster
