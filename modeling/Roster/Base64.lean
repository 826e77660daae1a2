/-
Roster.Base64 — byte strings as text, six bits to a character, without padding.

Three bytes make four characters; one or two bytes at the end make two or
three, of which the last carries zero bits below. Reading is strict: those bits
must be zero, so each byte string has one text.
-/
import Roster.Digits

namespace Roster

/-- The two alphabets, which differ in the characters for 62 and 63. -/
inductive Base64 where
  | standard
  | urlSafe
  deriving DecidableEq, Repr

namespace Base64

/-- The characters for 62 and 63. -/
def lastTwo : Base64 → Char × Char
  | standard => ('+', '/')
  | urlSafe => ('-', '_')

/-- The character for a number below 64. -/
def digit (a : Base64) (n : Nat) : Char :=
  if n < 26 then Char.ofNat (0x41 + n)
  else if n < 52 then Char.ofNat (0x61 + (n - 26))
  else if n < 62 then Char.ofNat (0x30 + (n - 52))
  else if n = 62 then a.lastTwo.1
  else a.lastTwo.2

/-- The number that a character of the alphabet stands for. -/
def value? (a : Base64) (c : Char) : Option Nat :=
  let n := c.toNat
  if 0x41 ≤ n ∧ n ≤ 0x5A then some (n - 0x41)
  else if 0x61 ≤ n ∧ n ≤ 0x7A then some (n - 0x61 + 26)
  else if 0x30 ≤ n ∧ n ≤ 0x39 then some (n - 0x30 + 52)
  else if c = a.lastTwo.1 then some 62
  else if c = a.lastTwo.2 then some 63
  else none

theorem value?_digit (a : Base64) {n : Nat} (h : n < 64) : a.value? (a.digit n) = some n := by
  have all : ∀ (a : Base64) (k : Fin 64), a.value? (a.digit k.val) = some k.val := by
    intro a
    cases a <;> decide
  exact all a ⟨n, h⟩

/-- The characters of a byte string. -/
def encodeChars (a : Base64) : List UInt8 → List Char
  | [] => []
  | [x] => [a.digit (x.toNat / 4), a.digit (x.toNat % 4 * 16)]
  | [x, y] =>
    [a.digit (x.toNat / 4), a.digit (x.toNat % 4 * 16 + y.toNat / 16),
      a.digit (y.toNat % 16 * 4)]
  | x :: y :: z :: rest =>
    a.digit (x.toNat / 4) :: a.digit (x.toNat % 4 * 16 + y.toNat / 16) ::
      a.digit (y.toNat % 16 * 4 + z.toNat / 64) :: a.digit (z.toNat % 64) :: encodeChars a rest

def encode (a : Base64) (bytes : List UInt8) : String := String.ofList (a.encodeChars bytes)

/-- The bytes of a list of six-bit numbers, if the bits left over are zero. -/
def pack? : List Nat → Option (List UInt8)
  | [] => some []
  | [_] => none
  | [p, q] => if q % 16 = 0 then some [UInt8.ofNat (p * 4 + q / 16)] else none
  | [p, q, r] =>
    if r % 4 = 0 then
      some [UInt8.ofNat (p * 4 + q / 16), UInt8.ofNat (q % 16 * 16 + r / 4)]
    else none
  | p :: q :: r :: s :: rest =>
    (pack? rest).map fun bytes =>
      UInt8.ofNat (p * 4 + q / 16) :: UInt8.ofNat (q % 16 * 16 + r / 4) ::
        UInt8.ofNat (r % 4 * 64 + s) :: bytes

/-- The byte string with the given characters. -/
def decodeChars? (a : Base64) (cs : List Char) : Option (List UInt8) :=
  (cs.mapM a.value?).bind pack?

def decode? (a : Base64) (s : String) : Option (List UInt8) := a.decodeChars? s.toList

/-- Why a text has no bytes; offsets count bytes of its UTF-8 form. -/
inductive Flaw where
  | badSymbol (byte : UInt8) (offset : Nat)
  | badLength (length : Nat)
  | badLastSymbol (byte : UInt8) (offset : Nat)
  | badPadding
  deriving DecidableEq, Repr

namespace Flaw

def message : Flaw → String
  | badSymbol byte offset =>
    "Invalid symbol " ++ Digits.natText byte.toNat ++ ", offset " ++ Digits.natText offset ++ "."
  | badLength length => "Invalid input length: " ++ Digits.natText length
  | badLastSymbol byte offset =>
    "Invalid last symbol " ++ Digits.natText byte.toNat ++ ", offset " ++
      Digits.natText offset ++ "."
  | badPadding => "Invalid padding"

end Flaw

/-- The padding character, which no text of this form holds. -/
def pad : UInt8 := 0x3D

/-- Whether a byte is a character of the alphabet. -/
def isSymbol (a : Base64) (b : UInt8) : Bool :=
  b < 0x80 && (a.value? (Char.ofNat b.toNat)).isSome

/--
The flaw of the last group, which begins at `start`: a stray symbol, a padding
character too early or with a symbol behind it, a lone symbol, padding at its
end, or bits left over.
-/
def lastFlaw (a : Base64) (start : Nat) (group : List UInt8) : Flaw :=
  let symbols := group.takeWhile a.isSymbol
  let offset := start + symbols.length
  match group.drop symbols.length with
  | b :: rest =>
    if b ≠ pad ∨ symbols.length < 2 then .badSymbol b offset
    else if rest.all (· == pad) then .badPadding
    else .badSymbol pad offset
  | [] =>
    if symbols.length < 2 then .badLength (start + symbols.length)
    else .badLastSymbol (symbols.getLastD 0) (start + symbols.length - 1)

/--
Names the flaw of a text that has no bytes. A stray symbol that stands alone in
the last group is reported first, then the first stray symbol before that group.
-/
def flawOf (a : Base64) (bytes : List UInt8) : Flaw :=
  let n := bytes.length
  let start := n - (if n % 4 = 0 then 4 else n % 4)
  match bytes.getLast?, (bytes.take start).findIdx? fun b => !a.isSymbol b with
  | some last, strayAt =>
    if n % 4 = 1 ∧ last ≠ pad ∧ !a.isSymbol last then .badSymbol last (n - 1)
    else
      match strayAt with
      | some i => .badSymbol (bytes.getD i 0) i
      | none => a.lastFlaw start (bytes.drop start)
  | none, _ => .badLength 0

/-- Reads a text or says what is wrong with it. -/
def decode (a : Base64) (s : String) : Except Flaw (List UInt8) :=
  match a.decode? s with
  | some bytes => .ok bytes
  | none => .error (a.flawOf s.toUTF8.data.toList)

end Base64

end Roster
