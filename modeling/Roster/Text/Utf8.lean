/-
Roster.Text.Utf8 — text from bytes that need not be well formed.

A character is a lead byte and up to three more, each within bounds that the
lead byte sets. A run that breaks off, as far as it could have gone on, becomes
one replacement character.
-/
import Roster.Digits

namespace Roster.Text.Utf8

/-- What a lead byte announces: how many bytes follow, its own bits, and bounds of the next byte. -/
structure Lead where
  count : Nat
  bits : Nat
  low : Nat
  high : Nat

/-- What a byte announces as the first of a character. -/
def lead? (b : UInt8) : Option Lead :=
  let n := b.toNat
  if n < 0x80 then some ⟨0, n, 0x80, 0xBF⟩
  else if 0xC2 ≤ n ∧ n ≤ 0xDF then some ⟨1, n - 0xC0, 0x80, 0xBF⟩
  else if n = 0xE0 then some ⟨2, 0, 0xA0, 0xBF⟩
  else if n = 0xED then some ⟨2, 0xD, 0x80, 0x9F⟩
  else if 0xE1 ≤ n ∧ n ≤ 0xEF then some ⟨2, n - 0xE0, 0x80, 0xBF⟩
  else if n = 0xF0 then some ⟨3, 0, 0x90, 0xBF⟩
  else if n = 0xF4 then some ⟨3, 4, 0x80, 0x8F⟩
  else if 0xF1 ≤ n ∧ n ≤ 0xF3 then some ⟨3, n - 0xF0, 0x80, 0xBF⟩
  else none

/-- Takes the bytes that follow a lead byte; nothing if they break off. -/
def follow (low high acc : Nat) : Nat → List UInt8 → Option Nat × List UInt8
  | 0, bs => (some acc, bs)
  | _ + 1, [] => (none, [])
  | n + 1, b :: bs =>
    if low ≤ b.toNat ∧ b.toNat ≤ high then follow 0x80 0xBF (acc * 64 + (b.toNat - 0x80)) n bs
    else (none, b :: bs)

theorem length_follow_le (low high acc n : Nat) (bs : List UInt8) :
    (follow low high acc n bs).2.length ≤ bs.length := by
  induction n generalizing low high acc bs with
  | zero => simp [follow]
  | succ n ih =>
    cases bs with
    | nil => simp [follow]
    | cons b bs =>
      simp only [follow]
      split
      · exact Nat.le_trans (ih ..) (by simp)
      · simp

/-- Stands for what cannot be read. -/
def replacement : Char := '\uFFFD'

/-- The characters of bytes, with replacements. -/
def lossyChars : List UInt8 → List Char
  | [] => []
  | b :: bs =>
    match lead? b with
    | none => replacement :: lossyChars bs
    | some l =>
      let after := follow l.low l.high l.bits l.count bs
      (after.1.map Char.ofNat).getD replacement :: lossyChars after.2
termination_by bs => bs.length
decreasing_by
  · simp
  · have := length_follow_le l.low l.high l.bits l.count bs
    simp only [List.length_cons]
    omega

def lossy (bs : List UInt8) : String := String.ofList (lossyChars bs)

/-- Where bytes stop being text. -/
structure Flaw where
  /-- How many bytes are in front. -/
  index : Nat
  /-- How many bytes are broken, unless more bytes could have mended them. -/
  length : Option Nat
  deriving DecidableEq, Repr

def Flaw.message (f : Flaw) : String :=
  match f.length with
  | some n =>
    "invalid utf-8 sequence of " ++ Digits.natText n ++ " bytes from index " ++
      Digits.natText f.index
  | none => "incomplete utf-8 byte sequence from index " ++ Digits.natText f.index

/-- The first flaw of bytes that have `index` others in front of them. -/
def flaw? (index : Nat) : List UInt8 → Option Flaw
  | [] => none
  | b :: bs =>
    match lead? b with
    | none => some ⟨index, some 1⟩
    | some l =>
      let after := follow l.low l.high l.bits l.count bs
      let size := 1 + (bs.length - after.2.length)
      if after.1.isSome then flaw? (index + size) after.2
      else some ⟨index, if after.2.isEmpty then none else some size⟩
termination_by bs => bs.length
decreasing_by
  have := length_follow_le l.low l.high l.bits l.count bs
  simp only [List.length_cons]
  omega

/-- The text of well-formed bytes. -/
def strict? (bs : List UInt8) : Option String := String.fromUTF8? ⟨bs.toArray⟩

end Roster.Text.Utf8
