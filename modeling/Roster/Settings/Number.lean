/-
Roster.Settings.Number — whole numbers as the text of a setting.

A number is a sign, if its kind allows one, and decimal digits. The text is
judged from left to right, so that a strange character in front of the digit
that grows past the kind's bounds is the one complained of, and the reverse.
-/
import Roster.Digits

namespace Roster.Settings

/-- Why a text is no number of its kind. -/
inductive NumberFlaw where
  | empty
  | invalidDigit
  | tooLarge
  | tooSmall
  deriving DecidableEq, Repr

namespace NumberFlaw

def message : NumberFlaw → String
  | empty => "cannot parse integer from empty string"
  | invalidDigit => "invalid digit found in string"
  | tooLarge => "number too large to fit in target type"
  | tooSmall => "number too small to fit in target type"

end NumberFlaw

/-- A kind of whole number: the magnitudes it holds above zero and, if signed, below. -/
structure NumberKind where
  greatest : Nat
  lowest : Option Nat
  deriving DecidableEq, Repr

namespace NumberKind

def nat16 : NumberKind := ⟨0xFFFF, none⟩

def nat32 : NumberKind := ⟨0xFFFFFFFF, none⟩

def nat64 : NumberKind := ⟨0xFFFFFFFFFFFFFFFF, none⟩

def int64 : NumberKind := ⟨0x7FFFFFFFFFFFFFFF, some 0x8000000000000000⟩

/-- Continues a magnitude `acc` by digits; `past` is the complaint about more than `limit`. -/
def magnitude (limit : Nat) (past : NumberFlaw) (acc : Nat) : List Char → Except NumberFlaw Nat
  | [] => .ok acc
  | c :: rest =>
    match Digits.decimalValue? c with
    | none => .error .invalidDigit
    | some v =>
      if acc * 10 + v ≤ limit then magnitude limit past (acc * 10 + v) rest else .error past

/-- Reads a number of the kind. -/
def parse (kind : NumberKind) (s : String) : Except NumberFlaw Int :=
  match s.toList, kind.lowest with
  | [], _ => .error .empty
  | ['+'], _ | ['-'], _ => .error .invalidDigit
  | '+' :: digits, _ => upward digits
  | '-' :: digits, some lowest => do return -(Int.ofNat (← magnitude lowest .tooSmall 0 digits))
  | digits, _ => upward digits
where
  upward (digits : List Char) : Except NumberFlaw Int := do
    return Int.ofNat (← magnitude kind.greatest .tooLarge 0 digits)

end NumberKind

end Roster.Settings
