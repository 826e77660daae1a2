/-
Roster.Digits — decimal and hexadecimal digits.

Values are written most significant digit first. Hexadecimal is written in
lower case and read in either; a field of fixed width keeps its leading zeros.
-/
namespace Roster.Digits

/-- The lower-case digit for a value below sixteen. -/
def hexDigit (n : Nat) : Char :=
  if n < 10 then Char.ofNat (0x30 + n) else Char.ofNat (0x57 + n)

/-- The value of a hexadecimal digit of either case. -/
def hexValue? (c : Char) : Option Nat :=
  let n := c.toNat
  if 0x30 ≤ n ∧ n ≤ 0x39 then some (n - 0x30)
  else if 0x61 ≤ n ∧ n ≤ 0x66 then some (n - 0x57)
  else if 0x41 ≤ n ∧ n ≤ 0x46 then some (n - 0x37)
  else none

/-- The last `width` hexadecimal digits of `n`. -/
def hexField : Nat → Nat → List Char
  | 0, _ => []
  | width + 1, n => hexField width (n / 16) ++ [hexDigit (n % 16)]

/-- The value of a run of hexadecimal digits that continues a number `acc`. -/
def hexFold? (acc : Nat) : List Char → Option Nat
  | [] => some acc
  | c :: rest => (hexValue? c).bind fun v => hexFold? (acc * 16 + v) rest

theorem hexValue?_hexDigit {n : Nat} (h : n < 16) : hexValue? (hexDigit n) = some n := by
  have all : ∀ k : Fin 16, hexValue? (hexDigit k.val) = some k.val := by decide
  exact all ⟨n, h⟩

theorem length_hexField (width n : Nat) : (hexField width n).length = width := by
  induction width generalizing n with
  | zero => rfl
  | succ width ih => simp [hexField, ih]

theorem hexFold?_append (acc : Nat) (xs ys : List Char) :
    hexFold? acc (xs ++ ys) = (hexFold? acc xs).bind fun a => hexFold? a ys := by
  induction xs generalizing acc with
  | nil => rfl
  | cons c xs ih =>
    simp only [List.cons_append, hexFold?]
    cases hexValue? c with
    | none => rfl
    | some v => simp [ih]

/-- Reading a fixed-width field back gives the value that was written. -/
theorem hexFold?_hexField {width n : Nat} (acc : Nat) (h : n < Nat.pow 16 width) :
    hexFold? acc (hexField width n) = some (acc * Nat.pow 16 width + n) := by
  induction width generalizing n with
  | zero =>
    have : n = 0 := by simpa using h
    subst this; simp [hexField, hexFold?]
  | succ width ih =>
    have hp : Nat.pow 16 (width + 1) = Nat.pow 16 width * 16 := rfl
    have hd : n / 16 < Nat.pow 16 width := by
      rw [hp] at h
      exact Nat.div_lt_of_lt_mul (by omega)
    rw [hexField, hexFold?_append, ih hd]
    simp only [Option.bind_some, hexFold?, hexValue?_hexDigit (Nat.mod_lt n (by decide))]
    congr 1
    rw [hp, ← Nat.mul_assoc]
    omega

/-- The decimal digit for a value below ten. -/
def decimalDigit (n : Nat) : Char := Char.ofNat (0x30 + n)

/-- The value of an ASCII decimal digit. -/
def decimalValue? (c : Char) : Option Nat :=
  if 0x30 ≤ c.toNat ∧ c.toNat ≤ 0x39 then some (c.toNat - 0x30) else none

/-- The decimal digits of `n` in front of `tail`, without leading zeros; zero is one digit. -/
def decimalOnto (n : Nat) (tail : List Char) : List Char :=
  let tail := decimalDigit (n % 10) :: tail
  if n < 10 then tail else decimalOnto (n / 10) tail
termination_by n

def decimal (n : Nat) : List Char := decimalOnto n []

/-- The decimal text of a natural number. -/
def natText (n : Nat) : String := String.ofList (decimal n)

/-- The decimal text of an integer, with a minus sign below zero. -/
def intText (n : Int) : String :=
  match n with
  | .ofNat k => natText k
  | .negSucc k => "-" ++ natText (k + 1)

/-- The value of a run of decimal digits that continues a number `acc`. -/
def decimalFold? (acc : Nat) : List Char → Option Nat
  | [] => some acc
  | c :: rest => (decimalValue? c).bind fun v => decimalFold? (acc * 10 + v) rest

end Roster.Digits
