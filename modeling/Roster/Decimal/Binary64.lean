/-
Roster.Decimal.Binary64 — 64-bit binary floating-point numbers in exact
arithmetic, and their shortest decimal text.

A finite number is a natural mantissa below 2^53 times a power of two; its sign
is kept apart by whoever needs one. `ofRatio?` rounds a quotient of naturals to
the nearest such number, to the even mantissa on a tie, and answers `none` past
the largest. `shortest` finds the fewest decimal digits that round back to the
number and, among those, the nearest.
-/
import Roster.Digits

namespace Roster.Decimal

/-- The number `mantissa * 2 ^ exponent`. -/
structure Binary64 where
  mantissa : Nat
  exponent : Int
  deriving DecidableEq, Repr, Inhabited

namespace Binary64

def zero : Binary64 := ⟨0, 0⟩

/-- The exponent of the least positive number. -/
def leastExponent : Int := -1074

/-- The exponent of the largest numbers. -/
def greatestExponent : Int := 971

/-- `a / b` to the nearest natural number, a tie to the even one. -/
def divideToEven (a b : Nat) : Nat :=
  let q := a / b
  let twice := 2 * (a % b)
  if twice < b then q
  else if b < twice then q + 1
  else if q % 2 = 0 then q else q + 1

/-- Splits a signed scale into a factor above and one below the line. -/
def scale (base : Nat) (e : Int) : Nat × Nat :=
  match e with
  | .ofNat k => (Nat.pow base k, 1)
  | .negSucc k => (1, Nat.pow base (k + 1))

/-- The number of binary digits. -/
def bitLength (n : Nat) : Nat := if n = 0 then 0 else Nat.log2 n + 1

/-- The number nearest to `num / den`; `none` past the largest. -/
def ofRatio? (num den : Nat) : Option Binary64 :=
  if num = 0 then some zero
  else
    let guess : Int := Int.ofNat (bitLength num) - Int.ofNat (bitLength den) - 53
    let fits (e : Int) : Bool :=
      let (up, down) := scale 2 e
      decide (num * down < 0x20000000000000 * (den * up))
    let e := max leastExponent (if fits guess then guess else guess + 1)
    let (up, down) := scale 2 e
    let m := divideToEven (num * down) (den * up)
    let (m, e) := if m = 0x20000000000000 then (0x10000000000000, e + 1) else (m, e)
    if e > greatestExponent then none else some ⟨m, e⟩

/-- The number as a quotient of naturals. -/
def ratio (x : Binary64) : Nat × Nat :=
  let (up, down) := scale 2 x.exponent
  (x.mantissa * up, down)

def ofNat? (n : Nat) : Option Binary64 := ofRatio? n 1

/-- The rounded product. -/
def mul? (x y : Binary64) : Option Binary64 :=
  let (a, b) := x.ratio
  let (c, d) := y.ratio
  ofRatio? (a * c) (b * d)

/-- The rounded quotient by a positive number. -/
def div? (x y : Binary64) : Option Binary64 :=
  let (a, b) := x.ratio
  let (c, d) := y.ratio
  ofRatio? (a * d) (b * c)

/-- A decimal number `digits * 10 ^ exponent`. -/
structure Numeral where
  digits : Nat
  exponent : Int
  deriving DecidableEq, Repr, Inhabited

/-- Whether a quotient of naturals rounds to the number. -/
def roundsTo (x : Binary64) (num den : Nat) : Bool :=
  match ofRatio? num den with
  | some y => decide (y.ratio.1 * x.ratio.2 = x.ratio.1 * y.ratio.2)
  | none => false

/-- The position of the leading decimal digit of `num / den`, searched from `e` upward. -/
def leadingPlace (num den : Nat) : Nat → Int → Int
  | 0, e => e
  | steps + 1, e =>
    let (up, down) := scale 10 (e + 1)
    if den * up ≤ num * down then leadingPlace num den steps (e + 1) else e

/-- The distance from `num / den` to `n * 10 ^ e`, over the common denominator. -/
def distance (num den : Nat) (n : Nat) (e : Int) : Nat :=
  let (up, down) := scale 10 e
  let a := num * down
  let b := n * den * up
  (a - b) + (b - a)

/-- The nearest decimal with last place `e` that rounds to the number, if one does. -/
def onGrid? (x : Binary64) (e : Int) : Option Numeral :=
  let (num, den) := x.ratio
  let (up, down) := scale 10 e
  let low := (num * down) / (den * up)
  let hits := [low, low + 1].filter fun n => x.roundsTo (n * up) down
  match hits with
  | [] => none
  | [n] => some ⟨n, e⟩
  | a :: b :: _ =>
    let da := distance num den a e
    let db := distance num den b e
    if da < db ∨ (da = db ∧ a % 2 = 0) then some ⟨a, e⟩ else some ⟨b, e⟩

/-- Tries grids from coarse to fine. -/
def firstGrid (x : Binary64) (e : Int) : Nat → Numeral
  | 0 => ⟨0, 0⟩
  | tries + 1 => (onGrid? x e).getD (firstGrid x (e - 1) tries)

/-- The shortest decimal that rounds to the number. -/
def shortest (x : Binary64) : Numeral :=
  if x.mantissa = 0 then ⟨0, 0⟩
  else
    let (num, den) := x.ratio
    firstGrid x (leadingPlace num den 700 (-330)) 18

/-- Drops zeros at the end of the digits. -/
def Numeral.normalize (d : Numeral) : Nat → Numeral
  | 0 => d
  | steps + 1 =>
    if d.digits ≠ 0 ∧ d.digits % 10 = 0 then
      normalize ⟨d.digits / 10, d.exponent + 1⟩ steps
    else d

/--
The text of a number. Between 10^-5 and 10^16 it is positional with at least
one digit after the point; beyond, it has one digit before the point and a
signed exponent of at least two digits.
-/
def text (x : Binary64) : String :=
  let d := x.shortest.normalize 20
  let ds := Digits.decimal d.digits
  let zeros (n : Nat) : List Char := List.replicate n '0'
  if d.digits = 0 then "0.0"
  else
    let place : Int := Int.ofNat ds.length + d.exponent - 1
    if -5 ≤ place ∧ place ≤ 15 then
      if 0 ≤ d.exponent then
        String.ofList (ds ++ zeros d.exponent.toNat ++ ".0".toList)
      else if 0 ≤ place then
        String.ofList (ds.take (place.toNat + 1) ++ '.' :: ds.drop (place.toNat + 1))
      else
        String.ofList ("0.".toList ++ zeros (-place - 1).toNat ++ ds)
    else
      let e := Digits.decimal place.natAbs
      let e := if e.length < 2 then '0' :: e else e
      let head := ds.take 1 ++ (if ds.length = 1 then [] else '.' :: ds.drop 1)
      String.ofList (head ++ 'e' :: (if 0 ≤ place then '+' else '-') :: e)

end Binary64

end Roster.Decimal
