/-
Roster.Net.Punycode — labels of any script in letters, digits and hyphens.

The plain characters come first, and a hyphen behind them. Each other character
is then a number that says how far to walk through all places and code points
to where it is put in; the digits of these numbers follow a moving threshold.
All numbers stay below 2^32.
-/
namespace Roster.Net.Punycode

/-- The digit for a value below 36. -/
def digit (n : Nat) : Char := if n < 26 then Char.ofNat (0x61 + n) else Char.ofNat (0x16 + n)

def value? (c : Char) : Option Nat :=
  let n := c.toNat
  if 0x30 ≤ n ∧ n ≤ 0x39 then some (n - 0x30 + 26)
  else if 0x41 ≤ n ∧ n ≤ 0x5A then some (n - 0x41)
  else if 0x61 ≤ n ∧ n ≤ 0x7A then some (n - 0x61)
  else none

/-- The threshold of a digit at position `k` under a bias; it lies between 1 and 26. -/
def threshold (k bias : Nat) : Nat :=
  if k ≤ bias then 1 else if bias + 26 ≤ k then 26 else k - bias

theorem threshold_bounds (k bias : Nat) : 1 ≤ threshold k bias ∧ threshold k bias ≤ 26 := by
  unfold threshold
  split
  · omega
  · split <;> omega

/-- Divides by 35 until the number is small, and counts 36 for each time. -/
def shrink (delta k : Nat) : Nat × Nat :=
  if 455 < delta then shrink (delta / 35) (k + 36) else (delta, k)
termination_by delta
decreasing_by exact Nat.div_lt_self (by omega) (by omega)

/-- The next bias, after a number and with so many characters in place. -/
def adapt (delta count : Nat) (first : Bool) : Nat :=
  let delta := delta / (if first then 700 else 2)
  let (delta, k) := shrink (delta + delta / count) 0
  k + 36 * delta / (delta + 38)

/-- The largest number. -/
def greatest : Nat := 0xFFFFFFFF

/-! ## Writing -/

/-- The digits of a number. -/
def digits (bias k n : Nat) : List Char :=
  let t := threshold k bias
  if n < t then [digit n]
  else digit (t + (n - t) % (36 - t)) :: digits bias (k + 36) ((n - t) / (36 - t))
termination_by n
decreasing_by
  have h := threshold_bounds k bias
  have := Nat.div_le_self (n - threshold k bias) (36 - threshold k bias)
  omega

/-- Where writing has come to: the text, the steps since, the bias and the characters in place. -/
structure Progress where
  text : List Char
  delta : Nat
  bias : Nat
  count : Nat

/-- Walks over one character of the label while `m` is being put in. -/
def walk (plain m : Nat) (p : Progress) (n : Nat) : Progress :=
  if n < m then { p with delta := p.delta + 1 }
  else if n = m then
    { text := p.text ++ digits p.bias 36 p.delta
      delta := 0
      bias := adapt p.delta (p.count + 1) (p.count = plain)
      count := p.count + 1 }
  else p

/-- Puts in the given code points, which ascend and are not below `from`. -/
def putIn (label : List Nat) (plain : Nat) (p : Progress) (start : Nat) : List Nat → Progress
  | [] => p
  | m :: rest =>
    let p := { p with delta := p.delta + (m - start) * (p.count + 1) }
    let p := label.foldl (walk plain m) p
    putIn label plain { p with delta := p.delta + 1 } (m + 1) rest

/-- The label in plain characters; `none` if a number would grow too large. -/
def encode? (label : List Char) : Option (List Char) :=
  let plain := label.filter fun c => c.toNat < 0x80
  let codes := label.map Char.toNat
  let others := ((codes.filter fun n => 0x80 ≤ n).mergeSort fun a b => a ≤ b).eraseDups
  let front := if plain.isEmpty then [] else plain ++ ['-']
  let p := putIn codes plain.length ⟨front, 0, 72, plain.length⟩ 0x80 others
  if (codes.foldl max 0) * (label.length + 1) ≤ greatest then some p.text else none

/-! ## Reading -/

/-- Reads one number onto `i`, and the text after it. -/
def number? (bias k weight i : Nat) : List Char → Option (Nat × List Char)
  | [] => none
  | c :: rest => do
    let d ← value? c
    let i := i + d * weight
    if i > greatest then none
    let t := threshold k bias
    if d < t then return (i, rest)
    let weight := weight * (36 - t)
    if weight > greatest then none
    number? bias (k + 36) weight i rest

/-- Puts characters into a label as the numbers say; `fuel` bounds how many. -/
def putBack (label : List Char) (n i bias : Nat) (rest : List Char) : Nat → Option (List Char)
  | 0 => some label
  | fuel + 1 =>
    if rest.isEmpty then some label
    else do
      let (j, rest) ← number? bias 36 1 i rest
      let count := label.length + 1
      let n := n + j / count
      if ¬ n.isValidChar then none
      let place := j % count
      let label := label.take place ++ Char.ofNat n :: label.drop place
      putBack label n (place + 1) (adapt (j - i) count (i = 0)) rest fuel

/-- The label of plain characters. -/
def decode? (cs : List Char) : Option (List Char) :=
  let after := (cs.reverse.takeWhile (· ≠ '-')).reverse
  match (cs.reverse.dropWhile (· ≠ '-')).reverse.dropLast with
  | [] => putBack [] 0x80 0 72 cs (cs.length + 1)
  | plain =>
    if plain.all fun c => c.toNat < 0x80 then putBack plain 0x80 0 72 after (cs.length + 1)
    else none

end Roster.Net.Punycode
