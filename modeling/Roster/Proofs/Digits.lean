/-
Roster.Proofs.Digits — numbers survive decimal digits.

Digits are read from the left, each onto the number before it, and written from
the right. The two meet in one step: reading a number's digits is going on from that number
(`decimalFold?_decimalOnto`), and writing what digits made of a number is writing that
number before them (`decimalOnto_of_decimalFold?`). So a number has one text without
leading zeros, and no other such text is read as it.
-/
import Roster.Digits

namespace Roster.Digits

variable {n acc : Nat} {c : Char} {cs tail : List Char}

theorem decimalValue?_decimalDigit (h : n < 10) : decimalValue? (decimalDigit n) = some n := by
  have all : ∀ k : Fin 10, decimalValue? (decimalDigit k.val) = some k.val := by decide
  exact all ⟨n, h⟩

theorem isDigit_decimalDigit (h : n < 10) : (decimalDigit n).isDigit = true := by
  have all : ∀ k : Fin 10, (decimalDigit k.val).isDigit = true := by decide
  exact all ⟨n, h⟩

theorem decimalDigit_eq_zero (h : n < 10) : decimalDigit n = '0' ↔ n = 0 := by
  have all : ∀ k : Fin 10, decimalDigit k.val = '0' ↔ k.val = 0 := by decide
  exact all ⟨n, h⟩

/-- A character that has a value is the digit of that value. -/
theorem decimalDigit_of_decimalValue? (h : decimalValue? c = some n) :
    n < 10 ∧ decimalDigit n = c := by
  unfold decimalValue? at h
  split at h
  · rename_i digit
    cases h
    refine ⟨by omega, ?_⟩
    rw [decimalDigit, Nat.add_sub_cancel' digit.1, Char.ofNat_toNat]
  · cases h

/-- Reading the digits of a number is going on from that number. -/
theorem decimalFold?_decimalOnto (n : Nat) (tail : List Char) :
    decimalFold? 0 (decimalOnto n tail) = decimalFold? n tail := by
  induction n using Nat.strongRecOn generalizing tail with
  | _ n ih =>
    have digit : n % 10 < 10 := Nat.mod_lt _ (by decide)
    rw [decimalOnto]
    split
    · rename_i small
      simp [decimalFold?, Nat.mod_eq_of_lt small, decimalValue?_decimalDigit small]
    · rw [ih (n / 10) (by omega), decimalFold?, decimalValue?_decimalDigit digit]
      simp only [Option.bind_some]
      rw [Nat.mul_comm, Nat.div_add_mod]

theorem decimalFold?_decimal (n : Nat) : decimalFold? 0 (decimal n) = some n :=
  decimalFold?_decimalOnto n []

/-- What digits made of a number is written as that number before them. -/
theorem decimalOnto_of_decimalFold? (positive : 0 < acc) (h : decimalFold? acc cs = some n) :
    decimalOnto n tail = decimalOnto acc (cs ++ tail) := by
  induction cs generalizing acc with
  | nil =>
    cases h
    rfl
  | cons c cs ih =>
    obtain ⟨v, value, h⟩ := Option.bind_eq_some_iff.1 h
    obtain ⟨small, digit⟩ := decimalDigit_of_decimalValue? value
    have last : (acc * 10 + v) % 10 = v := by omega
    have others : (acc * 10 + v) / 10 = acc := by omega
    rw [ih (by omega) h, decimalOnto, if_neg (by omega), last, others, digit, List.cons_append]

/-- Digits that begin with another one than zero are those of the number that they spell. -/
theorem decimal_of_decimalFold? (nonzero : c ≠ '0') (h : decimalFold? 0 (c :: cs) = some n) :
    decimal n = c :: cs := by
  obtain ⟨v, value, h⟩ := Option.bind_eq_some_iff.1 h
  obtain ⟨small, digit⟩ := decimalDigit_of_decimalValue? value
  have positive : 0 < v := by
    refine Nat.pos_of_ne_zero fun zero => nonzero ?_
    rw [← digit, decimalDigit_eq_zero small, zero]
  rw [Nat.zero_mul, Nat.zero_add] at h
  rw [decimal, decimalOnto_of_decimalFold? positive h, List.append_nil, decimalOnto, if_pos small,
    Nat.mod_eq_of_lt small, digit]

/-- Only zero begins with the digit zero. -/
theorem exists_decimalOnto_cons (positive : 0 < n) (tail : List Char) :
    ∃ c rest, c ≠ '0' ∧ decimalOnto n tail = c :: rest := by
  induction n using Nat.strongRecOn generalizing tail with
  | _ n ih =>
    rw [decimalOnto]
    split
    · rename_i small
      refine ⟨_, _, fun zero => ?_, rfl⟩
      rw [Nat.mod_eq_of_lt small, decimalDigit_eq_zero small] at zero
      omega
    · exact ih (n / 10) (by omega) (by omega) _

theorem isDigit_of_mem_decimalOnto (h : c ∈ decimalOnto n tail) : c.isDigit = true ∨ c ∈ tail := by
  have digit (m : Nat) : (decimalDigit (m % 10)).isDigit = true :=
    isDigit_decimalDigit (Nat.mod_lt _ (by decide))
  induction n using Nat.strongRecOn generalizing tail with
  | _ n ih =>
    rw [decimalOnto] at h
    split at h
    · rcases List.mem_cons.1 h with rfl | h
      · exact .inl (digit n)
      · exact .inr h
    · rcases ih (n / 10) (by omega) h with found | h
      · exact .inl found
      · rcases List.mem_cons.1 h with rfl | h
        · exact .inl (digit n)
        · exact .inr h

theorem isDigit_of_mem_decimal (h : c ∈ decimal n) : c.isDigit = true :=
  (isDigit_of_mem_decimalOnto h).resolve_right List.not_mem_nil

/-- A number below a power of ten has no more digits than the exponent says. -/
theorem length_decimalOnto_le {width : Nat} (h : n < Nat.pow 10 (width + 1)) (tail : List Char) :
    (decimalOnto n tail).length ≤ width + 1 + tail.length := by
  induction width generalizing n tail with
  | zero =>
    have small : n < 10 := h
    rw [decimalOnto, if_pos small, List.length_cons]
    omega
  | succ width ih =>
    rw [decimalOnto]
    split
    · rw [List.length_cons]
      omega
    · have power : Nat.pow 10 (width + 1 + 1) = Nat.pow 10 (width + 1) * 10 := rfl
      have := ih (n := n / 10) (by omega) (decimalDigit (n % 10) :: tail)
      rw [List.length_cons] at this
      omega

end Roster.Digits
