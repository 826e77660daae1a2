/-
Roster.Proofs.Limits.Quota — how an allowance is spread over its window.

The period is the window over the attempts, to full milliseconds, and a whole
burst reaches no further than the window, or than a millisecond for each attempt
(`reach_le`). Both the milliseconds of the window and the nanoseconds of the
reach have to fit 64 bits (`Allowance.Fits`): there is a limiter for exactly the
allowances for which they do (`Limiter.ofAllowance_eq_ok`), and else the first
of the two that does not is what is wrong (`Quota.ofAllowance_error`). Up to
584 years they fit, whatever the attempts (`Allowance.fits_of_le`).
-/
import Mathlib.Algebra.GroupWithZero.Nat
import Roster.Limiter

namespace Roster

/-- The attempts are a word of 32 bits, and the seconds are one of 64. -/
structure Allowance.InWords (a : Allowance) : Prop where
  attempts : a.attempts < 2 ^ 32
  seconds : a.seconds < 2 ^ 64

/-- The numbers of the quota of an allowance are words of 64 bits. -/
structure Allowance.Fits (a : Allowance) : Prop where
  window : max a.seconds 1 * 1000 < 2 ^ 64
  reach : (Quota.spread a).reach < 2 ^ 64

namespace Quota

variable {a : Allowance}

/-! ## §1 Periods -/

theorem burst_spread (attempts : 1 ≤ a.attempts) : (spread a).burst = a.attempts :=
  Nat.max_eq_left attempts

/-- The window is divided by the attempts, to full milliseconds. -/
theorem period_spread (attempts : 1 ≤ a.attempts) (seconds : 1 ≤ a.seconds)
    (millis : a.attempts ≤ 1000 * a.seconds) :
    (spread a).period = 1000 * a.seconds / a.attempts * millisecond := by
  have some : 1 ≤ 1000 * a.seconds / a.attempts := Nat.div_pos millis attempts
  show max (max a.seconds 1 * 1000 / max a.attempts 1) 1 * millisecond = _
  rw [Nat.max_eq_left seconds, Nat.max_eq_left attempts, Nat.mul_comm a.seconds,
    Nat.max_eq_left some]

/-! ## §2 Reaches -/

/-- A sender's first request, a period ahead of the clock, is within a burst. -/
theorem le_reach (q : Quota) : q.period ≤ q.reach := Nat.le_mul_of_pos_right _ q.burst_pos

/-- Periods that fit into a burst and a width beside it. -/
theorem le_of_mul_period {q : Quota} {n width : Nat}
    (h : n * q.period ≤ width + q.reach) : n ≤ q.burst + width / q.period := by
  have : n ≤ (width + q.burst * q.period) / q.period :=
    (Nat.le_div_iff_mul_le q.period_pos).2 (by rwa [reach, Nat.mul_comm q.period] at h)
  rwa [Nat.add_mul_div_right _ _ q.period_pos, Nat.add_comm] at this

/-- A period below a millisecond is rounded up to one, or else down. -/
theorem reach_le (a : Allowance) :
    (spread a).reach ≤ max (max a.seconds 1 * 1000) (max a.attempts 1) * millisecond := by
  have spread : periodMillis a * max a.attempts 1 ≤
      max (max a.seconds 1 * 1000) (max a.attempts 1) := by
    have down := Nat.div_mul_le_self (max a.seconds 1 * 1000) (max a.attempts 1)
    rw [periodMillis, windowMillis, ← Nat.mul_max_mul_right, Nat.one_mul]
    omega
  calc (Quota.spread a).reach
      = periodMillis a * max a.attempts 1 * millisecond := Nat.mul_right_comm ..
    _ ≤ max (max a.seconds 1 * 1000) (max a.attempts 1) * millisecond :=
        Nat.mul_le_mul_right _ spread

/-- All attempts together reach no further than the window. -/
theorem reach_le_window (seconds : 1 ≤ a.seconds) (millis : a.attempts ≤ 1000 * a.seconds) :
    (spread a).reach ≤ a.seconds * 1000000000 := by
  refine Nat.le_trans (reach_le a) ?_
  unfold millisecond
  omega

/-! ## §3 Words -/

theorem ofAllowance_eq_ok {q : Quota} : ofAllowance a = .ok q ↔ a.Fits ∧ q = spread a := by
  unfold ofAllowance
  constructor
  · intro h
    split at h
    · cases h
    split at h
    · cases h
    rename_i window reach
    cases h
    exact ⟨⟨Nat.lt_of_not_le window, Nat.lt_of_not_le reach⟩, rfl⟩
  · rintro ⟨fits, rfl⟩
    have window : ¬UInt64.size ≤ windowMillis a := Nat.not_le_of_lt fits.window
    have reach : ¬UInt64.size ≤ (spread a).reach := Nat.not_le_of_lt fits.reach
    rw [if_neg window, if_neg reach]

/-- What is wrong with an allowance that has no quota; the window is looked at first. -/
theorem ofAllowance_error {o : Overflow} (h : ofAllowance a = .error o) :
    o = .window ∧ 2 ^ 64 ≤ max a.seconds 1 * 1000 ∨
      o = .reach ∧ max a.seconds 1 * 1000 < 2 ^ 64 ∧ 2 ^ 64 ≤ (spread a).reach := by
  unfold ofAllowance at h
  split at h
  · rename_i long
    exact .inl ⟨(Except.error.inj h).symm, long⟩
  · rename_i short
    split at h
    · rename_i far
      exact .inr ⟨(Except.error.inj h).symm, Nat.lt_of_not_le short, far⟩
    · cases h

end Quota

namespace Allowance

variable {a : Allowance}

/-- Up to 584 years, the numbers fit whatever the attempts. -/
theorem fits_of_le (attempts : a.attempts < 2 ^ 32) (short : a.seconds ≤ 18446744073) :
    a.Fits where
  window := by omega
  reach := by
    refine Nat.lt_of_le_of_lt (Quota.reach_le a) ?_
    unfold Quota.millisecond
    omega

/-- With a period of a millisecond at least, they fit as the nanoseconds of the window do. -/
theorem Fits.of_window (seconds : 1 ≤ a.seconds) (millis : a.attempts ≤ 1000 * a.seconds)
    (word : a.seconds * 1000000000 < 2 ^ 64) : a.Fits where
  window := by
    rw [Nat.max_eq_left seconds]
    exact Nat.lt_of_le_of_lt (Nat.mul_le_mul_left _ (by decide)) word
  reach := Nat.lt_of_le_of_lt (Quota.reach_le_window seconds millis) word

end Allowance

namespace Limiter

variable {a : Allowance}

theorem ofAllowance_eq_ok {l : Limiter} :
    ofAllowance a = .ok l ↔ a.Fits ∧ l = ofQuota (.spread a) := by
  unfold ofAllowance
  constructor
  · intro h
    cases quota : Quota.ofAllowance a with
    | error o =>
      rw [quota] at h
      cases h
    | ok q =>
      rw [quota] at h
      cases h
      obtain ⟨fits, rfl⟩ := Quota.ofAllowance_eq_ok.1 quota
      exact ⟨fits, rfl⟩
  · rintro ⟨fits, rfl⟩
    rw [Quota.ofAllowance_eq_ok.2 ⟨fits, rfl⟩]
    rfl

end Limiter

end Roster
