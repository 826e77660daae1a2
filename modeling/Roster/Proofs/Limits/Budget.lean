/-
Roster.Proofs.Limits.Budget — how much an allowance lets through.

Each admitted request of a sender moves their instant ahead by a period at least,
and none is admitted while the instant lies more than a burst ahead of the clock.
So the requests admitted in an interval are counted by how far the instant has
come (`mark_add_count`), which bounds them in every interval, whatever came
before (`count_le`). The other way round, the instant is never further ahead of
the last admitted request than a burst and a period (`mark_le`), so that a
sender who was silent for a window has all of their attempts again
(`all_admitted`). The bound counts one request more for a sender that returns
than for a new one, whose first request finds the instant a period ahead.
-/
import Roster.Proofs.Limits.Arrivals

namespace Roster

open Net (Address)

/-- The request arrives in the interval from a moment on, of so many nanoseconds, ends included. -/
def Arrival.Within (start : Moment) (width : Nat) (x : Arrival) : Prop :=
  start.nanos ≤ x.time.nanos ∧ x.time.nanos ≤ start.nanos + width

instance (start : Moment) (width : Nat) (x : Arrival) : Decidable (x.Within start width) :=
  inferInstanceAs (Decidable (_ ∧ _))

namespace Limiter

variable {l : Limiter} {who : Address} {start now u : Moment} {width : Nat} {x : Arrival}
  {xs : List Arrival}

/-! ## §1 At most -/

/-- How many of the requests are admitted in the interval. -/
def count (start : Moment) (width : Nat) (vs : List (Arrival × Verdict)) : Nat :=
  vs.countP fun v => v.1.Within start width ∧ v.2 = .admitted

theorem count_cons (x : Arrival) (v : Verdict) (vs : List (Arrival × Verdict)) :
    count start width ((x, v) :: vs) =
      count start width vs + if x.Within start width ∧ v = .admitted then 1 else 0 := by
  simp [count, List.countP_cons]

/-- Each request that is admitted in the interval moves the sender's instant by a period. -/
theorem mark_add_count (start : Moment) (width : Nat) (alone : ∀ x ∈ xs, x.sender? = some who)
    (mark : l.reached.lookup who = some u) :
    u.nanos + (count start width (l.verdicts xs) * l.quota.period : Nat) ≤
      max u.nanos (start.nanos + width + l.quota.reach + l.quota.period) := by
  induction xs generalizing l u with
  | nil => simp [count]
  | cons x xs ih =>
    obtain ⟨sender, rest⟩ := List.forall_mem_cons.1 alone
    rcases l.judge_cases sender with ⟨-, judged⟩ | ⟨within, judged⟩
    · simpa [judged, count_cons] using ih rest mark
    · have next := ih rest (l.lookup_advance_self who x.time)
      rw [reachedBy_of_lookup mark] at within
      simp only [reachedBy_of_lookup mark, quota_advance] at next
      simp only [verdicts_cons, judged, count_cons, and_true, Nat.add_mul]
      split
      · rename_i inside
        obtain ⟨-, early⟩ := inside
        omega
      · omega

/-- In every interval, whatever came before: a burst, one more, and one for each period. -/
theorem count_le (alone : ∀ x ∈ xs, x.sender? = some who) :
    count start width (l.verdicts xs) ≤ l.quota.burst + 1 + width / l.quota.period := by
  induction xs generalizing l with
  | nil => simp [count]
  | cons x xs ih =>
    obtain ⟨sender, rest⟩ := List.forall_mem_cons.1 alone
    have later : count start width ((l.judge x).2.verdicts xs) ≤ _ := ih rest
    rw [quota_judge] at later
    rw [verdicts_cons, count_cons]
    split
    · rename_i inside
      obtain ⟨⟨late, -⟩, admitted⟩ := inside
      rcases l.judge_cases sender with ⟨-, judged⟩ | ⟨-, judged⟩
      · simp [judged] at admitted
      · -- From here on the sender has an instant, which lies behind the start of the interval.
        have ahead := mark_add_count start width rest (l.lookup_advance_self who x.time)
        simp only [judged, quota_advance] at ahead ⊢
        have fit : count start width ((l.advance who x.time).verdicts xs) * l.quota.period ≤
            width + l.quota.reach := by omega
        have := Quota.le_of_mul_period fit
        omega
    · exact later

/-- In an interval with the first request of all, it is one less. -/
theorem count_le_of_new (alone : ∀ x ∈ xs, x.sender? = some who)
    (new : l.reached.lookup who = none) (first : ∀ x ∈ xs.head?, x.Within start width) :
    count start width (l.verdicts xs) ≤ l.quota.burst + width / l.quota.period := by
  cases xs with
  | nil => simp [count]
  | cons x xs =>
    obtain ⟨sender, rest⟩ := List.forall_mem_cons.1 alone
    obtain ⟨late, -⟩ := first x rfl
    have instant := reachedBy_of_new new x.time
    have room := l.quota.le_reach
    have within : (l.reachedBy who x.time).nanos ≤ x.time.nanos + l.quota.reach := by omega
    have ahead := mark_add_count start width rest (l.lookup_advance_self who x.time)
    simp only [verdicts_cons, judge_admitted sender within, count_cons, quota_advance] at ahead ⊢
    have fit : (count start width ((l.advance who x.time).verdicts xs) + 1) * l.quota.period ≤
        width + l.quota.reach := by
      rw [Nat.succ_mul]
      omega
    have := Quota.le_of_mul_period fit
    split <;> omega

/-! ## §2 At least -/

/-- The instant of a sender is at most a burst and a period ahead of a request of theirs. -/
theorem mark_le (mark : (l.after xs).reached.lookup who = some u) :
    l.reached.lookup who = some u ∨ ∃ x ∈ xs, x.sender? = some who ∧
      u.nanos ≤ x.time.nanos + l.quota.reach + l.quota.period := by
  induction xs generalizing l with
  | nil => exact .inl mark
  | cons x xs ih =>
    rcases ih mark with before | ⟨y, hy, sender, bound⟩
    · by_cases sender : x.sender? = some who
      · rcases l.judge_cases sender with ⟨-, judged⟩ | ⟨within, judged⟩
        · rw [judged] at before
          exact .inl before
        · rw [judged, lookup_advance_self, Option.some.injEq] at before
          refine .inr ⟨x, List.mem_cons_self, sender, ?_⟩
          rw [← before]
          dsimp only
          omega
      · rw [lookup_judge sender] at before
        exact .inl before
    · rw [quota_judge] at bound
      exact .inr ⟨y, List.mem_cons_of_mem _ hy, sender, bound⟩

/-- As many requests at once as there are periods up to a burst ahead of the sender's instant. -/
theorem all_admitted (alone : ∀ x ∈ xs, x.sender? = some who ∧ x.time = now)
    (few : xs.length ≤ l.quota.burst)
    (room : (l.reachedBy who now).nanos + (xs.length * l.quota.period : Nat) ≤
      now.nanos + l.quota.reach + l.quota.period) :
    ∀ v ∈ l.verdicts xs, v.2 = .admitted := by
  induction xs generalizing l with
  | nil => exact nofun
  | cons x xs ih =>
    obtain ⟨⟨sender, rfl⟩, rest⟩ := List.forall_mem_cons.1 alone
    rw [List.length_cons, Nat.succ_mul] at room
    rw [List.length_cons] at few
    have within : (l.reachedBy who x.time).nanos ≤ x.time.nanos + l.quota.reach := by omega
    rw [verdicts_cons, judge_admitted sender within]
    refine List.forall_mem_cons.2 ⟨rfl, ih rest (Nat.le_of_succ_le few) ?_⟩
    rw [reachedBy_of_lookup (l.lookup_advance_self who x.time)]
    have most : xs.length * l.quota.period + l.quota.period ≤ l.quota.reach := by
      rw [← Nat.succ_mul, Quota.reach, Nat.mul_comm l.quota.period]
      exact Nat.mul_le_mul_right _ few
    show max (l.reachedBy who x.time).nanos x.time.nanos + (l.quota.period : Int) +
      (xs.length * l.quota.period : Nat) ≤ x.time.nanos + l.quota.reach + l.quota.period
    omega

/-- A sender who was silent for a burst finds their instant a period ahead at most. -/
theorem reachedBy_after_silence (new : l.reached.lookup who = none)
    (silent : ∀ x ∈ xs, x.sender? = some who →
      x.time.nanos + l.quota.reach ≤ now.nanos) :
    ((l.after xs).reachedBy who now).nanos ≤ now.nanos + l.quota.period := by
  cases mark : (l.after xs).reached.lookup who with
  | none => rw [reachedBy_of_new mark, quota_after]
  | some u =>
    rw [reachedBy_of_lookup mark]
    rcases mark_le mark with before | ⟨x, hx, sender, bound⟩
    · simp [new] at before
    · have := silent x hx sender
      omega

/-! ## §3 The allowance -/

open Serving in
/--
An allowance of so many attempts in so many seconds, for which there is a limiter,
kept to by a layer of the service, which hands a request on exactly if it is
admitted. With the window over the attempts as the period, rounded down to
milliseconds: in every interval, at most the attempts, one more, and one for each
full period reach what lies behind the layer from one address; one less if the
interval has the first request of that address. Who has sent nothing for a window
has all attempts at once. What is said to an address is the same whatever others
send; and who cannot be told is let pass, without a trace.
-/
theorem budget (a : Allowance) (attempts : 1 ≤ a.attempts) (seconds : 1 ≤ a.seconds)
    (millis : a.attempts ≤ 1000 * a.seconds) (word : a.seconds * 1000000000 < 2 ^ 64) :
    let period := 1000 * a.seconds / a.attempts * Quota.millisecond
    ∃ limiter, ofAllowance a = .ok limiter ∧
    (∀ get set, Site.Door get set → ∀ r inner site,
      let judged := (get site).judge ⟨site.reading 0, r⟩
      limited get set r inner site = ruling inner judged.1 (site.judging get set r) ∧
        get (site.judging get set r) = judged.2) ∧
    (∀ who xs start width, let n := count start width (said who (limiter.verdicts xs))
      n ≤ a.attempts + 1 + width / period ∧
        ((∀ x ∈ (of who xs).head?, x.Within start width) → n ≤ a.attempts + width / period)) ∧
    (∀ who xs zs now,
      (∀ x ∈ of who xs, x.time.nanos + (a.seconds * 1000000000 : Nat) ≤ now.nanos) →
      (∀ z ∈ of who zs, z.time = now) → (of who zs).length ≤ a.attempts →
      ∀ v ∈ said who ((limiter.after xs).verdicts zs), v.2 = .admitted) ∧
    (∀ who xs ys, of who xs = of who ys →
      said who (limiter.verdicts xs) = said who (limiter.verdicts ys)) ∧
    ∀ xs x ys, x.sender? = none → limiter.verdicts (xs ++ x :: ys) =
      limiter.verdicts xs ++ (x, .admitted) :: (limiter.after xs).verdicts ys := by
  intro period
  have fits : a.Fits := .of_window seconds millis word
  let limiter := ofQuota (.spread a)
  have burst : limiter.quota.burst = a.attempts := Quota.burst_spread attempts
  have length : limiter.quota.period = period := Quota.period_spread attempts seconds millis
  have window : limiter.quota.reach ≤ a.seconds * 1000000000 :=
    Quota.reach_le_window seconds millis
  have new (who : Address) : limiter.reached.lookup who = none := rfl
  have theirs (who : Address) (xs : List Arrival) : ∀ x ∈ of who xs, x.sender? = some who :=
    fun x hx => of_decide_eq_true (List.mem_filter.1 hx).2
  refine ⟨limiter, ofAllowance_eq_ok.2 ⟨fits, rfl⟩,
    fun get set door r inner site => limited_eq door r inner site, ?_, ?_, ?_, ?_⟩
  · intro who xs start width n
    have alone : n = count start width (limiter.verdicts (of who xs)) := by
      rw [← said_verdicts (.refl who limiter)]
    rw [alone, ← length, ← burst]
    exact ⟨count_le (theirs who xs), count_le_of_new (theirs who xs) (new who)⟩
  · intro who xs zs now silent together few
    rw [said_verdicts (.refl who (limiter.after xs))]
    have ahead : ((limiter.after xs).reachedBy who now).nanos ≤
        now.nanos + limiter.quota.period := by
      refine reachedBy_after_silence (new who) fun x hx sender => ?_
      have := silent x (List.mem_filter.2 ⟨hx, decide_eq_true sender⟩)
      omega
    refine all_admitted (fun z hz => ⟨theirs who zs z hz, together z hz⟩) ?_ ?_
    · rw [quota_after, burst]
      exact few
    · rw [quota_after]
      have : (of who zs).length * limiter.quota.period ≤ limiter.quota.reach := by
        rw [Quota.reach, Nat.mul_comm limiter.quota.period, burst]
        exact Nat.mul_le_mul_right _ few
      omega
  · intro who xs ys same
    rw [said_verdicts (.refl who limiter), said_verdicts (.refl who limiter), same]
  · intro xs x ys unknown
    rw [verdicts_append, verdicts_cons, judge_unknown unknown]

/-- An address that returns is let through three times at once, where two attempts are allowed. -/
theorem budget_returning :
    let a : Allowance := ⟨2, 3⟩
    let who : Address := .v4 10 0 0 1
    let r : Http.Request := ⟨"GET", "/", "", [], [], some who⟩
    let late : Moment := ⟨100000000000⟩
    let xs : List Arrival := [⟨⟨0⟩, r⟩, ⟨late, r⟩, ⟨late, r⟩, ⟨late, r⟩, ⟨late, r⟩]
    (1 ≤ a.attempts ∧ 1 ≤ a.seconds ∧ a.attempts ≤ 1000 * a.seconds ∧
      a.seconds * 1000000000 < 2 ^ 64) ∧
    ∃ limiter, ofAllowance a = .ok limiter ∧
      let n := count late 0 (said who (limiter.verdicts xs))
      n = 3 ∧ n ≤ a.attempts + 1 := by
  intro a who r late xs
  obtain ⟨limiter, built, -, most, -⟩ :=
    budget a (by decide) (by decide) (by decide) (by decide)
  obtain ⟨-, rfl⟩ := ofAllowance_eq_ok.1 built
  have three : count late 0 (said who ((ofQuota (.spread a)).verdicts xs)) = 3 := by
    decide +kernel
  exact ⟨by decide, _, built, three, (most who xs late 0).1.trans (by decide)⟩

end Limiter

end Roster
