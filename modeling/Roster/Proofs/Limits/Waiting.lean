/-
Roster.Proofs.Limits.Waiting — how long who is refused is told to wait.

A refusal leaves the sender's instant where it is, and time alone brings the clock
up to it: the wait that a limiter computes is exact (`judge_after_wait`). What the
sender is told is the full seconds of that wait. For a wait of more than a second
that is no whole number of seconds, this is too early, by less than a second
(`lt_retrySeconds_succ`, `le_retrySeconds_iff`).
-/
import Roster.Proofs.Limits.Arrivals

namespace Roster

open Net (Address)

namespace Limiter

variable {l : Limiter} {who : Address} {x y : Arrival} {ys : List Arrival} {wait : Nat}

/-! ## §1 Seconds -/

theorem retrySeconds_eq (wait : Nat) : retrySeconds wait = max (wait / 1000000000) 1 := rfl

/-- One second more than is told is enough. -/
theorem lt_retrySeconds_succ (wait : Nat) : wait < (retrySeconds wait + 1) * 1000000000 := by
  rw [retrySeconds_eq]
  omega

/-- What is told is enough for the first second, and else for whole seconds only. -/
theorem le_retrySeconds_iff (wait : Nat) :
    wait ≤ retrySeconds wait * 1000000000 ↔ wait ≤ 1000000000 ∨ wait % 1000000000 = 0 := by
  rw [retrySeconds_eq]
  omega

/-! ## §2 The wait -/

/-- A refused sender has an instant, which is the wait and a burst ahead, and keeps it. -/
theorem mark_of_refused (sender : x.sender? = some who)
    (refused : (l.judge x).1 = .refused wait) :
    (l.judge x).2 = l ∧ ∃ u, l.reached.lookup who = some u ∧
      u.nanos = x.time.nanos + wait + l.quota.reach := by
  rcases l.judge_cases sender with ⟨ahead, judged⟩ | ⟨-, judged⟩
  · refine ⟨by rw [judged], ?_⟩
    rw [judged, Verdict.refused.injEq] at refused
    cases mark : l.reached.lookup who with
    | none =>
      -- The first request of all is not refused.
      have := l.quota.le_reach
      rw [reachedBy_of_new mark] at ahead
      omega
    | some u =>
      rw [reachedBy_of_lookup mark] at ahead refused
      exact ⟨u, rfl, by omega⟩
  · simp [judged] at refused

/-- As long as a refused sender is silent, time alone decides: the wait is exact. -/
theorem judge_after_wait (hx : x.sender? = some who) (hy : y.sender? = some who)
    (refused : (l.judge x).1 = .refused wait) (quiet : ∀ z ∈ ys, z.sender? ≠ some who) :
    (((l.judge x).2.after ys).judge y).1 = .admitted ↔
      x.time.nanos + wait ≤ y.time.nanos := by
  obtain ⟨same, u, mark, instant⟩ := mark_of_refused hx refused
  have later : (l.after ys).reached.lookup who = some u := (lookup_after quiet).trans mark
  rw [same, judge_eq_admitted hy, reachedBy_of_lookup later, quota_after]
  omega

/-! ## §3 What is told -/

open Serving in
/--
Of any limiter, so of the one of any allowance: who is refused is told the full
seconds of the wait, and one at least. Silent since then, they are admitted from
the wait on and not before: a second later than they were told they are admitted
in any case, but at the very time that they were told only if the wait was a
second at most, or whole seconds.
-/
theorem retry_after (new : Limiter) (xs ys : List Arrival) (x y : Arrival) (who : Address)
    (wait : Nat) (hx : x.sender? = some who) (hy : y.sender? = some who)
    (refused : ((new.after xs).judge x).1 = .refused wait)
    (quiet : ∀ z ∈ ys, z.sender? ≠ some who) :
    let limiter := new.after xs
    let told := retrySeconds wait
    (∀ get set, Site.Door get set → ∀ inner site, get site = limiter →
      site.reading 0 = x.time →
      let reply := (limited get set x.request inner site).1
      reply.status = 429 ∧ reply.headers.all "retry-after" = [Digits.natText told]) ∧
    ((((limiter.judge x).2.after ys).judge y).1 = .admitted ↔
      x.time.nanos + wait ≤ y.time.nanos) ∧
    ((x.time.addSeconds (told + 1)).nanos ≤ y.time.nanos →
      (((limiter.judge x).2.after ys).judge y).1 = .admitted) ∧
    (y.time = x.time.addSeconds told →
      ((((limiter.judge x).2.after ys).judge y).1 = .admitted ↔
        wait ≤ 1000000000 ∨ wait % 1000000000 = 0)) := by
  intro limiter told
  have decided := judge_after_wait hx hy refused quiet
  refine ⟨?_, decided, ?_, ?_⟩
  · intro get set door inner site here now reply
    have run := (limited_eq door x.request inner site).1
    have judged : (limiter.judge ⟨site.reading 0, x.request⟩).1 = .refused wait := by
      rw [now]
      exact refused
    rw [here, judged] at run
    have answer : reply = tooMany wait := congrArg Prod.fst run
    rw [answer]
    exact ⟨rfl, Http.Headers.all_put ..⟩
  · intro late
    have := lt_retrySeconds_succ wait
    simp only [Moment.addSeconds, Moment.second] at late
    rw [decided]
    omega
  · intro back
    rw [decided, ← le_retrySeconds_iff, back]
    simp only [Moment.addSeconds, Moment.second]
    omega

/-- Two requests in three seconds: the third is told to wait a second, and has to wait for two. -/
theorem retry_after_thrice :
    let who : Address := .v4 10 0 0 1
    let r : Http.Request := ⟨"GET", "/", "", [], [], some who⟩
    let x : Arrival := ⟨⟨0⟩, r⟩
    let y : Arrival := ⟨(⟨0⟩ : Moment).addSeconds 2, r⟩
    ∃ new, ofAllowance ⟨2, 3⟩ = .ok new ∧
      let limiter := new.after [x, x]
      (limiter.judge x).1 = .refused 1500000000 ∧ retrySeconds 1500000000 = 1 ∧
        ((limiter.judge x).2.judge y).1 = .admitted := by
  intro who r x y
  let new := ofQuota (.spread ⟨2, 3⟩)
  have refused : ((new.after [x, x]).judge x).1 = .refused 1500000000 := by decide +kernel
  have told := retry_after new [x, x] [] x y who 1500000000 rfl rfl refused nofun
  exact ⟨new, rfl, refused, by decide, told.2.2.1 (by decide)⟩

/-- Who comes back when they were told to may be refused again. -/
theorem retry_after_too_early :
    ¬∀ (a : Allowance) (new : Limiter) (xs ys : List Arrival) (x y : Arrival) (who : Address)
        (wait : Nat), ofAllowance a = .ok new → x.sender? = some who → y.sender? = some who →
      ((new.after xs).judge x).1 = .refused wait →
      (∀ z ∈ ys, z.sender? ≠ some who) → y.time = x.time.addSeconds (retrySeconds wait) →
      ((((new.after xs).judge x).2.after ys).judge y).1 = .admitted := by
  intro honest
  let who : Address := .v4 10 0 0 1
  let r : Http.Request := ⟨"GET", "/", "", [], [], some who⟩
  let x : Arrival := ⟨⟨0⟩, r⟩
  let y : Arrival := ⟨(⟨0⟩ : Moment).addSeconds 1, r⟩
  let new := ofQuota (.spread ⟨2, 3⟩)
  have refused : ((new.after [x, x]).judge x).1 = .refused 1500000000 := by decide +kernel
  have again : ((((new.after [x, x]).judge x).2.after []).judge y).1 = .refused 500000000 := by
    decide +kernel
  have admitted := honest ⟨2, 3⟩ new [x, x] [] x y who 1500000000 rfl rfl rfl refused nofun
    (by decide)
  rw [again] at admitted
  cases admitted

end Limiter

end Roster
