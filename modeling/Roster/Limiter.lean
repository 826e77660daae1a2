/-
Roster.Limiter — so many requests in so much time, for each address.

An address may send a burst of requests at once and then one in each period.
For each address the limiter keeps one instant, the one up to which its
requests so far are spread out, one per period. A request is refused while
that instant lies more than a whole burst ahead.
-/
import Roster.Moment
import Roster.Net.Address

namespace Roster

open Net (Address)

/-- So many requests in so many seconds. -/
structure Allowance where
  attempts : Nat
  seconds : Nat
  deriving DecidableEq, Repr

/-- A burst of requests, and the nanoseconds after which each of them may be repeated. -/
structure Quota where
  period : Nat
  burst : Nat
  period_pos : 0 < period
  burst_pos : 0 < burst

namespace Quota

/-- A number that does not fit its 64 bits; what computes it stops. -/
inductive Overflow where
  /-- The milliseconds of a window. -/
  | window
  /-- The nanoseconds of a whole burst. -/
  | reach
  deriving DecidableEq, Repr

def Overflow.message : Overflow → String
  | window => "attempt to multiply with overflow"
  | reach => "Duration is longer than 584 years: TryFromIntError(())"

/-- Nanoseconds in a millisecond. -/
def millisecond : Nat := 1000000

/-- The window of an allowance in milliseconds; no window is below a second. -/
def windowMillis (a : Allowance) : Nat := max a.seconds 1 * 1000

/-- The period in milliseconds: the window over the attempts, at least one. -/
def periodMillis (a : Allowance) : Nat := max (windowMillis a / max a.attempts 1) 1

/-- The quota that spreads an allowance evenly over its window; at least one attempt is allowed. -/
def spread (a : Allowance) : Quota where
  period := periodMillis a * millisecond
  burst := max a.attempts 1
  period_pos := Nat.mul_pos (by unfold periodMillis; omega) (by decide)
  burst_pos := by omega

/-- How far ahead of the clock the requests of an address may reach. -/
def reach (q : Quota) : Nat := q.period * q.burst

/-- The quota of an allowance, unless its window or its reach is too long for a word. -/
def ofAllowance (a : Allowance) : Except Overflow Quota :=
  if UInt64.size ≤ windowMillis a then .error .window
  else if UInt64.size ≤ (spread a).reach then .error .reach
  else .ok (spread a)

end Quota

/-- A quota and, for each address seen, the instant up to which its requests reach. -/
structure Limiter where
  quota : Quota
  reached : List (Address × Moment)

namespace Limiter

/-- What becomes of a request. -/
inductive Verdict where
  | admitted
  /-- Refused; one would be admitted after so many nanoseconds. -/
  | refused (wait : Nat)
  deriving DecidableEq, Repr

/-- A limiter that has seen nobody. -/
def ofQuota (q : Quota) : Limiter := ⟨q, []⟩

def ofAllowance (a : Allowance) : Except Quota.Overflow Limiter :=
  (Quota.ofAllowance a).map ofQuota

/-- The instant up to which the requests of an address reach; for a new one, the first period. -/
def reachedBy (l : Limiter) (a : Address) (now : Moment) : Moment :=
  (l.reached.lookup a).getD ⟨now.nanos + l.quota.period⟩

/-- The first instant at which a request of the address is admitted. -/
def opens (l : Limiter) (a : Address) (now : Moment) : Moment :=
  ⟨(l.reachedBy a now).nanos - l.quota.reach⟩

/-- Keeps the instant for an address. -/
def keep (a : Address) (t : Moment) : List (Address × Moment) → List (Address × Moment)
  | [] => [(a, t)]
  | (b, u) :: rest => if b = a then (a, t) :: rest else (b, u) :: keep a t rest

/-- Judges a request of an address; a refused one changes nothing. -/
def check (l : Limiter) (a : Address) (now : Moment) : Verdict × Limiter :=
  let opens := (l.opens a now).nanos
  if now.nanos < opens then (.refused (opens - now.nanos).toNat, l)
  else
    let next := max (l.reachedBy a now).nanos now.nanos + l.quota.period
    (.admitted, { l with reached := keep a ⟨next⟩ l.reached })

/-- The full seconds of a wait, and never none. -/
def retrySeconds (wait : Nat) : Nat := max (wait / Moment.second.toNat) 1

theorem lookup_keep_self (a : Address) (t : Moment) (rows : List (Address × Moment)) :
    (keep a t rows).lookup a = some t := by
  induction rows with
  | nil => simp [keep]
  | cons row rest ih =>
    obtain ⟨b, u⟩ := row
    by_cases h : b = a
    · simp [keep, h]
    · have : (a == b) = false := by simp [Ne.symm h]
      simp [keep, h, List.lookup_cons, this, ih]

theorem lookup_keep_of_ne {a b : Address} (h : b ≠ a) (t : Moment)
    (rows : List (Address × Moment)) : (keep a t rows).lookup b = rows.lookup b := by
  induction rows with
  | nil => simp [keep, List.lookup_cons, show (b == a) = false by simp [h]]
  | cons row rest ih =>
    obtain ⟨c, u⟩ := row
    by_cases hc : c = a
    · subst hc
      simp [keep, List.lookup_cons, show (b == c) = false by simp [h]]
    · simp [keep, hc, List.lookup_cons, ih]

end Limiter

end Roster
