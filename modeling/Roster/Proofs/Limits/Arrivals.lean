/-
Roster.Proofs.Limits.Arrivals — requests at an allowance, one after another.

All that decides about a request is who sent it, when it arrives, and one row of
the limiter (`Limiter.judge`); the layer of the service hands it on or turns it
away accordingly (`Serving.limited_eq`). The row of a sender is written by their
own requests only, so that what is said to them is what would be said to them
alone (`Limiter.said_verdicts`). Every statement about one sender is therefore
about a list of requests which are all theirs.
-/
import Roster.Proofs.Api.Boundary
import Roster.Proofs.Limits.Quota

namespace Roster

open Net (Address)

/-- A request that reaches an allowance, and when. -/
structure Arrival where
  time : Moment
  request : Http.Request

namespace Arrival

/-- The address that the request counts for, if it can be told. -/
def sender? (x : Arrival) : Option Address := Serving.clientAddress x.request

end Arrival

namespace Limiter

/-! ## §1 One request -/

/-- The limiter once a request of the address has been admitted. -/
def advance (l : Limiter) (a : Address) (now : Moment) : Limiter :=
  { l with reached := keep a ⟨max (l.reachedBy a now).nanos now.nanos + l.quota.period⟩ l.reached }

/-- What becomes of a request; one from nowhere is handed on and leaves no trace. -/
def judge (l : Limiter) (x : Arrival) : Verdict × Limiter :=
  match x.sender? with
  | none => (.admitted, l)
  | some a => l.check a x.time

variable {l m : Limiter} {a b who : Address} {now : Moment} {x : Arrival} {xs : List Arrival}

theorem judge_unknown (h : x.sender? = none) : l.judge x = (.admitted, l) := by
  simp [judge, h]

/-- A request is refused while the sender's instant lies more than a burst ahead. -/
theorem judge_refused (h : x.sender? = some a)
    (ahead : x.time.nanos + l.quota.reach < (l.reachedBy a x.time).nanos) :
    l.judge x =
      (.refused ((l.reachedBy a x.time).nanos - l.quota.reach - x.time.nanos).toNat, l) := by
  have early : x.time.nanos < (l.reachedBy a x.time).nanos - l.quota.reach := by omega
  simp [judge, h, check, opens, early]

theorem judge_admitted (h : x.sender? = some a)
    (within : (l.reachedBy a x.time).nanos ≤ x.time.nanos + l.quota.reach) :
    l.judge x = (.admitted, l.advance a x.time) := by
  have late : ¬x.time.nanos < (l.reachedBy a x.time).nanos - l.quota.reach := by omega
  simp [judge, h, check, opens, late, advance]

/-- What a limiter can do with a request of a sender. -/
theorem judge_cases (l : Limiter) (h : x.sender? = some a) :
    (x.time.nanos + l.quota.reach < (l.reachedBy a x.time).nanos ∧
      l.judge x =
        (.refused ((l.reachedBy a x.time).nanos - l.quota.reach - x.time.nanos).toNat, l)) ∨
    ((l.reachedBy a x.time).nanos ≤ x.time.nanos + l.quota.reach ∧
      l.judge x = (.admitted, l.advance a x.time)) := by
  by_cases ahead : x.time.nanos + l.quota.reach < (l.reachedBy a x.time).nanos
  · exact .inl ⟨ahead, judge_refused h ahead⟩
  · exact .inr ⟨by omega, judge_admitted h (by omega)⟩

theorem judge_eq_admitted (h : x.sender? = some a) :
    (l.judge x).1 = .admitted ↔ (l.reachedBy a x.time).nanos ≤ x.time.nanos + l.quota.reach := by
  rcases l.judge_cases h with ⟨ahead, judged⟩ | ⟨within, judged⟩
  · simp [judged, ahead]
  · simp [judged, within]

@[simp]
theorem quota_judge (l : Limiter) (x : Arrival) : (l.judge x).2.quota = l.quota := by
  cases h : x.sender? with
  | none => simp [judge_unknown h]
  | some a =>
    rcases l.judge_cases h with ⟨-, judged⟩ | ⟨-, judged⟩
    · simp [judged]
    · simp [judged, advance]

@[simp]
theorem quota_advance (l : Limiter) (a : Address) (now : Moment) :
    (l.advance a now).quota = l.quota := rfl

@[simp]
theorem lookup_advance_self (l : Limiter) (a : Address) (now : Moment) :
    (l.advance a now).reached.lookup a =
      some ⟨max (l.reachedBy a now).nanos now.nanos + l.quota.period⟩ :=
  lookup_keep_self ..

/-- Judging a request leaves the rows of all others alone. -/
theorem lookup_judge (h : x.sender? ≠ some who) :
    (l.judge x).2.reached.lookup who = l.reached.lookup who := by
  cases sender : x.sender? with
  | none => simp [judge_unknown sender]
  | some a =>
    have other : who ≠ a := by
      rintro rfl
      exact h sender
    rcases l.judge_cases sender with ⟨-, judged⟩ | ⟨-, judged⟩
    · simp [judged]
    · rw [judged]
      exact lookup_keep_of_ne other ..

theorem reachedBy_of_lookup {u : Moment} (h : l.reached.lookup a = some u) (now : Moment) :
    l.reachedBy a now = u := by
  simp [reachedBy, h]

theorem reachedBy_of_new (h : l.reached.lookup a = none) (now : Moment) :
    (l.reachedBy a now).nanos = now.nanos + l.quota.period := by
  simp [reachedBy, h]

/-! ## §2 Many requests -/

/-- The limiter once all the requests have been judged. -/
def after (l : Limiter) : List Arrival → Limiter
  | [] => l
  | x :: xs => (l.judge x).2.after xs

/-- The requests, each with what became of it. -/
def verdicts (l : Limiter) : List Arrival → List (Arrival × Verdict)
  | [] => []
  | x :: xs => (x, (l.judge x).1) :: (l.judge x).2.verdicts xs

@[simp] theorem after_nil (l : Limiter) : l.after [] = l := rfl

@[simp] theorem after_cons (l : Limiter) (x : Arrival) (xs : List Arrival) :
    l.after (x :: xs) = (l.judge x).2.after xs := rfl

@[simp] theorem verdicts_nil (l : Limiter) : l.verdicts [] = [] := rfl

@[simp] theorem verdicts_cons (l : Limiter) (x : Arrival) (xs : List Arrival) :
    l.verdicts (x :: xs) = (x, (l.judge x).1) :: (l.judge x).2.verdicts xs := rfl

theorem verdicts_append (l : Limiter) (xs ys : List Arrival) :
    l.verdicts (xs ++ ys) = l.verdicts xs ++ (l.after xs).verdicts ys := by
  induction xs generalizing l with
  | nil => rfl
  | cons x xs ih => simp [ih]

@[simp]
theorem quota_after (l : Limiter) (xs : List Arrival) : (l.after xs).quota = l.quota := by
  induction xs generalizing l with
  | nil => rfl
  | cons x xs ih => simp [ih]

/-- Requests of others leave the row of a sender alone. -/
theorem lookup_after (quiet : ∀ x ∈ xs, x.sender? ≠ some who) :
    (l.after xs).reached.lookup who = l.reached.lookup who := by
  induction xs generalizing l with
  | nil => rfl
  | cons x xs ih =>
    obtain ⟨first, rest⟩ := List.forall_mem_cons.1 quiet
    rw [after_cons, ih rest, lookup_judge first]

/-! ## §3 One sender -/

/-- Two limiters say the same to a sender, now and after the same requests of theirs. -/
structure Alike (who : Address) (l m : Limiter) : Prop where
  quota : l.quota = m.quota
  lookup : l.reached.lookup who = m.reached.lookup who

theorem Alike.refl (who : Address) (l : Limiter) : Alike who l l := ⟨rfl, rfl⟩

theorem Alike.reachedBy (h : Alike who l m) (now : Moment) :
    l.reachedBy who now = m.reachedBy who now := by
  simp [Limiter.reachedBy, h.lookup, h.quota]

theorem Alike.judge (h : Alike who l m) (sender : x.sender? = some who) :
    (l.judge x).1 = (m.judge x).1 ∧ Alike who (l.judge x).2 (m.judge x).2 := by
  have same := h.reachedBy x.time
  rcases m.judge_cases sender with ⟨ahead, judged⟩ | ⟨within, judged⟩
  · rw [← same, ← h.quota] at ahead
    rw [judged, judge_refused sender ahead, same, h.quota]
    exact ⟨rfl, h⟩
  · rw [← same, ← h.quota] at within
    rw [judged, judge_admitted sender within]
    refine ⟨rfl, h.quota, ?_⟩
    rw [lookup_advance_self, lookup_advance_self, same, h.quota]

theorem Alike.judge_other (h : Alike who l m) (other : x.sender? ≠ some who) :
    Alike who (l.judge x).2 m :=
  ⟨(l.quota_judge x).trans h.quota, (lookup_judge other).trans h.lookup⟩

/-- The requests of a sender. -/
def of (who : Address) (xs : List Arrival) : List Arrival :=
  xs.filter fun x => x.sender? = some who

/-- What is said to a sender. -/
def said (who : Address) (vs : List (Arrival × Verdict)) : List (Arrival × Verdict) :=
  vs.filter fun v => v.1.sender? = some who

/-- What is said to a sender is what is said to them alone. -/
theorem said_verdicts (h : Alike who l m) (xs : List Arrival) :
    said who (l.verdicts xs) = m.verdicts (of who xs) := by
  induction xs generalizing l m with
  | nil => rfl
  | cons x xs ih =>
    by_cases sender : x.sender? = some who
    · obtain ⟨verdict, next⟩ := h.judge sender
      rw [verdicts_cons, said, List.filter_cons_of_pos (by simpa using sender), of,
        List.filter_cons_of_pos (by simpa using sender), verdicts_cons, verdict, ← said, ih next,
        of]
    · rw [verdicts_cons, said, List.filter_cons_of_neg (by simpa using sender), of,
        List.filter_cons_of_neg (by simpa using sender), ← said, ih (h.judge_other sender), of]

end Limiter

/-! ## §4 The layer -/

/-- An allowance of the service that is kept where it is put. -/
structure Site.Door (get : Site → Limiter) (set : Site → Limiter → Site) : Prop
    extends Site.Keeps get set where
  get_set : ∀ site l, get (set site l) = l

theorem Site.door_signIns : Site.Door Site.signIns fun site l => { site with signIns := l } :=
  ⟨Site.keeps_signIns, fun _ _ => rfl⟩

theorem Site.door_requests : Site.Door Site.requests fun site l => { site with requests := l } :=
  ⟨Site.keeps_requests, fun _ _ => rfl⟩

namespace Serving

variable {get : Site → Limiter} {set : Site → Limiter → Site}

/-- The layer does what the verdict says, and keeps what the limiter has become. -/
theorem limited_eq (door : Site.Door get set) (r : Http.Request) (inner : Serving Http.Reply)
    (site : Site) :
    let judged := (get site).judge ⟨site.reading 0, r⟩
    limited get set r inner site = ruling inner judged.1 (site.judging get set r) ∧
      get (site.judging get set r) = judged.2 := by
  unfold limited Site.judging Limiter.judge Arrival.sender?
  cases clientAddress r with
  | none => exact ⟨rfl, rfl⟩
  | some a =>
    let later := site.within site.world.readClock.2
    let next := set later ((get later).check a (site.reading 0)).2
    have kept : get later = get site := door.get_within ..
    refine ⟨?_, ?_⟩
    · show ruling inner ((get later).check a (site.reading 0)).1 next =
        ruling inner ((get site).check a (site.reading 0)).1 next
      rw [kept]
    · show get next = ((get site).check a (site.reading 0)).2
      rw [door.get_set, kept]

end Serving

end Roster
