/-
Roster.Proofs.Service.Pool — programs that run at the same time over one store.

A `Pool` interleaves programs request by request. Each draws from streams of its
own: of a source that all share, these are the draws that fall to it. `begin`
waits until no unit of work is open, everything else is done at once, and a
program may be cancelled before any of its requests; the unit of work that it
holds is lost when it ends in any way before its commit. The pool records who
opened a unit of work, in this order, and all that was published.

For programs with one unit of work at most (`Program.Single`) the outcome is
that of running, one after another, those that committed. The invariant
(`Valid`) gives every program a `Stage`: what is left of it, run in its present
surroundings, ends as the whole program does when it runs alone on the tables
that it found. The holder of the unit of work is always the last that opened
one, so that these tables are still the published ones when it commits.
-/
import Mathlib.Data.List.Infix
import Mathlib.Logic.Function.Basic
import Roster.Proofs.Service.UnitOfWork

namespace Roster

open Store (State)
open World (idle amid)

/-! ## §1 Pools -/

/-- How far a program has come. -/
inductive Phase (α : Type) where
  | running (rest : Program α)
  | finished (a : α)
  | cancelled

/-- A program among others, with the streams that are left to it. -/
structure Thread (α : Type) where
  phase : Phase α
  supply : Supply
  /-- Whether it has published its unit of work. -/
  committed : Bool

/-- Programs that run at the same time over one store. -/
structure Pool {ι : Type} (α : ι → Type) where
  published : State
  /-- The unit of work that is open: who holds it, and its working copy. -/
  tx : Option (ι × State)
  thread : (i : ι) → Thread (α i)
  /-- Who opened a unit of work, the latest first. -/
  acquired : List ι
  /-- All that was published, the latest first. -/
  history : List State

/-- What may happen next in a pool. -/
inductive Event (ι : Type) where
  /-- The program makes its next request, or returns if it has none left. -/
  | advance (i : ι)
  | cancel (i : ι)

namespace Request

/-- Whether a request opens a unit of work. -/
def opens : Request → Bool
  | store .begin => true
  | _ => false

/-- Whether a request publishes a unit of work. -/
def commits : Request → Bool
  | store .commit => true
  | _ => false

end Request

theorem Program.runOpen_ask {α : Type} {r : Request} (next : r.Answer → Program α) {w w' : World}
    {x : r.Answer} (e : w.answer r = (x, w')) :
    (Program.ask r next).runOpen w = (next x).runOpen w' := by
  rw [Program.runOpen, e]

namespace Pool

variable {ι : Type} [DecidableEq ι] {α : ι → Type}

/-- All programs before their first request. -/
def start (p : (i : ι) → Program (α i)) (draws : ι → Supply) (s : State) : Pool α where
  published := s
  tx := none
  thread i := ⟨.running (p i), draws i, false⟩
  acquired := []
  history := [s]

/-- The working copy of a program, if it holds the unit of work. -/
def held (tx : Option (ι × State)) (i : ι) : Option State :=
  match tx with
  | some (j, t) => if j = i then some t else none
  | none => none

/-- The unit of work that is open once a program has let go of its own. -/
def without (tx : Option (ι × State)) (i : ι) : Option (ι × State) :=
  tx.filter fun x => x.1 ≠ i

/-- The surroundings of a program. -/
def world (m : Pool α) (i : ι) : World :=
  ⟨m.published, held m.tx i, (m.thread i).supply, []⟩

/-- A program ends in a phase; the unit of work that it holds is lost. -/
def quit (m : Pool α) (i : ι) (phase : Phase (α i)) : Pool α :=
  { m with
    tx := without m.tx i
    thread := Function.update m.thread i { m.thread i with phase } }

/-- A program makes a request, or waits if it wants the unit of work that another holds. -/
def ask (m : Pool α) (i : ι) (r : Request) (next : r.Answer → Program (α i)) : Pool α :=
  if r.opens && m.tx.isSome then m
  else
    let out := (m.world i).answer r
    let commits := r.commits && (held m.tx i).isSome
    { published := out.2.published
      tx := match out.2.working with
        | some t => some (i, t)
        | none => without m.tx i
      thread := Function.update m.thread i
        ⟨.running (next out.1), out.2.supply, (m.thread i).committed || commits⟩
      acquired := if r.opens then i :: m.acquired else m.acquired
      history := if commits then out.2.published :: m.history else m.history }

/-- What an event does; nothing happens to a program that has ended. -/
def step (m : Pool α) : Event ι → Pool α
  | .advance i =>
    match (m.thread i).phase with
    | .running (.done a) => m.quit i (.finished a)
    | .running (.ask r next) => m.ask i r next
    | _ => m
  | .cancel i =>
    match (m.thread i).phase with
    | .running _ => m.quit i .cancelled
    | _ => m

/-- The pool after events. -/
def play (m : Pool α) (es : List (Event ι)) : Pool α := es.foldl step m

def committed (m : Pool α) (i : ι) : Bool := (m.thread i).committed

/-- Those that have committed, in the order in which they opened their units of work. -/
def turns (m : Pool α) : List ι := m.acquired.filter m.committed

/-! ## §2 Who holds the unit of work -/

variable {tx : Option (ι × State)} {i j : ι} {t : State}

theorem held_eq_some : held tx i = some t ↔ tx = some (i, t) := by
  rcases tx with _ | ⟨j, u⟩
  · simp [held]
  · simp only [held, Option.some.injEq, Prod.mk.injEq]
    by_cases e : j = i <;> simp [e]

theorem held_without (tx : Option (ι × State)) (i : ι) : held (without tx i) i = none := by
  rcases tx with _ | ⟨j, u⟩
  · rfl
  · by_cases e : j = i <;> simp [held, without, Option.filter, e]

theorem held_without_of_ne (tx : Option (ι × State)) (ne : j ≠ i) :
    held (without tx i) j = held tx j := by
  rcases tx with _ | ⟨k, u⟩
  · rfl
  · by_cases e : k = i
    · simp [held, without, Option.filter, e, ne.symm]
    · simp [without, Option.filter, e]

theorem held_some_of_ne (ne : j ≠ i) (t : State) : held (some (i, t)) j = none := if_neg ne.symm

theorem eq_of_without_eq_some (h : without tx i = some (j, t)) : tx = some (j, t) :=
  (Option.filter_eq_some_iff.1 h).1

/-! ## §3 One after another -/

variable (p : (i : ι) → Program (α i)) (draws : ι → Supply) (s₀ : State)

/-- The tables after programs have run alone, one after another, the latest first. -/
def inTurn : List ι → State
  | [] => s₀
  | i :: earlier => ((p i).run (idle (inTurn earlier) (draws i))).2.published

/-- The tables that a program finds: those of all that committed before it. -/
def place (committed : ι → Bool) (i : ι) : List ι → Option State
  | [] => none
  | j :: earlier =>
    if j = i then some (inTurn p draws s₀ (earlier.filter committed)) else place committed i earlier

variable {p draws s₀} {c c' : ι → Bool} {l : List ι}

theorem place_eq_none : place p draws s₀ c i l = none ↔ i ∉ l := by
  induction l with
  | nil => simp [place]
  | cons j l ih =>
    rw [place]
    by_cases e : j = i
    · simp [e]
    · simp [e, ih, Ne.symm e]

theorem place_congr (same : ∀ j ∈ l, c j = c' j) :
    place p draws s₀ c i l = place p draws s₀ c' i l := by
  induction l with
  | nil => rfl
  | cons j l ih =>
    have rest : ∀ k ∈ l, c k = c' k := fun k hk => same k (List.mem_cons_of_mem _ hk)
    rw [place, place, List.filter_congr rest, ih rest]

theorem place_append {later earlier : List ι} (nodup : (later ++ i :: earlier).Nodup) :
    place p draws s₀ c i (later ++ i :: earlier) =
      some (inTurn p draws s₀ (earlier.filter c)) := by
  induction later with
  | nil => exact if_pos rfl
  | cons j later ih =>
    rw [List.cons_append, List.nodup_cons] at nodup
    have ne : j ≠ i := by
      rintro rfl
      exact nodup.1 (List.mem_append_right _ List.mem_cons_self)
    rw [List.cons_append, place, if_neg ne]
    exact ih nodup.2

/-- Among the turns, what a program finds is left by the turns before its own. -/
theorem place_of_turns (nodup : l.Nodup) {later earlier : List ι}
    (e : l.filter c = later ++ i :: earlier) :
    place p draws s₀ c i l = some (inTurn p draws s₀ earlier) := by
  obtain ⟨l₁, l₂, rfl, -, h⟩ := List.filter_eq_append_iff.1 e
  obtain ⟨l₃, l₄, rfl, -, -, rfl⟩ := List.filter_eq_cons_iff.1 h
  rw [← List.append_assoc] at nodup ⊢
  exact place_append nodup

/-! ## §4 Stages -/

/--
Where a program stands that began with the given streams: `place` is what it
found when it opened its unit of work, `working` the copy that it holds.
-/
inductive Stage {α : Type} (P : α → Prop) (p : Program α) (supply₀ : Supply) :
    (place working : Option State) → Thread α → Prop
  /-- It has not asked anything of the store. -/
  | waiting {rest : Program α} {supply : Supply} : rest.Single P →
    (∀ s, p.runOpen (idle s supply₀) = rest.runOpen (idle s supply)) →
      Stage P p supply₀ none none ⟨.running rest, supply, false⟩
  /-- It ended without the store. -/
  | apart {a : α} {supply : Supply} :
    (∀ s, p.run (idle s supply₀) = (a, idle s supply)) →
      Stage P p supply₀ none none ⟨.finished a, supply, false⟩
  /-- It holds the unit of work. -/
  | inside {s t : State} {rest : Program α} {supply : Supply} : rest.Inside P →
    p.runOpen (idle s supply₀) = rest.runOpen (amid s t supply) →
      Stage P p supply₀ (some s) (some t) ⟨.running rest, supply, false⟩
  /-- It ended without a commit. -/
  | dropped {s : State} {a : α} {supply : Supply} :
    p.run (idle s supply₀) = (a, idle s supply) →
      Stage P p supply₀ (some s) none ⟨.finished a, supply, false⟩
  /-- It has committed and is about to return. -/
  | through {s t : State} {a : α} {supply : Supply} : P a →
    p.run (idle s supply₀) = (a, idle t supply) →
      Stage P p supply₀ (some s) none ⟨.running (.done a), supply, true⟩
  /-- It committed and returned. -/
  | left {s t : State} {a : α} {supply : Supply} : P a →
    p.run (idle s supply₀) = (a, idle t supply) →
      Stage P p supply₀ (some s) none ⟨.finished a, supply, true⟩
  | cancelled {place : Option State} {supply : Supply} {committed : Bool} :
    Stage P p supply₀ place none ⟨.cancelled, supply, committed⟩

/-- What all events keep. -/
structure Valid (P : (i : ι) → α i → Prop) (p : (i : ι) → Program (α i)) (draws : ι → Supply)
    (s₀ : State) (m : Pool α) : Prop where
  stages : ∀ i, Stage (P i) (p i) (draws i) (place p draws s₀ m.committed i m.acquired)
    (held m.tx i) (m.thread i)
  nodup : m.acquired.Nodup
  /-- The holder of the unit of work is the last that opened one. -/
  holder : ∀ i t, m.tx = some (i, t) → ∃ earlier, m.acquired = i :: earlier
  published : m.published = inTurn p draws s₀ m.turns
  history : m.history = m.turns.tails.map (inTurn p draws s₀)

variable {P : (i : ι) → α i → Prop} {m : Pool α}

theorem Valid.start (single : ∀ i, (p i).Single (P i)) :
    Valid P p draws s₀ (start p draws s₀) where
  stages i := .waiting (single i) fun _ => rfl
  nodup := List.nodup_nil
  holder := nofun
  published := rfl
  history := rfl

/-! ## §5 What a single event keeps -/

theorem committed_update {th : Thread (α i)} (same : th.committed = m.committed i) (j : ι) :
    (Function.update m.thread i th j).committed = m.committed j := by
  by_cases e : j = i
  · subst e
    rw [Function.update_self, same]
  · rw [Function.update_of_ne e]
    rfl

/-- A program goes on, with no effect on what is published or on who opened what. -/
theorem Valid.goes_on (h : Valid P p draws s₀ m) {th : Thread (α i)} {tx : Option (ι × State)}
    (same : th.committed = m.committed i)
    (keeps : tx = without m.tx i ∨ ∃ t t', m.tx = some (i, t) ∧ tx = some (i, t'))
    (stage : Stage (P i) (p i) (draws i) (place p draws s₀ m.committed i m.acquired) (held tx i)
      th) :
    Valid P p draws s₀ { m with tx, thread := Function.update m.thread i th } := by
  have turns : ∀ j, committed { m with tx, thread := Function.update m.thread i th } j =
      m.committed j := committed_update same
  have turns : committed { m with tx, thread := Function.update m.thread i th } = m.committed :=
    funext turns
  refine ⟨fun j => ?_, h.nodup, fun j t e => ?_, ?_, ?_⟩
  · rw [turns]
    by_cases e : j = i
    · subst e
      dsimp only
      rw [Function.update_self]
      exact stage
    · dsimp only
      rw [Function.update_of_ne e]
      have other : held tx j = held m.tx j := by
        rcases keeps with rfl | ⟨t, t', hm, rfl⟩
        · exact held_without_of_ne _ e
        · rw [hm, held_some_of_ne e, held_some_of_ne e]
      rw [other]
      exact h.stages j
  · rcases keeps with hw | ⟨u, u', hm, hw⟩
    · exact h.holder j t (eq_of_without_eq_some (hw.symm.trans e))
    · cases hw.symm.trans e
      exact h.holder i u hm
  · rw [Pool.turns, turns]
    exact h.published
  · rw [Pool.turns, turns]
    exact h.history

/-- A program that ends, or is cancelled. -/
theorem Valid.quit (h : Valid P p draws s₀ m) {phase : Phase (α i)}
    (stage : Stage (P i) (p i) (draws i) (place p draws s₀ m.committed i m.acquired) none
      { m.thread i with phase }) :
    Valid P p draws s₀ (m.quit i phase) :=
  h.goes_on rfl (.inl rfl) (by rwa [held_without])

/-- A program opens its unit of work. -/
theorem Valid.opened (h : Valid P p draws s₀ m) {th : Thread (α i)}
    (free : m.tx = none) (new : i ∉ m.acquired) (same : th.committed = m.committed i)
    (uncommitted : m.committed i = false)
    (stage : Stage (P i) (p i) (draws i) (some m.published) (some m.published) th) :
    Valid P p draws s₀
      { m with
        tx := some (i, m.published)
        thread := Function.update m.thread i th
        acquired := i :: m.acquired } := by
  have turns : committed { m with
      tx := some (i, m.published)
      thread := Function.update m.thread i th
      acquired := i :: m.acquired } = m.committed := funext (committed_update same)
  refine ⟨fun j => ?_, List.nodup_cons.2 ⟨new, h.nodup⟩, fun j t e => ?_, ?_, ?_⟩
  · rw [turns]
    by_cases e : j = i
    · subst e
      dsimp only
      rw [Function.update_self, place, if_pos rfl]
      have found : inTurn p draws s₀ (m.acquired.filter m.committed) = m.published :=
        h.published.symm
      rw [found, held_eq_some.2 rfl]
      exact stage
    · dsimp only
      rw [Function.update_of_ne e, place, if_neg (Ne.symm e), held_some_of_ne e]
      have := h.stages j
      rw [free] at this
      exact this
  · cases e
    exact ⟨m.acquired, rfl⟩
  · rw [Pool.turns, turns, List.filter_cons_of_neg (by simp [uncommitted])]
    exact h.published
  · rw [Pool.turns, turns, List.filter_cons_of_neg (by simp [uncommitted])]
    exact h.history

/-- A program publishes its unit of work. -/
theorem Valid.publishes (h : Valid P p draws s₀ m) {th : Thread (α i)} {earlier : List ι}
    {s t : State} {a : α i} {supply : Supply} (first : m.acquired = i :: earlier)
    (alone : m.tx = some (i, t)) (committed : th.committed = true)
    (found : inTurn p draws s₀ (earlier.filter m.committed) = s)
    (run : (p i).run (idle s (draws i)) = (a, idle t supply))
    (stage : Stage (P i) (p i) (draws i) (some s) none th) :
    Valid P p draws s₀
      { m with
        published := t
        tx := without m.tx i
        thread := Function.update m.thread i th
        history := t :: m.history } := by
  let m' : Pool α := { m with
    published := t
    tx := without m.tx i
    thread := Function.update m.thread i th
    history := t :: m.history }
  have own : m'.committed i = true := by
    show (Function.update m.thread i th i).committed = true
    rw [Function.update_self, committed]
  have other : ∀ j, j ≠ i → m'.committed j = m.committed j := by
    intro j ne
    show (Function.update m.thread i th j).committed = _
    rw [Function.update_of_ne ne]
    rfl
  have once : i ∉ earlier := (List.nodup_cons.1 (first ▸ h.nodup)).1
  have before : ∀ j ∈ earlier, m'.committed j = m.committed j :=
    fun j hj => other j fun e => once (e ▸ hj)
  have stageI := h.stages i
  have uncommitted : m.committed i = false := by
    rw [alone, held_eq_some.2 rfl] at stageI
    show (m.thread i).committed = false
    generalize place p draws s₀ m.committed i m.acquired = x at stageI
    generalize m.thread i = y at stageI
    cases stageI
    rfl
  have turns : m'.turns = i :: m.turns := by
    show m.acquired.filter m'.committed = i :: m.acquired.filter m.committed
    rw [first, List.filter_cons_of_pos own, List.filter_cons_of_neg (by simp [uncommitted]),
      List.filter_congr before]
  have result : inTurn p draws s₀ m'.turns = t := by
    have rest : m.turns = earlier.filter m.committed := by
      rw [Pool.turns, first, List.filter_cons_of_neg (by simp [uncommitted])]
    rw [turns, inTurn, rest, found, run]
    rfl
  refine ⟨fun j => ?_, h.nodup, fun j u e => ?_, result.symm, ?_⟩
  · show Stage (P j) (p j) (draws j) (place p draws s₀ m'.committed j m.acquired)
      (held (without m.tx i) j) (Function.update m.thread i th j)
    by_cases e : j = i
    · subst e
      rw [Function.update_self, held_without, first, place, if_pos rfl, List.filter_congr before,
        found]
      exact stage
    · have rest := h.stages j
      rw [first, place, if_neg (Ne.symm e)] at rest
      rw [Function.update_of_ne e, held_without_of_ne _ e, first, place, if_neg (Ne.symm e),
        place_congr before]
      exact rest
  · exact h.holder j u (eq_of_without_eq_some e)
  · show t :: m.history = m'.turns.tails.map (inTurn p draws s₀)
    rw [turns, List.tails_cons, List.map_cons, ← turns, result, h.history]

/-! ## §6 Requests -/

theorem step_done {a : α i} (h : (m.thread i).phase = .running (.done a)) :
    m.step (.advance i) = m.quit i (.finished a) := by
  simp only [step, h]

theorem step_ask {r : Request} {next : r.Answer → Program (α i)}
    (h : (m.thread i).phase = .running (.ask r next)) :
    m.step (.advance i) = m.ask i r next := by
  simp only [step, h]

/-- A draw has the same answer everywhere, and touches nothing but the streams. -/
theorem answer_draw {r : Request} (h : r.isDraw = true) (supply : Supply) :
    ∃ x supply', ∀ s working,
      World.answer ⟨s, working, supply, []⟩ r = (x, ⟨s, working, supply', []⟩) := by
  cases r with
  | store c => cases h
  | drawId => exact ⟨supply.drawId.1, supply.drawId.2, fun _ _ => rfl⟩
  | drawSalt => exact ⟨supply.drawSalt.1, supply.drawSalt.2, fun _ _ => rfl⟩
  | readClock => exact ⟨supply.readClock.1, supply.readClock.2, fun _ _ => rfl⟩

/-- Inside a unit of work a request touches only the working copy and the streams. -/
theorem answer_inner {r : Request} (h : r.isInner = true) (s t : State) (supply : Supply) :
    ∃ x t' supply', (amid s t supply).answer r = (x, amid s t' supply') := by
  have writes {β : Type} (write : State → Except Store.Error (β × State)) :
      ∃ x t', (amid s t supply).writes write = (x, amid s t' supply) := by
    simp only [World.writes, amid]
    cases write t with
    | error e => exact ⟨_, t, rfl⟩
    | ok y => exact ⟨_, y.2, rfl⟩
  cases r with
  | drawId => exact ⟨_, t, _, rfl⟩
  | drawSalt => exact ⟨_, t, _, rfl⟩
  | readClock => exact ⟨_, t, _, rfl⟩
  | store c =>
    cases c with
    | healthCheck | begin | commit => cases h
    | saveUser u =>
      obtain ⟨x, t', e⟩ := writes fun s => s.saveUser u
      exact ⟨x, t', supply, e⟩
    | saveWorkspace w =>
      obtain ⟨x, t', e⟩ := writes fun s => s.saveWorkspace w
      exact ⟨x, t', supply, e⟩
    | saveMembership n =>
      obtain ⟨x, t', e⟩ := writes fun s => s.saveMembership n
      exact ⟨x, t', supply, e⟩
    | _ => exact ⟨_, t, supply, rfl⟩

theorem opens_of_isInner {r : Request} (h : r.isInner = true) :
    r.opens = false ∧ r.commits = false := by
  cases r with
  | store c =>
    cases c with
    | healthCheck | begin | commit => cases h
    | _ => exact ⟨rfl, rfl⟩
  | _ => exact ⟨rfl, rfl⟩

/-- A request that neither opens nor publishes a unit of work. -/
theorem ask_inner {r : Request} (inner : r.isInner = true) {next : r.Answer → Program (α i)}
    {x : r.Answer} {w : World} (e : (m.world i).answer r = (x, w))
    (same : w.published = m.published) :
    m.ask i r next = { m with
      tx := match w.working with
        | some t => some (i, t)
        | none => without m.tx i
      thread := Function.update m.thread i ⟨.running (next x), w.supply, m.committed i⟩ } := by
  obtain ⟨opens, commits⟩ := opens_of_isInner inner
  rw [ask, opens, if_neg (by simp)]
  simp only [e, commits, Bool.false_and, Bool.or_false, Bool.false_eq_true, if_false, same]
  rfl

variable {th : Thread (α i)}

/-- A program that waits makes its next request, which may open its unit of work. -/
theorem Valid.advance_waiting (h : Valid P p draws s₀ m) {rest : Program (α i)}
    {supply : Supply} (single : rest.Single (P i))
    (run : ∀ s, (p i).runOpen (idle s (draws i)) = rest.runOpen (idle s supply))
    (found : place p draws s₀ m.committed i m.acquired = none) (free : held m.tx i = none)
    (here : m.thread i = ⟨.running rest, supply, false⟩) :
    Valid P p draws s₀ (m.step (.advance i)) := by
  have world : m.world i = idle m.published supply := by
    rw [Pool.world, free, here]
    rfl
  have uncommitted : m.committed i = false := congrArg Thread.committed here
  cases single with
  | done a =>
    have ended (s : State) : (p i).run (idle s (draws i)) = (a, idle s supply) := by
      rw [Program.run, run]
      rfl
    rw [step_done (congrArg Thread.phase here)]
    refine h.quit ?_
    rw [found, here]
    exact .apart ended
  | begin inside =>
    rw [step_ask (congrArg Thread.phase here)]
    rename_i next
    cases tx : m.tx with
    | some x =>
      have waits : m.ask i (.store .begin) next = m := by
        rw [ask, tx]
        rfl
      rw [waits]
      exact h
    | none =>
      have opens : m.ask i (.store .begin) next = { m with
          tx := some (i, m.published)
          thread := Function.update m.thread i ⟨.running (next (.ok ())), supply, false⟩
          acquired := i :: m.acquired } := by
        rw [ask, tx, world, here]
        rfl
      rw [opens]
      exact h.opened tx (place_eq_none.1 found) uncommitted.symm uncommitted
        (.inside inside (run m.published))
  | ask draw singles =>
    rw [step_ask (congrArg Thread.phase here)]
    rename_i r next
    obtain ⟨x, supply', answer⟩ := answer_draw draw supply
    have e : (m.world i).answer r = (x, idle m.published supply') := by
      rw [world]
      exact answer m.published none
    rw [ask_inner (Request.isInner_of_isDraw draw) e rfl]
    refine h.goes_on rfl (.inl rfl) ?_
    rw [found, uncommitted]
    show Stage _ _ _ none (held (without m.tx i) i) _
    rw [held_without]
    refine .waiting (singles x) fun s => ?_
    rw [run s]
    exact Program.runOpen_ask next (answer s none)

/-- A program that holds the unit of work makes its next request, or commits. -/
theorem Valid.advance_inside (h : Valid P p draws s₀ m) {rest : Program (α i)} {s t : State}
    {supply : Supply} (inside : rest.Inside (P i))
    (run : (p i).runOpen (idle s (draws i)) = rest.runOpen (amid s t supply))
    (found : place p draws s₀ m.committed i m.acquired = some s) (holds : held m.tx i = some t)
    (here : m.thread i = ⟨.running rest, supply, false⟩) :
    Valid P p draws s₀ (m.step (.advance i)) := by
  have uncommitted : m.committed i = false := congrArg Thread.committed here
  have tx : m.tx = some (i, t) := held_eq_some.1 holds
  obtain ⟨earlier, first⟩ := h.holder i t tx
  have before : inTurn p draws s₀ (earlier.filter m.committed) = s := by
    rw [first, place, if_pos rfl] at found
    exact Option.some.inj found
  have published : m.published = s := by
    rw [h.published, turns, first, List.filter_cons_of_neg (by simp [uncommitted]), before]
  have world : m.world i = amid s t supply := by
    rw [Pool.world, holds, here, published]
    rfl
  cases inside with
  | done a =>
    have ended : (p i).run (idle s (draws i)) = (a, idle s supply) := by
      rw [Program.run, run]
      rfl
    rw [step_done (congrArg Thread.phase here)]
    refine h.quit ?_
    rw [found, here]
    exact .dropped ended
  | commit a good returns =>
    rw [step_ask (congrArg Thread.phase here)]
    rename_i next
    have publishes : m.ask i (.store .commit) next = { m with
        published := t
        tx := without m.tx i
        thread := Function.update m.thread i ⟨.running (.done a), supply, true⟩
        history := t :: m.history } := by
      rw [ask, world, here, holds, ← returns]
      rfl
    have alone : (p i).run (idle s (draws i)) = (a, idle t supply) := by
      rw [Program.run, run]
      show ((next (.ok ())).runOpen (idle t supply)).map id World.close = _
      rw [returns]
      rfl
    rw [publishes]
    exact h.publishes first tx rfl before alone (.through good alone)
  | ask inner insides =>
    rw [step_ask (congrArg Thread.phase here)]
    rename_i r next
    obtain ⟨x, t', supply', answer⟩ := answer_inner inner s t supply
    have e : (m.world i).answer r = (x, amid s t' supply') := by rw [world, answer]
    rw [ask_inner inner e published.symm]
    refine h.goes_on rfl (.inr ⟨t, t', tx, rfl⟩) ?_
    rw [found, uncommitted]
    show Stage _ _ _ _ (held (some (i, t')) i) _
    rw [held_eq_some.2 rfl]
    refine .inside (insides x) ?_
    rw [run]
    exact Program.runOpen_ask next answer

/-- Every event keeps the pool valid. -/
theorem Valid.step (h : Valid P p draws s₀ m) (e : Event ι) : Valid P p draws s₀ (m.step e) := by
  cases e with
  | advance i =>
    have stage := h.stages i
    generalize found : place p draws s₀ m.committed i m.acquired = x at stage
    generalize holds : held m.tx i = y at stage
    generalize here : m.thread i = th at stage
    cases stage with
    | waiting single run => exact h.advance_waiting single run found holds here
    | inside inside run => exact h.advance_inside inside run found holds here
    | through good run =>
      rw [step_done (congrArg Thread.phase here)]
      refine h.quit ?_
      rw [found, here]
      exact .left good run
    | apart _ | dropped _ | left _ _ | cancelled =>
      have : m.step (.advance i) = m := by simp only [Pool.step, here]
      rw [this]
      exact h
  | cancel i =>
    cases phase : (m.thread i).phase with
    | running rest =>
      have : m.step (.cancel i) = m.quit i .cancelled := by simp only [Pool.step, phase]
      rw [this]
      exact h.quit .cancelled
    | _ =>
      have : m.step (.cancel i) = m := by simp only [Pool.step, phase]
      rw [this]
      exact h

/-- Every run keeps the pool valid. -/
theorem Valid.play (h : Valid P p draws s₀ m) (es : List (Event ι)) :
    Valid P p draws s₀ (m.play es) := by
  induction es generalizing m with
  | nil => exact h
  | cons e es ih => exact ih (h.step e)

/-! ## §7 Outcomes -/

/-- What finished returns what it returns alone, on the tables that it found. -/
theorem Valid.finished (h : Valid P p draws s₀ m) {a : α i}
    (done : (m.thread i).phase = .finished a) :
    (i ∉ m.acquired ∧ m.committed i = false ∧ ∀ s, ((p i).run (idle s (draws i))).1 = a ∧
      ((p i).run (idle s (draws i))).2.published = s) ∨
    ∃ s, place p draws s₀ m.committed i m.acquired = some s ∧
      ((p i).run (idle s (draws i))).1 = a ∧
      (m.committed i = true ∧ P i a ∨
        m.committed i = false ∧ ((p i).run (idle s (draws i))).2.published = s) := by
  have stage := h.stages i
  generalize found : place p draws s₀ m.committed i m.acquired = x at stage
  generalize holds : held m.tx i = y at stage
  generalize here : m.thread i = th at stage
  have committed : m.committed i = th.committed := congrArg Thread.committed here
  rw [here] at done
  cases stage with
  | apart run =>
    cases done
    exact .inl ⟨place_eq_none.1 found, committed, fun s => by rw [run s]; exact ⟨rfl, rfl⟩⟩
  | dropped run =>
    cases done
    exact .inr ⟨_, rfl, by rw [run], .inr ⟨committed, by rw [run]; rfl⟩⟩
  | left good run =>
    cases done
    exact .inr ⟨_, rfl, by rw [run], .inl ⟨committed, good⟩⟩
  | _ => cases done

/-- What has ended holds nothing. -/
theorem Valid.held_ended (h : Valid P p draws s₀ m)
    (ended : ∀ rest, (m.thread i).phase ≠ .running rest) : held m.tx i = none := by
  have stage := h.stages i
  generalize place p draws s₀ m.committed i m.acquired = x at stage
  generalize held m.tx i = y at stage ⊢
  generalize m.thread i = th at stage ended
  cases stage with
  | inside _ _ => exact absurd rfl (ended _)
  | _ => rfl

/-! ## §8 Left to themselves -/

/-- No other program holds the unit of work. -/
def Free (m : Pool α) (i : ι) : Prop := ∀ j t, m.tx = some (j, t) → j = i

/-- A program waits only for others: it opens no second unit of work itself. -/
theorem Valid.not_waiting (h : Valid P p draws s₀ m) (free : m.Free i) {r : Request}
    {next : r.Answer → Program (α i)} (here : (m.thread i).phase = .running (.ask r next)) :
    (r.opens && m.tx.isSome) = false := by
  cases tx : m.tx with
  | none => simp
  | some x =>
    obtain ⟨j, t⟩ := x
    obtain rfl := free j t tx
    have stage := h.stages j
    rw [tx, held_eq_some.2 rfl] at stage
    generalize place p draws s₀ m.committed j m.acquired = x at stage
    generalize m.thread j = th at stage here
    cases stage with
    | inside inside _ =>
      cases here
      cases inside with
      | commit _ _ _ => rfl
      | ask inner _ => simp [(opens_of_isInner inner).1]

/-- Only one program has gone on. -/
structure OnlyBy (i : ι) (m m' : Pool α) : Prop where
  others : ∀ j, j ≠ i → m'.thread j = m.thread j
  acquired : ∃ l, m'.acquired = l ++ m.acquired ∧ ∀ k ∈ l, k = i

omit [DecidableEq ι] in
theorem OnlyBy.refl (i : ι) (m : Pool α) : OnlyBy i m m := ⟨fun _ _ => rfl, [], rfl, nofun⟩

omit [DecidableEq ι] in
theorem OnlyBy.trans {m₁ m₂ m₃ : Pool α} (h : OnlyBy i m₁ m₂) (k : OnlyBy i m₂ m₃) :
    OnlyBy i m₁ m₃ := by
  obtain ⟨l, acquired, own⟩ := h.acquired
  obtain ⟨l', acquired', own'⟩ := k.acquired
  refine ⟨fun j ne => (k.others j ne).trans (h.others j ne), l' ++ l, ?_, ?_⟩
  · rw [acquired', acquired, List.append_assoc]
  · exact fun j hj => (List.mem_append.1 hj).elim (own' j) (own j)

theorem onlyBy_ask (m : Pool α) {r : Request} (next : r.Answer → Program (α i)) :
    OnlyBy i m (m.ask i r next) := by
  unfold ask
  split
  · exact .refl i m
  · refine ⟨fun j ne => Function.update_of_ne ne .., ?_⟩
    dsimp only
    split
    · exact ⟨[i], rfl, fun k hk => List.mem_singleton.1 hk⟩
    · exact ⟨[], rfl, nofun⟩

theorem onlyBy_advance (m : Pool α) (i : ι) : OnlyBy i m (m.step (.advance i)) := by
  simp only [step]
  split
  · exact ⟨fun j ne => Function.update_of_ne ne .., [], rfl, nofun⟩
  · exact onlyBy_ask m _
  · exact .refl i m

theorem onlyBy_advances (m : Pool α) (i : ι) (n : Nat) :
    OnlyBy i m (m.play (List.replicate n (.advance i))) := by
  induction n generalizing m with
  | zero => exact .refl i m
  | succ n ih => exact (onlyBy_advance m i).trans (ih _)

/-- A program that is left to itself ends, and lets go of its unit of work. -/
theorem Valid.ends (h : Valid P p draws s₀ m) (free : m.Free i) {rest : Program (α i)}
    (here : (m.thread i).phase = .running rest) :
    ∃ n, let m' := m.play (List.replicate n (.advance i))
      (∃ a, (m'.thread i).phase = .finished a) ∧ m'.tx = none := by
  induction rest generalizing m with
  | done a =>
    refine ⟨1, ?_⟩
    show (∃ a, ((m.step (.advance i)).thread i).phase = .finished a) ∧
      (m.step (.advance i)).tx = none
    rw [step_done here]
    refine ⟨⟨a, by simp [Pool.quit]⟩, ?_⟩
    cases tx : m.tx with
    | none => simp [Pool.quit, tx, without]
    | some x =>
      obtain rfl := free x.1 x.2 tx
      simp [Pool.quit, tx, without, Option.filter]
  | ask r next ih =>
    have step : m.step (.advance i) = m.ask i r next := step_ask here
    rw [ask, h.not_waiting free here, if_neg Bool.false_ne_true] at step
    have goes : ((m.step (.advance i)).thread i).phase =
        .running (next ((m.world i).answer r).1) := by
      rw [step]
      simp
    have free' : (m.step (.advance i)).Free i := by
      intro j t tx
      rw [step] at tx
      dsimp only at tx
      split at tx
      · cases tx
        rfl
      · exact free j t (eq_of_without_eq_some tx)
    obtain ⟨n, ends⟩ := ih _ (h.step (.advance i)) free' goes
    exact ⟨n + 1, ends⟩

/-- What a program leaves behind when it has ended as it does alone on the published tables. -/
structure EndsAlone (p : (i : ι) → Program (α i)) (draws : ι → Supply) (m m' : Pool α) (i : ι) :
    Prop where
  finished : (m'.thread i).phase = .finished ((p i).run (idle m.published (draws i))).1
  published : m'.published = ((p i).run (idle m.published (draws i))).2.published
  closed : m'.tx = none
  others : ∀ j, j ≠ i → m'.thread j = m.thread j
  acquired : ∀ k ∈ m'.acquired, k = i ∨ k ∈ m.acquired

/-- Left to itself before it has opened its unit of work, a program ends as it does alone. -/
theorem Valid.ends_alone (h : Valid P p draws s₀ m) (free : m.tx = none) (new : i ∉ m.acquired)
    {rest : Program (α i)} (here : (m.thread i).phase = .running rest) :
    ∃ n, EndsAlone p draws m (m.play (List.replicate n (.advance i))) i := by
  obtain ⟨n, ends⟩ := h.ends (fun j t tx => by rw [free] at tx; cases tx) here
  have valid := h.play (List.replicate n (.advance i))
  have only := onlyBy_advances m i n
  refine ⟨n, ?_⟩
  generalize m.play (List.replicate n (.advance i)) = m' at ends valid only
  obtain ⟨⟨a, done⟩, closed⟩ := ends
  obtain ⟨others, l, acquired, own⟩ := only
  have before : m.acquired.filter m'.committed = m.turns := List.filter_congr fun k hk => by
    show (m'.thread k).committed = (m.thread k).committed
    rw [others k fun e => new (e ▸ hk)]
  have members : ∀ k ∈ m'.acquired, k = i ∨ k ∈ m.acquired := by
    intro k hk
    rw [acquired] at hk
    exact (List.mem_append.1 hk).imp_left (own k)
  -- Its own place is in front of those before it, unless it has none.
  have front : i ∉ m'.acquired ∧ m'.acquired = m.acquired ∨
      m'.acquired = i :: m.acquired := by
    cases l with
    | nil =>
      rw [List.nil_append] at acquired
      exact .inl ⟨acquired ▸ new, acquired⟩
    | cons k l =>
      obtain rfl := own k List.mem_cons_self
      cases l with
      | nil => exact .inr acquired
      | cons k' l =>
        obtain rfl := own k' (List.mem_cons_of_mem _ List.mem_cons_self)
        have nodup := valid.nodup
        rw [acquired] at nodup
        exact absurd List.mem_cons_self (List.nodup_cons.1 nodup).1
  have published := valid.published
  rw [turns] at published
  rcases valid.finished done with ⟨away, -, alone⟩ | ⟨s, found, answer, outcome⟩
  · rcases front with ⟨-, e⟩ | e
    · obtain ⟨answer, same⟩ := alone m.published
      rw [e, before, ← h.published] at published
      exact ⟨done.trans (congrArg _ answer.symm), published.trans same.symm, closed, others,
        members⟩
    · exact absurd (e ▸ List.mem_cons_self) away
  · rcases front with ⟨away, -⟩ | e
    · rw [place_eq_none.2 away] at found
      cases found
    · have nodup := valid.nodup
      rw [e] at found nodup published
      rw [place, if_pos rfl, before, ← h.published] at found
      obtain rfl : m.published = s := Option.some.inj found
      refine ⟨done.trans (congrArg _ answer.symm), ?_, closed, others, members⟩
      rcases outcome with ⟨committed, -⟩ | ⟨uncommitted, same⟩
      · rw [List.filter_cons_of_pos committed, before, inTurn, ← h.published] at published
        exact published
      · rw [List.filter_cons_of_neg (by simp [uncommitted]), before, ← h.published] at published
        exact published.trans same.symm

/-- Two programs before their units of work, the second of which is left alone after the first. -/
theorem Valid.one_by_one (h : Valid P p draws s₀ m) (early : m.acquired = []) (ne : i ≠ j)
    {restI : Program (α i)} {restJ : Program (α j)} (hi : (m.thread i).phase = .running restI)
    (hj : (m.thread j).phase = .running restJ) :
    ∃ es, let m' := m.play es
      let out := (p i).run (idle s₀ (draws i))
      (m'.thread i).phase = .finished out.1 ∧
        (m'.thread j).phase = .finished ((p j).run (idle out.2.published (draws j))).1 ∧
        ∀ k ∈ m'.acquired, k = j ∨ k = i := by
  have free : m.tx = none := by
    cases tx : m.tx with
    | none => rfl
    | some x =>
      obtain ⟨earlier, first⟩ := h.holder x.1 x.2 tx
      rw [early] at first
      cases first
  have published : m.published = s₀ := by
    rw [h.published, turns, early]
    rfl
  obtain ⟨n, first⟩ := h.ends_alone free (by simp [early]) hi
  have valid := h.play (List.replicate n (.advance i))
  have own : ∀ k ∈ (m.play (List.replicate n (.advance i))).acquired, k = i := by
    intro k hk
    have := first.acquired k hk
    rw [early] at this
    simpa using this
  obtain ⟨k, second⟩ := valid.ends_alone first.closed (fun hk => ne (own j hk).symm)
    ((congrArg Thread.phase (first.others j ne.symm)).trans hj)
  refine ⟨List.replicate n (.advance i) ++ List.replicate k (.advance j), ?_⟩
  rw [Pool.play, List.foldl_append]
  refine ⟨?_, ?_, fun k hk => (second.acquired k hk).imp_right (own k)⟩
  · rw [← published]
    exact (congrArg Thread.phase (second.others i ne)).trans first.finished
  · rw [← published, ← first.published]
    exact second.finished

/-! ## §9 At most one -/

/--
Programs that cannot all succeed: whichever ends in `P` spends something (`Q`
says that it is spent) that none of them can do without, and that nobody who
commits restores. `I` is true of all tables that may come up.
-/
structure Rivals (P : (i : ι) → α i → Prop) (p : (i : ι) → Program (α i)) (draws : ι → Supply)
    (s₀ : State) (m : Pool α) (S : ι → Prop) (I Q : State → Prop) : Prop where
  start : I s₀
  sound : ∀ i s, I s → I ((p i).run (idle s (draws i))).2.published
  writes : ∀ i, S i → ∀ s, I s → P i ((p i).run (idle s (draws i))).1 →
    ((p i).run (idle s (draws i))).2.published ≠ s
  refuses : ∀ i, S i → ∀ s, I s → Q s → ¬P i ((p i).run (idle s (draws i))).1
  spends : ∀ i later earlier, m.turns = later ++ i :: earlier → S i →
    I (inTurn p draws s₀ earlier) →
    P i ((p i).run (idle (inTurn p draws s₀ earlier) (draws i))).1 →
      Q (inTurn p draws s₀ (i :: earlier))
  keeps : ∀ i later earlier, m.turns = later ++ i :: earlier →
    I (inTurn p draws s₀ earlier) →
    Q (inTurn p draws s₀ earlier) → Q (inTurn p draws s₀ (i :: earlier))

namespace Rivals

variable {S : ι → Prop} {I Q : State → Prop}

omit [DecidableEq ι] in
theorem inTurn (r : Rivals P p draws s₀ m S I Q) (l : List ι) : I (inTurn p draws s₀ l) := by
  induction l with
  | nil => exact r.start
  | cons i l ih => exact r.sound i _ ih

theorem place (r : Rivals P p draws s₀ m S I Q) {s : State}
    (found : place p draws s₀ c i l = some s) : I s := by
  induction l with
  | nil => cases found
  | cons j l ih =>
    rw [Pool.place] at found
    split at found
    · exact Option.some.inj found ▸ r.inTurn _
    · exact ih found

/-- A rival who succeeded has committed, and succeeds alone in its turn. -/
theorem turn (r : Rivals P p draws s₀ m S I Q) (h : Valid P p draws s₀ m) {a : α i} (hi : S i)
    (ended : (m.thread i).phase = .finished a) (good : P i a) :
    i ∈ m.turns ∧ ∀ later earlier, m.turns = later ++ i :: earlier →
      P i ((p i).run (idle (Pool.inTurn p draws s₀ earlier) (draws i))).1 := by
  rcases h.finished ended with ⟨-, -, alone⟩ | ⟨s, found, answer, ⟨committed, -⟩ | ⟨-, same⟩⟩
  · obtain ⟨answer, same⟩ := alone s₀
    exact absurd same (r.writes i hi s₀ r.start (answer ▸ good))
  · refine ⟨List.mem_filter.2 ⟨?_, committed⟩, fun later earlier e => ?_⟩
    · refine Decidable.byContradiction fun away => ?_
      rw [place_eq_none.2 away] at found
      cases found
    · rw [place_of_turns h.nodup e] at found
      rw [Option.some.inj found, answer]
      exact good
  · exact absurd same (r.writes i hi s (r.place found) (answer ▸ good))

omit [DecidableEq ι] in
/-- What one has spent is still spent after any further turns. -/
theorem spent (r : Rivals P p draws s₀ m S I Q) (hi : S i) {later between earlier : List ι}
    (e : m.turns = later ++ (between ++ i :: earlier))
    (good : P i ((p i).run (idle (Pool.inTurn p draws s₀ earlier) (draws i))).1) :
    Q (Pool.inTurn p draws s₀ (between ++ i :: earlier)) := by
  induction between generalizing later with
  | nil => exact r.spends i later earlier e hi (r.inTurn _) good
  | cons j between ih =>
    refine r.keeps j later (between ++ i :: earlier) e (r.inTurn _) ?_
    have e' : m.turns = (later ++ [j]) ++ (between ++ i :: earlier) := by simp [e]
    exact ih e'

/-- No rival succeeds whose turn comes after that of another who did. -/
theorem not_after (r : Rivals P p draws s₀ m S I Q) (h : Valid P p draws s₀ m) {a : α i} {b : α j}
    (hi : S i) (hj : S j) (endI : (m.thread i).phase = .finished a) (goodI : P i a)
    (endJ : (m.thread j).phase = .finished b) (goodJ : P j b) {later between earlier : List ι} :
    m.turns ≠ later ++ j :: (between ++ i :: earlier) := by
  intro e
  have e' : m.turns = (later ++ [j]) ++ (between ++ i :: earlier) := by simp [e]
  have alone := (r.turn h hi endI goodI).2 ((later ++ [j]) ++ between) earlier (by simp [e])
  exact r.refuses j hj _ (r.inTurn _) (r.spent hi e' alone)
    ((r.turn h hj endJ goodJ).2 later (between ++ i :: earlier) e)

theorem at_most_one (r : Rivals P p draws s₀ m S I Q) (h : Valid P p draws s₀ m) {a : α i}
    {b : α j} (hi : S i) (hj : S j) (endI : (m.thread i).phase = .finished a) (goodI : P i a)
    (endJ : (m.thread j).phase = .finished b) (goodJ : P j b) : i = j := by
  refine Decidable.byContradiction fun ne => ?_
  obtain ⟨later, earlier, e⟩ := List.append_of_mem (r.turn h hi endI goodI).1
  have memJ := (r.turn h hj endJ goodJ).1
  rw [e, List.mem_append, List.mem_cons] at memJ
  rcases memJ with after | same | before
  · obtain ⟨l₁, l₂, rfl⟩ := List.append_of_mem after
    rw [List.append_assoc, List.cons_append] at e
    exact r.not_after h hi hj endI goodI endJ goodJ e
  · exact ne same.symm
  · obtain ⟨l₁, l₂, rfl⟩ := List.append_of_mem before
    exact r.not_after h hj hi endJ goodJ endI goodI e

end Rivals

end Pool

end Roster
