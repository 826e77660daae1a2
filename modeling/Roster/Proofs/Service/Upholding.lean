/-
Roster.Proofs.Service.Upholding — what rows keep while programs read and write them.

A program writes rows that it makes, and rows that it was shown and has changed. So it
can keep to a rule for rows only as long as what it is shown keeps to it, and
`Program.Upholds P` asks no more (§1). That is enough for all tables: over tables
that keep to the rule, whatever a call on the store answers does so too, and
nothing else is ever written (`Upholds.passes`, in any surroundings, also where calls on
the store fail). The same holds where programs run at the same time (`Upheld.play`, §2),
since each of them writes to a copy of such tables; and what every save keeps, whoever
makes it, is true there of any programs (`Holds.play`). §3 has the steps that calls are
made of.
-/
import Roster.Proofs.Service.Failures
import Roster.Proofs.Service.Pool
import Roster.Proofs.Store.Clients

namespace Roster

open Store (State Row)

variable {α β : Type} {P : Row → Prop}

/-! ## §1 One program -/

namespace Store.State

variable {s : State}

/-- All rows of the three tables keep to the rule. -/
def All (P : Row → Prop) (s : State) : Prop := ∀ p r, s.row? p = some r → P r

theorem All.empty : All P .empty := by
  intro p r hr
  rw [row?_empty] at hr
  cases hr

theorem All.put (h : s.All P) {r : Row} (hr : P r.saved) : (s.put r).All P := by
  intro p x hx
  by_cases e : p = r.place
  · rw [e, row?_put_self] at hx
    exact Option.some.inj hx ▸ hr
  · rw [row?_put_of_ne s e] at hx
    exact h p x hx

theorem All.user (h : s.All P) {u : User} (hu : u ∈ s.users.rows) : P (.user u) :=
  h (.user u.id) _ (congrArg (Option.map Row.user) (Table.find?_eq_some.2 ⟨hu, rfl⟩))

theorem All.workspace (h : s.All P) {w : Workspace} (hw : w ∈ s.workspaces.rows) :
    P (.workspace w) :=
  h (.workspace w.id) _ (congrArg (Option.map Row.workspace) (Table.find?_eq_some.2 ⟨hw, rfl⟩))

end Store.State

/-- The rows that are found keep to the rule. -/
def Call.Shows (P : Row → Prop) : (c : Call) → c.Result → Prop
  | findUserByEmail _, found | findUser _, found => ∀ u ∈ found, P (.user u)
  | findWorkspace _ _, found => ∀ w ∈ found, P (.workspace w)
  | _, _ => True

/-- The rows in the answer to a request keep to the rule. -/
def Request.Shows (P : Row → Prop) : (r : Request) → r.Answer → Prop
  | store c, .ok x => c.Shows P x
  | _, _ => True

namespace World.Holds

variable {w : World}

/-- What is read off tables that keep to the rule. -/
theorem shows_reads (h : w.Holds (State.All P)) {read : State → β} {Q : β → Prop}
    (found : ∀ s : State, s.All P → Q (read s)) {x : β} (hx : (w.reads read).1 = .ok x) : Q x := by
  unfold World.reads at hx
  cases working : w.working with
  | none =>
    rw [working] at hx
    cases hx
  | some s =>
    rw [working] at hx
    exact Except.ok.inj hx ▸ found s (h.2 s working)

theorem shows_perform (h : w.Holds (State.All P)) (c : Call) {x : c.Result}
    (hx : (w.perform c).1 = .ok x) : c.Shows P x := by
  cases c with
  | findUserByEmail email =>
    exact h.shows_reads (fun s hs u hu => hs.user (List.mem_of_find?_eq_some hu)) hx
  | findUser id =>
    exact h.shows_reads (fun s hs u hu => hs.user (Store.Table.find?_eq_some.1 hu).1) hx
  | findWorkspace id filter =>
    refine h.shows_reads (fun s hs w hw => ?_) hx
    exact hs.workspace (Store.Table.find?_eq_some.1 (Option.filter_eq_some_iff.1 hw).1).1
  | _ => trivial

/-- Over tables that keep to the rule, so does whatever is shown. -/
theorem shows_answer (h : w.Holds (State.All P)) (r : Request) : r.Shows P (w.answer r).1 := by
  cases r with
  | store c =>
    cases answer : (w.answer (.store c)).1 with
    | error e => trivial
    | ok x =>
      simp only [World.answer, World.call] at answer
      split at answer
      · exact shows_perform (w := { w with faults := (Fault.due c.name w.faults).2 }) h c answer
      · cases answer
  | _ => trivial

/-- A save of a row that keeps to the rule. -/
theorem all_answer (h : w.Holds (State.All P)) {r : Request} (saves : ∀ x ∈ r.saved?, P x.saved) :
    (w.answer r).2.Holds (State.All P) :=
  h.answer_saving fun _ x hx hs _ => hs.put (saves x hx)

end World.Holds

namespace Program

/-- As long as what it is shown keeps to the rule, what the program saves does so too. -/
inductive Upholds (P : Row → Prop) : Program α → Prop
  | done (a : α) : Upholds P (.done a)
  | ask {r : Request} {next : r.Answer → Program α} :
    (∀ x ∈ r.saved?, P x.saved) → (∀ answer, r.Shows P answer → Upholds P (next answer)) →
      Upholds P (.ask r next)

variable {p : Program α}

theorem Upholds.bind {f : α → Program β} (h : p.Upholds P) (k : ∀ a, (f a).Upholds P) :
    (p.bind f).Upholds P := by
  induction h with
  | done a => exact k a
  | ask saves _ ih => exact .ask saves ih

/-- A program that saves nothing. -/
theorem Asks.upholds {R : Request → Prop} (h : p.Asks R) (reads : ∀ r, R r → r.saved? = none) :
    p.Upholds P := by
  induction h with
  | done a => exact .done a
  | ask hr _ ih => exact .ask (by simp [reads _ hr]) fun answer _ => ih answer

theorem Drawing.asks (h : p.Drawing) : p.Asks fun r => r.isDraw = true := by
  induction h with
  | done a => exact .done a
  | ask draws _ ih => exact .ask draws ih

theorem saved?_of_isDraw (r : Request) (h : r.isDraw = true) : r.saved? = none := by
  cases r with
  | store c => cases h
  | _ => rfl

/-- Tables that keep to the rule do so at every point of a run. -/
theorem Upholds.passes (h : p.Upholds P) {w : World} (hw : w.Holds (State.All P)) :
    ∀ v ∈ p.passes w, v.Holds (State.All P) := by
  induction h generalizing w with
  | done a =>
    intro v hv
    rw [Program.passes, List.mem_singleton] at hv
    exact hv ▸ hw
  | @ask r next saves _ ih =>
    intro v hv
    rcases List.mem_cons.1 hv with rfl | hv
    · exact hw
    · exact ih _ (hw.shows_answer r) (hw.all_answer saves) v hv

theorem Upholds.run (h : p.Upholds P) {w : World} (hw : w.published.All P)
    (closed : w.working = none) : (p.run w).2.published.All P := by
  have start : w.Holds (State.All P) := ⟨hw, fun t ht => by simp [closed] at ht⟩
  exact (h.passes start _ (Program.end_mem_passes p w)).1

end Program

/-! ## §2 Programs that run at the same time -/

namespace Pool

variable {ι : Type} {α : ι → Type} {m : Pool α} {i : ι} {Q : State → Prop} {s : State}

/-- A property of tables that both the published ones and the working copy of a pool have. -/
structure Holds (Q : State → Prop) (m : Pool α) : Prop where
  published : Q m.published
  working : ∀ i t, m.tx = some (i, t) → Q t

theorem Holds.start (p : (i : ι) → Program (α i)) (draws : ι → Supply) (hs : Q s) :
    (Pool.start p draws s).Holds Q where
  published := hs
  working _ _ ht := by cases ht

/-- All tables of a pool keep to the rule, and what is left of its programs upholds it. -/
structure Upheld (P : Row → Prop) (m : Pool α) : Prop where
  published : m.published.All P
  working : ∀ i t, m.tx = some (i, t) → t.All P
  rest : ∀ i p, (m.thread i).phase = .running p → p.Upholds P

theorem Upheld.holds (h : m.Upheld P) : m.Holds (State.All P) := ⟨h.published, h.working⟩

theorem Holds.upheld (h : m.Holds (State.All P))
    (rest : ∀ i p, (m.thread i).phase = .running p → p.Upholds P) : m.Upheld P :=
  ⟨h.published, h.working, rest⟩

theorem Upheld.start {p : (i : ι) → Program (α i)} (h : ∀ i, (p i).Upholds P)
    (draws : ι → Supply) (hs : s.All P) : (Pool.start p draws s).Upheld P := by
  refine (Holds.start p draws hs).upheld fun i q hq => ?_
  cases hq
  exact h i

variable [DecidableEq ι]

/-- A program among others sees tables that have the property. -/
theorem Holds.world (h : m.Holds Q) (i : ι) : (m.world i).Holds Q :=
  ⟨h.published, fun t ht => h.working i t (held_eq_some.1 ht)⟩

theorem Holds.quit (h : m.Holds Q) (phase : Phase (α i)) : (m.quit i phase).Holds Q where
  published := h.published
  working j t ht := h.working j t (eq_of_without_eq_some ht)

/-- A request, if what it does to the tables that it sees leaves them the property. -/
theorem Holds.ask (h : m.Holds Q) {r : Request} {next : r.Answer → Program (α i)}
    (there : ((m.world i).answer r).2.Holds Q) : (m.ask i r next).Holds Q := by
  unfold Pool.ask
  split
  · exact h
  · refine ⟨there.1, fun j t ht => ?_⟩
    dsimp only at ht
    split at ht
    · rename_i u hu
      cases ht
      exact there.2 t hu
    · exact h.working j t (eq_of_without_eq_some ht)

/-- What every save keeps is true after an event, whatever the programs ask. -/
theorem Holds.step (h : m.Holds Q) (keeps : ∀ s r, Q s → s.Admits r → Q (s.put r))
    (e : Event ι) : (m.step e).Holds Q := by
  cases e with
  | advance i =>
    simp only [Pool.step]
    split
    · exact h.quit _
    · exact h.ask ((h.world i).answer keeps _)
    · exact h
  | cancel i =>
    simp only [Pool.step]
    split
    · exact h.quit _
    · exact h

theorem Holds.play (h : m.Holds Q) (keeps : ∀ s r, Q s → s.Admits r → Q (s.put r))
    (es : List (Event ι)) : (m.play es).Holds Q := by
  induction es generalizing m with
  | nil => exact h
  | cons e es ih => exact ih (h.step keeps e)

/-- Where one program has gone on, the others have still to do what they had. -/
theorem Upheld.rest_update (h : m.Upheld P) {th : Thread (α i)}
    (next : ∀ p, th.phase = .running p → p.Upholds P) :
    ∀ j p, (Function.update m.thread i th j).phase = .running p → p.Upholds P := by
  intro j p hp
  by_cases e : j = i
  · subst e
    rw [Function.update_self] at hp
    exact next p hp
  · rw [Function.update_of_ne e] at hp
    exact h.rest j p hp

theorem Upheld.quit (h : m.Upheld P) {phase : Phase (α i)} (ended : ∀ p, phase ≠ .running p) :
    (m.quit i phase).Upheld P :=
  (h.holds.quit phase).upheld (h.rest_update fun p hp => absurd hp (ended p))

theorem Upheld.ask (h : m.Upheld P) {r : Request} {next : r.Answer → Program (α i)}
    (saves : ∀ x ∈ r.saved?, P x.saved)
    (goesOn : ∀ answer, r.Shows P answer → (next answer).Upholds P) :
    (m.ask i r next).Upheld P := by
  have here := h.holds.world i
  refine (h.holds.ask (here.all_answer saves)).upheld ?_
  unfold Pool.ask
  split
  · exact h.rest
  · refine h.rest_update fun p hp => ?_
    cases hp
    exact goesOn _ (here.shows_answer r)

theorem Upheld.step (h : m.Upheld P) (e : Event ι) : (m.step e).Upheld P := by
  cases e with
  | advance i =>
    cases phase : (m.thread i).phase with
    | running p =>
      have rest := h.rest i p phase
      cases rest with
      | done a =>
        rw [step_done phase]
        exact h.quit (by simp)
      | ask saves next =>
        rw [step_ask phase]
        exact h.ask saves next
    | finished a | cancelled =>
      simp only [Pool.step, phase]
      exact h
  | cancel i =>
    simp only [Pool.step]
    split
    · exact h.quit (by simp)
    · exact h

theorem Upheld.play (h : m.Upheld P) (es : List (Event ι)) : (m.play es).Upheld P := by
  induction es generalizing m with
  | nil => exact h
  | cons e es ih => exact ih (h.step e)

end Pool

/-! ## §3 Steps of a call -/

namespace Action

/-- What the action saves keeps to the rule, as long as what it is shown does. -/
def Upholds (P : Row → Prop) (a : Action α) : Prop := Program.Upholds P (ExceptT.run a)

variable {a : Action α} {f : α → Action β}

theorem upholds_pure (x : α) : (pure x : Action α).Upholds P := .done _

theorem upholds_throw (e : Failure) : (throw e : Action α).Upholds P := .done _

theorem Upholds.bind (h : a.Upholds P) (k : ∀ x, (f x).Upholds P) : (a >>= f).Upholds P := by
  refine Program.Upholds.bind h fun x => ?_
  cases x with
  | ok x => exact k x
  | error e => exact .done _

theorem upholds_perform {p : Program α} (h : p.Drawing) : (perform p).Upholds P :=
  (h.asks.upholds Program.saved?_of_isDraw).bind fun _ => .done _

theorem upholds_orFail (e : Failure) (o : Option α) : (orFail e o).Upholds P := by
  cases o <;> exact .done _

theorem upholds_require (c : Bool) (e : Failure) : (require c e).Upholds P := by
  cases c <;> exact .done _

theorem upholds_orFail_bind (e : Failure) {o : Option α} (k : ∀ x ∈ o, (f x).Upholds P) :
    (orFail e o >>= f).Upholds P := by
  cases o with
  | none => exact .done _
  | some x => exact k x rfl

theorem upholds_store {c : Call} (saves : ∀ x ∈ c.saved?, P x.saved) : (store c).Upholds P :=
  .ask (r := .store c) saves fun _ _ => .done _

/-- A call on the store that saves nothing. -/
theorem upholds_ask {c : Call} (reads : c.saved? = none) : (store c).Upholds P :=
  upholds_store (by simp [reads])

/-- The same, where something is known afterwards of what the call has found. -/
theorem upholds_ask_bind {c : Call} (reads : c.saved? = none) {f : c.Result → Action β}
    (k : ∀ x, c.Shows P x → (f x).Upholds P) : (store c >>= f).Upholds P := by
  have saves : ∀ x ∈ c.saved?, P x.saved := by simp [reads]
  refine .ask (r := .store c) saves fun answer shown => ?_
  cases answer with
  | error e => exact .done _
  | ok x => exact k x shown

end Action

end Roster
