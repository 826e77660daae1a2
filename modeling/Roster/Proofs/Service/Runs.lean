/-
Roster.Proofs.Service.Runs — how an operation runs alone, request by request.

§1 follows a run through all the surroundings that it passes: whatever each
save keeps is true of the published tables and of the working copy at every
point of every run (`Holds.passes`). §2 runs an operation without planned
faults one step at a time; after these equations no proof opens `World` or
`ExceptT` again. §3 says that a run only moves forward in the streams of
identifiers, salts and clock readings.
-/
import Roster.Failure
import Roster.Proofs.Store.Saves

namespace Roster

open Store (State Row)

variable {α β : Type}

/-! ## §1 All that a run passes -/

namespace Program

/-- The surroundings that a run passes, from its start to its end. -/
def passes : Program α → World → List World
  | done _, w => [w]
  | ask r next, w => w :: (next (w.answer r).1).passes (w.answer r).2

theorem end_mem_passes (p : Program α) (w : World) : (p.runOpen w).2 ∈ p.passes w := by
  induction p generalizing w with
  | done a => simp [passes, runOpen]
  | ask r next ih => exact List.mem_cons_of_mem _ (ih (w.answer r).1 (w.answer r).2)

/-- What each request keeps is true of all that a run passes. -/
theorem forall_mem_passes {P : World → Prop} (step : ∀ w r, P w → P (World.answer w r).2)
    (p : Program α) {w : World} (h : P w) : ∀ v ∈ p.passes w, P v := by
  induction p generalizing w with
  | done a =>
    intro v hv
    rw [passes, List.mem_singleton] at hv
    exact hv ▸ h
  | ask r next ih =>
    intro v hv
    rcases List.mem_cons.1 hv with rfl | hv
    · exact h
    · exact ih _ (step w r h) v hv

end Program

/-- The row that a call saves. -/
def Call.saved? : Call → Option Row
  | saveUser u => some (.user u)
  | saveWorkspace w => some (.workspace w)
  | saveMembership m => some (.membership m)
  | _ => none

/-- The row that a request saves. -/
def Request.saved? : Request → Option Row
  | store c => c.saved?
  | _ => none

/-- A property of tables that both the published ones and the working copy have. -/
def World.Holds (P : State → Prop) (w : World) : Prop :=
  P w.published ∧ ∀ s ∈ w.working, P s

namespace World.Holds

variable {P : State → Prop} {w : World}

theorem writes (h : w.Holds P) {write : State → Except Store.Error (β × State)}
    (keeps : ∀ s b t, P s → write s = .ok (b, t) → P t) : (w.writes write).2.Holds P := by
  obtain ⟨published, working, supply, faults⟩ := w
  cases working with
  | none => exact h
  | some s =>
    simp only [World.writes]
    cases e : write s with
    | error _ => exact h
    | ok x => exact ⟨h.1, fun t ht => Option.some.inj ht ▸ keeps s x.1 x.2 (h.2 s rfl) e⟩

theorem reads (h : w.Holds P) (read : State → β) : (w.reads read).2.Holds P := by
  unfold World.reads
  split <;> exact h

theorem perform {c : Call} (keeps : ∀ s, ∀ r ∈ c.saved?, P s → s.Admits r → P (s.put r))
    (h : w.Holds P) : (w.perform c).2.Holds P := by
  cases c with
  | healthCheck => exact h
  | begin => exact ⟨h.1, fun t ht => Option.some.inj ht ▸ h.1⟩
  | saveUser u =>
    refine h.writes fun s b t hs e => ?_
    obtain ⟨a, -, rfl⟩ := State.saveUser_eq_ok.1 e
    exact keeps s _ rfl hs a
  | saveWorkspace x =>
    refine h.writes fun s b t hs e => ?_
    obtain ⟨a, -, rfl⟩ := State.saveWorkspace_eq_ok.1 e
    exact keeps s _ rfl hs a
  | saveMembership m =>
    refine h.writes fun s b t hs e => ?_
    obtain ⟨a, -, rfl⟩ := State.saveMembership_eq_ok.1 e
    exact keeps s _ rfl hs a
  | commit =>
    simp only [World.perform]
    split
    · rename_i s hs
      exact ⟨h.2 s hs, fun t ht => by cases ht⟩
    · exact h
  | _ => exact h.reads _

/-- What the row that a request saves keeps, the request keeps. -/
theorem answer_saving {r : Request}
    (keeps : ∀ s, ∀ x ∈ r.saved?, P s → s.Admits x → P (s.put x)) (h : w.Holds P) :
    (w.answer r).2.Holds P := by
  cases r with
  | drawId => exact h
  | drawSalt => exact h
  | readClock => exact h
  | store c =>
    simp only [World.answer, World.call]
    split
    · exact perform keeps (w := { w with faults := (Fault.due c.name w.faults).2 }) h
    · cases c with
      | commit => exact ⟨h.1, fun t ht => by cases ht⟩
      | _ => exact h

theorem answer (keeps : ∀ s r, P s → s.Admits r → P (s.put r)) (h : w.Holds P) (r : Request) :
    (w.answer r).2.Holds P :=
  h.answer_saving fun s x _ => keeps s x

/-- A property that every save keeps is true at every point of a run. -/
theorem passes (keeps : ∀ s r, P s → s.Admits r → P (s.put r)) (h : w.Holds P)
    (p : Program α) : ∀ v ∈ p.passes w, v.Holds P :=
  Program.forall_mem_passes (fun _ r hw => answer keeps hw r) p h

end World.Holds

/-! ## §2 Step by step -/

namespace World

/-- Surroundings between two operations, with no fault planned. -/
def idle (s : State) (supply : Supply) : World := ⟨s, none, supply, []⟩

/-- Surroundings inside a unit of work on `t`, with no fault planned. -/
def amid (s t : State) (supply : Supply) : World := ⟨s, some t, supply, []⟩

@[simp] theorem idle_published (s : State) (supply : Supply) : (idle s supply).published = s := rfl
@[simp] theorem idle_supply (s : State) (supply : Supply) : (idle s supply).supply = supply := rfl
@[simp] theorem close_idle (s : State) (supply : Supply) : (idle s supply).close = idle s supply :=
  rfl
@[simp] theorem close_amid (s t : State) (supply : Supply) :
    (amid s t supply).close = idle s supply := rfl

end World

/-- A part of an operation that only draws from the streams, as `f` does. -/
def Program.Draws (p : Program α) (f : Supply → α × Supply) : Prop :=
  ∀ w : World, p.runOpen w = ((f w.supply).1, { w with supply := (f w.supply).2 })

namespace Program

theorem runOpen_bind (p : Program α) (f : α → Program β) (w : World) :
    (p.bind f).runOpen w = (f (p.runOpen w).1).runOpen (p.runOpen w).2 := by
  induction p generalizing w with
  | done a => rfl
  | ask r next ih => exact ih (w.answer r).1 (w.answer r).2

theorem draws_drawId : drawId.Draws Supply.drawId := fun _ => rfl
theorem draws_drawSalt : drawSalt.Draws Supply.drawSalt := fun _ => rfl
theorem draws_readClock : readClock.Draws Supply.readClock := fun _ => rfl

end Program

namespace Action

open World (idle amid)

variable {s t : State} {supply : Supply}

/-- What the rest of an action does with the outcome of its first part. -/
theorem run_bind (a : Action α) (f : α → Action β) (w : World) :
    (a >>= f).run w =
      match Program.runOpen (ExceptT.run a) w with
      | (.ok x, v) => (f x).run v
      | (.error e, v) => (.error e, v.close) := by
  have h : ExceptT.run (a >>= f) = (ExceptT.run a).bind (ExceptT.bindCont f) := rfl
  rw [run, h, Program.run, Program.runOpen_bind]
  rcases Program.runOpen (ExceptT.run a) w with ⟨r, v⟩
  cases r <;> rfl

@[simp] theorem run_pure (x : α) (w : World) : (pure x : Action α).run w = (.ok x, w.close) := rfl

@[simp] theorem run_throw (e : Failure) (w : World) :
    (throw e : Action α).run w = (.error e, w.close) := rfl

theorem run_orFail_bind (e : Failure) (o : Option α) (f : α → Action β) (w : World) :
    (orFail e o >>= f).run w =
      match o with
      | some x => (f x).run w
      | none => (.error e, w.close) := by
  cases o <;> rfl

theorem run_require_bind (c : Bool) (e : Failure) (f : Unit → Action β) (w : World) :
    (require c e >>= f).run w = if c then (f ()).run w else (.error e, w.close) := by
  cases c <;> rfl

theorem run_draw_bind {p : Program α} {g : Supply → α × Supply} (h : p.Draws g)
    (f : α → Action β) (w : World) :
    (perform p >>= f).run w = (f (g w.supply).1).run { w with supply := (g w.supply).2 } := by
  have e : ExceptT.run (perform p) = p.bind fun a => .done (.ok a) := rfl
  rw [run_bind, e, Program.runOpen_bind, h w]
  rfl

theorem run_draw_bind_idle {p : Program α} {g : Supply → α × Supply} (h : p.Draws g)
    (f : α → Action β) :
    (perform p >>= f).run (idle s supply) = (f (g supply).1).run (idle s (g supply).2) :=
  run_draw_bind h f (idle s supply)

theorem run_draw_bind_amid {p : Program α} {g : Supply → α × Supply} (h : p.Draws g)
    (f : α → Action β) :
    (perform p >>= f).run (amid s t supply) = (f (g supply).1).run (amid s t (g supply).2) :=
  run_draw_bind h f (amid s t supply)

@[simp] theorem run_begin_bind (f : Unit → Action β) :
    (begin >>= f).run (idle s supply) = (f ()).run (amid s s supply) := rfl

@[simp] theorem run_findUserByEmail_bind (email : String) (f : Option User → Action β) :
    (store (.findUserByEmail email) >>= f).run (amid s t supply) =
      (f (t.userByEmail? email)).run (amid s t supply) := rfl

@[simp] theorem run_findUser_bind (id : Uuid) (f : Option User → Action β) :
    (store (.findUser id) >>= f).run (amid s t supply) =
      (f (t.user? id)).run (amid s t supply) := rfl

@[simp] theorem run_findWorkspace_bind (id : Uuid) (filter : Store.Filter)
    (f : Option Workspace → Action β) :
    (store (.findWorkspace id filter) >>= f).run (amid s t supply) =
      (f (t.workspace? id filter)).run (amid s t supply) := rfl

@[simp] theorem run_findMembership_bind (user workspace : Uuid) (filter : Store.Filter)
    (f : Option Membership → Action β) :
    (store (.findMembership user workspace filter) >>= f).run (amid s t supply) =
      (f (t.membership? user workspace filter)).run (amid s t supply) := rfl

@[simp] theorem run_commit_bind (f : Unit → Action β) :
    (commit >>= f).run (amid s t supply) = (f ()).run (idle t supply) := rfl

@[simp] theorem run_commit : commit.run (amid s t supply) = (.ok (), idle t supply) := rfl

theorem runOpen_store (c : Call) :
    Program.runOpen (ExceptT.run (store c)) (amid s t supply) =
      (((amid s t supply).perform c).1.mapError Failure.ofStore, ((amid s t supply).perform c).2) :=
  rfl

theorem run_saveUser_bind (u : User) (f : User → Action β) :
    (store (.saveUser u) >>= f).run (amid s t supply) =
      match t.saveUser u with
      | .ok (v, t) => (f v).run (amid s t supply)
      | .error e => (.error (Failure.ofStore e), idle s supply) := by
  rw [run_bind, runOpen_store]
  simp only [World.perform, World.writes, amid]
  cases t.saveUser u <;> rfl

theorem run_saveWorkspace_bind (w : Workspace) (f : Workspace → Action β) :
    (store (.saveWorkspace w) >>= f).run (amid s t supply) =
      match t.saveWorkspace w with
      | .ok (v, t) => (f v).run (amid s t supply)
      | .error e => (.error (Failure.ofStore e), idle s supply) := by
  rw [run_bind, runOpen_store]
  simp only [World.perform, World.writes, amid]
  cases t.saveWorkspace w <;> rfl

theorem run_saveWorkspace_admitted {w : Workspace} (h : t.Admits (.workspace w))
    (f : Workspace → Action β) :
    (store (.saveWorkspace w) >>= f).run (amid s t supply) =
      (f w.saved).run (amid s (t.put (.workspace w)) supply) := by
  rw [run_saveWorkspace_bind, State.saveWorkspace_of_admits h]

theorem run_saveWorkspace_refused {w : Workspace} (h : ¬t.Admits (.workspace w))
    (f : Workspace → Action β) :
    (store (.saveWorkspace w) >>= f).run (amid s t supply) = (.error .conflict, idle s supply) := by
  obtain ⟨detail, e⟩ := State.saveWorkspace_of_not_admits h
  rw [run_saveWorkspace_bind, e]
  rfl

theorem run_saveMembership_bind (m : Membership) (f : Membership → Action β) :
    (store (.saveMembership m) >>= f).run (amid s t supply) =
      match t.saveMembership m with
      | .ok (v, t) => (f v).run (amid s t supply)
      | .error e => (.error (Failure.ofStore e), idle s supply) := by
  rw [run_bind, runOpen_store]
  simp only [World.perform, World.writes, amid]
  cases t.saveMembership m <;> rfl

theorem run_saveMembership_admitted {m : Membership} (h : t.Admits (.membership m))
    (f : Membership → Action β) :
    (store (.saveMembership m) >>= f).run (amid s t supply) =
      (f m.saved).run (amid s (t.put (.membership m)) supply) := by
  rw [run_saveMembership_bind, State.saveMembership_of_admits h]

theorem run_saveMembership_refused {m : Membership} (h : ¬t.Admits (.membership m))
    (f : Membership → Action β) :
    (store (.saveMembership m) >>= f).run (amid s t supply) =
      (.error .conflict, idle s supply) := by
  obtain ⟨detail, e⟩ := State.saveMembership_of_not_admits h
  rw [run_saveMembership_bind, e]
  rfl

end Action

/-! ## §3 Streams -/

/-- The first of June 2026, at midnight. -/
def Reading.june : Reading := ⟨.ofSeconds 1780272000, by decide, by decide⟩

namespace Supply

/-- The same streams, at a place that is no earlier. -/
structure Before (a b : Supply) : Prop where
  id : b.id = a.id
  salt : b.salt = a.salt
  clock : b.clock = a.clock
  nextId : a.nextId ≤ b.nextId
  nextSalt : a.nextSalt ≤ b.nextSalt
  nextReading : a.nextReading ≤ b.nextReading

/-- Streams that count up while the clock stands still. -/
def counting : Supply := ⟨.ofNat, fun n => [UInt8.ofNat n], fun _ => .june, 0, 0, 0⟩

theorem Before.refl (a : Supply) : a.Before a :=
  ⟨rfl, rfl, rfl, Nat.le_refl _, Nat.le_refl _, Nat.le_refl _⟩

theorem Before.trans {a b c : Supply} (h : a.Before b) (k : b.Before c) : a.Before c :=
  ⟨k.id.trans h.id, k.salt.trans h.salt, k.clock.trans h.clock, Nat.le_trans h.nextId k.nextId,
    Nat.le_trans h.nextSalt k.nextSalt, Nat.le_trans h.nextReading k.nextReading⟩

end Supply

namespace World

@[simp] theorem supply_writes (w : World) (write : State → Except Store.Error (β × State)) :
    (w.writes write).2.supply = w.supply := by
  unfold writes
  split
  · split <;> rfl
  · rfl

@[simp] theorem supply_reads (w : World) (read : State → β) :
    (w.reads read).2.supply = w.supply := by
  unfold reads
  split <;> rfl

@[simp] theorem supply_perform (w : World) (c : Call) : (w.perform c).2.supply = w.supply := by
  cases c with
  | commit =>
    simp only [perform]
    split <;> rfl
  | healthCheck | begin => rfl
  | saveUser _ | saveWorkspace _ | saveMembership _ => exact supply_writes ..
  | _ => exact supply_reads ..

/-- A request draws at most one thing from the streams. -/
theorem before_answer (w : World) (r : Request) : w.supply.Before (w.answer r).2.supply := by
  cases r with
  | drawId => exact ⟨rfl, rfl, rfl, Nat.le_succ _, Nat.le_refl _, Nat.le_refl _⟩
  | drawSalt => exact ⟨rfl, rfl, rfl, Nat.le_refl _, Nat.le_succ _, Nat.le_refl _⟩
  | readClock => exact ⟨rfl, rfl, rfl, Nat.le_refl _, Nat.le_refl _, Nat.le_succ _⟩
  | store c =>
    have h : (w.answer (.store c)).2.supply = w.supply := by
      simp only [answer, call]
      split
      · exact supply_perform _ c
      · cases c <;> rfl
    exact h ▸ Supply.Before.refl _

@[simp] theorem faults_writes (w : World) (write : State → Except Store.Error (β × State)) :
    (w.writes write).2.faults = w.faults := by
  unfold writes
  split
  · split <;> rfl
  · rfl

@[simp] theorem faults_reads (w : World) (read : State → β) :
    (w.reads read).2.faults = w.faults := by
  unfold reads
  split <;> rfl

@[simp] theorem faults_perform (w : World) (c : Call) : (w.perform c).2.faults = w.faults := by
  cases c with
  | commit =>
    simp only [perform]
    split <;> rfl
  | healthCheck | begin => rfl
  | saveUser _ | saveWorkspace _ | saveMembership _ => exact faults_writes ..
  | _ => exact faults_reads ..

/-- Where no fault is planned, none ever is. -/
theorem faults_answer {w : World} (h : w.faults = []) (r : Request) :
    (w.answer r).2.faults = [] := by
  cases r with
  | store c =>
    simp only [answer, call, h, Fault.due]
    exact faults_perform _ c
  | _ => exact h

end World

theorem Program.before_run (p : Program α) (w : World) :
    w.supply.Before (p.run w).2.supply := by
  show w.supply.Before (p.runOpen w).2.supply
  exact forall_mem_passes (P := fun v => w.supply.Before v.supply)
    (fun v r h => h.trans (World.before_answer v r)) p (.refl _) _ (end_mem_passes p w)

namespace Action

/-- An operation that starts idle ends idle, further on in the streams. -/
theorem exists_idle (a : Action α) (s : State) (supply : Supply) :
    ∃ s' supply', (a.run (World.idle s supply)).2 = World.idle s' supply' ∧
      supply.Before supply' := by
  have h := Program.forall_mem_passes
    (P := fun w => w.faults = [] ∧ supply.Before w.supply)
    (fun w r hw => ⟨World.faults_answer hw.1 r, hw.2.trans (World.before_answer w r)⟩)
    (ExceptT.run a) (w := World.idle s supply) ⟨rfl, Supply.Before.refl _⟩ _
    (Program.end_mem_passes _ _)
  rcases hw : (Program.runOpen (ExceptT.run a) (World.idle s supply)).2
    with ⟨published, working, later, faults⟩
  rw [hw] at h
  obtain ⟨rfl, hb⟩ := h
  refine ⟨published, later, ?_, hb⟩
  show (Program.runOpen (ExceptT.run a) (World.idle s supply)).2.close = _
  rw [hw]
  rfl

/-- What every save keeps, an operation keeps, however it ends. -/
theorem keeps (a : Action α) {P : State → Prop}
    (step : ∀ s r, P s → s.Admits r → P (s.put r)) {s : State} (supply : Supply) (h : P s) :
    P (a.run (World.idle s supply)).2.published :=
  (World.Holds.passes step (w := World.idle s supply) ⟨h, fun t ht => by cases ht⟩
    (ExceptT.run a) _ (Program.end_mem_passes _ _)).1

end Action

end Roster
