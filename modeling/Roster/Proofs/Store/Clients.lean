/-
Roster.Proofs.Store.Clients — the store under any client whatever.

A client opens units of work one after another. In each it looks things up and
saves rows of its own making, whatever they hold, and then commits or walks
away (`Work`). §1 reads the tables as maps from places to rows, so that a save
is an update at one place. §2 states the invariant through these maps and
bounds the stored versions by the number of saves: no counter of 64 bits
overflows before 2^63 of them. §3 says what one step of a client does, and §4
what whole sequences of units of work do (`represented_throughout`).
-/
import Mathlib.Algebra.GroupWithZero.Nat
import Roster.Proofs.Service.Runs

namespace Roster

namespace Store

/-! ## §1 Tables as maps -/

/-- Where a row is stored: a table and an identifier. -/
inductive Place where
  | user (id : Uuid)
  | workspace (id : Uuid)
  | membership (id : Uuid)
  deriving DecidableEq

namespace Row

def place : Row → Place
  | user u => .user u.id
  | workspace w => .workspace w.id
  | membership m => .membership m.id

def version : Row → Int
  | user u => u.version
  | workspace w => w.version
  | membership m => m.version

/-- The row as a save leaves it: the version is one higher and nothing else differs. -/
def saved : Row → Row
  | user u => .user { u with version := u.version + 1 }
  | workspace w => .workspace { w with version := w.version + 1 }
  | membership m => .membership { m with version := m.version + 1 }

@[simp] theorem version_saved (r : Row) : r.saved.version = r.version + 1 := by cases r <;> rfl

end Row

namespace State

variable {s : State} {r : Row} {p : Place}

/-- The row at a place. -/
def row? (s : State) : Place → Option Row
  | .user id => (s.users.find? id).map .user
  | .workspace id => (s.workspaces.find? id).map .workspace
  | .membership id => (s.memberships.find? id).map .membership

theorem row?_empty (p : Place) : State.empty.row? p = none := by cases p <;> rfl

/-- A save stores the row at its place. -/
theorem row?_put_self (s : State) (r : Row) : (s.put r).row? r.place = some r.saved := by
  cases r with
  | user u => exact congrArg (Option.map Row.user) (s.users.find?_insert_self u.saved)
  | workspace w =>
    exact congrArg (Option.map Row.workspace) (s.workspaces.find?_insert_self w.saved)
  | membership m =>
    exact congrArg (Option.map Row.membership) (s.memberships.find?_insert_self m.saved)

/-- A save leaves every other place alone. -/
theorem row?_put_of_ne (s : State) (h : p ≠ r.place) : (s.put r).row? p = s.row? p := by
  cases r <;> cases p <;> first
    | rfl
    | exact congrArg (Option.map _) (Table.find?_insert_of_ne fun e => h (congrArg _ e))

/-- A row is admitted only with the version of its place, where zero stands for no row. -/
theorem Admits.version (h : s.Admits r) :
    ((s.row? r.place).map Row.version).getD 0 = r.version := by
  cases r with
  | user u =>
    simp only [row?, Row.place, Option.map_map]
    exact h.1
  | workspace w =>
    simp only [row?, Row.place, Option.map_map]
    exact h
  | membership m =>
    simp only [row?, Row.place, Option.map_map]
    exact h.1

/-! ## §2 The invariant -/

/-- What the store promises about its tables, whoever writes them. -/
structure Represented (s : State) : Prop where
  /-- Each row is stored under its own identifier. -/
  keys : ∀ p r, s.row? p = some r → r.place = p
  /-- No two accounts have addresses with the same lower case. -/
  emails : ∀ a b u v, s.users.find? a = some u → s.users.find? b = some v →
    Text.lowercase u.email = Text.lowercase v.email → a = b
  /-- No two memberships have the same user and workspace. -/
  pairs : ∀ a b m n, s.memberships.find? a = some m → s.memberships.find? b = some n →
    m.user = n.user → m.workspace = n.workspace → a = b
  /-- No workspace has two active owners. -/
  owners : ∀ a b m n, s.memberships.find? a = some m → s.memberships.find? b = some n →
    m.workspace = n.workspace → m.isActive = true → m.role = .owner →
    n.isActive = true → n.role = .owner → a = b
  versions : ∀ p r, s.row? p = some r → 1 ≤ r.version

theorem Sound.versions (h : s.Sound) (hr : s.row? p = some r) : 1 ≤ r.version := by
  cases p with
  | user id =>
    obtain ⟨u, hu, rfl⟩ := Option.map_eq_some_iff.1 hr
    exact h.userVersions u (Table.find?_eq_some.1 hu).1
  | workspace id =>
    obtain ⟨w, hw, rfl⟩ := Option.map_eq_some_iff.1 hr
    exact h.workspaceVersions w (Table.find?_eq_some.1 hw).1
  | membership id =>
    obtain ⟨m, hm, rfl⟩ := Option.map_eq_some_iff.1 hr
    exact h.membershipVersions m (Table.find?_eq_some.1 hm).1

theorem place_of_row? (hr : s.row? p = some r) : r.place = p := by
  cases p with
  | user id =>
    obtain ⟨u, hu, rfl⟩ := Option.map_eq_some_iff.1 hr
    exact congrArg Place.user (Table.find?_eq_some.1 hu).2
  | workspace id =>
    obtain ⟨w, hw, rfl⟩ := Option.map_eq_some_iff.1 hr
    exact congrArg Place.workspace (Table.find?_eq_some.1 hw).2
  | membership id =>
    obtain ⟨m, hm, rfl⟩ := Option.map_eq_some_iff.1 hr
    exact congrArg Place.membership (Table.find?_eq_some.1 hm).2

theorem Sound.represented (h : s.Sound) : s.Represented where
  keys _ _ := place_of_row?
  emails := by
    intro a b u v hu hv e
    obtain ⟨mu, rfl⟩ := Table.find?_eq_some.1 hu
    obtain ⟨mv, rfl⟩ := Table.find?_eq_some.1 hv
    rw [h.emails u mu v mv e]
  pairs := by
    intro a b m n hm hn user workspace
    obtain ⟨mm, rfl⟩ := Table.find?_eq_some.1 hm
    obtain ⟨mn, rfl⟩ := Table.find?_eq_some.1 hn
    rw [h.pairs m mm n mn user workspace]
  owners := by
    intro a b m n hm hn workspace am om an on
    obtain ⟨mm, rfl⟩ := Table.find?_eq_some.1 hm
    obtain ⟨mn, rfl⟩ := Table.find?_eq_some.1 hn
    rw [h.owners m mm n mn workspace (Membership.isActiveOwner_iff.2 ⟨am, om⟩)
      (Membership.isActiveOwner_iff.2 ⟨an, on⟩)]
  versions _ _ := h.versions

/-- No stored version is above `n`. -/
def Bounded (n : Nat) (s : State) : Prop := ∀ p r, s.row? p = some r → r.version ≤ n

theorem Bounded.empty : Bounded 0 State.empty := by
  intro p r hr
  rw [row?_empty] at hr
  cases hr

theorem Bounded.mono {n k : Nat} (h : s.Bounded n) (le : n ≤ k) : s.Bounded k :=
  fun p r hr => Int.le_trans (h p r hr) (Int.ofNat_le.2 le)

/-- A save raises the bound by one. -/
theorem Bounded.put {n : Nat} (h : s.Bounded n) (a : s.Admits r) : (s.put r).Bounded (n + 1) := by
  intro p x hx
  by_cases e : p = r.place
  · rw [e, row?_put_self] at hx
    have expected := a.version
    rw [← Option.some.inj hx, Row.version_saved, ← expected]
    cases hr : s.row? r.place with
    | none =>
      simp only [Option.map_none, Option.getD_none]
      omega
    | some y =>
      have := h _ _ hr
      simp only [Option.map_some, Option.getD_some]
      omega
  · rw [row?_put_of_ne s e] at hx
    exact h.mono (Nat.le_succ n) p x hx

end State

/-! ## §3 One step of a client -/

/-- The call that saves a row. -/
def Row.call : Row → Call
  | user u => .saveUser u
  | workspace w => .saveWorkspace w
  | membership m => .saveMembership m

/-- The row that a save answers with. -/
def Row.ofResult : (r : Row) → r.call.Result → Row
  | user _, u => user u
  | workspace _, w => workspace w
  | membership _, m => membership m

end Store

open Store (State Row Place)

namespace Call

/-- The calls that only look something up. -/
def isLookup : Call → Bool
  | findUserByEmail _ | findUser _ | findWorkspace _ _ | findMembership _ _ _
  | countMembers _ | listDetails _ _ => true
  | healthCheck | begin | saveUser _ | saveWorkspace _ | saveMembership _ | commit => false

end Call

/-- What a client does inside a unit of work. -/
inductive Deed where
  | find (c : Call) (h : c.isLookup)
  | save (r : Row)

namespace Deed

def call : Deed → Call
  | find c _ => c
  | save r => r.call

/-- How many saves a step makes. -/
def saves : Deed → Nat
  | find _ _ => 0
  | save _ => 1

end Deed

namespace World

open Store.State (Represented)

variable {s t : State} {supply : Supply}

/--
Saves a row that a client holds: whether it succeeds, the row that the client
holds afterwards, and the surroundings.
-/
def save (w : World) (r : Row) : Except Store.Error Unit × Row × World :=
  match w.answer (.store r.call) with
  | (.ok x, w) => (.ok (), r.ofResult x, w)
  | (.error e, w) => (.error e, r, w)

theorem answer_save_admitted (supply : Supply) {r : Row} (h : t.Admits r) :
    ∃ x, (amid s t supply).answer (.store r.call) = (.ok x, amid s (t.put r) supply) ∧
      r.ofResult x = r.saved := by
  cases r with
  | user u =>
    refine ⟨u.saved, ?_, rfl⟩
    show (amid s t supply).writes (fun s => s.saveUser u) = _
    rw [writes, amid]
    simp only [State.saveUser_of_admits h]
    rfl
  | workspace w =>
    refine ⟨w.saved, ?_, rfl⟩
    show (amid s t supply).writes (fun s => s.saveWorkspace w) = _
    rw [writes, amid]
    simp only [State.saveWorkspace_of_admits h]
    rfl
  | membership m =>
    refine ⟨m.saved, ?_, rfl⟩
    show (amid s t supply).writes (fun s => s.saveMembership m) = _
    rw [writes, amid]
    simp only [State.saveMembership_of_admits h]
    rfl

theorem answer_save_refused (supply : Supply) {r : Row} (h : ¬t.Admits r) :
    ∃ e, (amid s t supply).answer (.store r.call) = (.error e, amid s t supply) := by
  cases r with
  | user u =>
    obtain ⟨e, he⟩ := State.saveUser_of_not_admits h
    refine ⟨e, ?_⟩
    show (amid s t supply).writes (fun s => s.saveUser u) = _
    rw [writes, amid]
    simp only [he]
    rfl
  | workspace w =>
    obtain ⟨detail, he⟩ := State.saveWorkspace_of_not_admits h
    refine ⟨.conflict detail, ?_⟩
    show (amid s t supply).writes (fun s => s.saveWorkspace w) = _
    rw [writes, amid]
    simp only [he]
    rfl
  | membership m =>
    obtain ⟨detail, he⟩ := State.saveMembership_of_not_admits h
    refine ⟨.conflict detail, ?_⟩
    show (amid s t supply).writes (fun s => s.saveMembership m) = _
    rw [writes, amid]
    simp only [he]
    rfl

/-- A save that succeeds writes the row, with its version one higher, and hands it back so. -/
theorem save_admitted {r : Row} (h : t.Admits r) :
    (amid s t supply).save r = (.ok (), r.saved, amid s (t.put r) supply) := by
  obtain ⟨x, hx, hr⟩ := answer_save_admitted (s := s) supply h
  rw [save, hx, ← hr]

/-- A save that fails changes neither the working copy nor the row. -/
theorem save_refused (supply : Supply) {r : Row} (h : ¬t.Admits r) :
    ∃ e, (amid s t supply).save r = (.error e, r, amid s t supply) := by
  obtain ⟨e, he⟩ := answer_save_refused (s := s) supply h
  exact ⟨e, by rw [save, he]⟩

theorem answer_lookup {c : Call} (h : c.isLookup) :
    ((amid s t supply).answer (.store c)).2 = amid s t supply := by
  cases c <;> first | rfl | cases h

/-- A step keeps the unit of work open and writes at most one row that is admitted. -/
theorem answer_deed (supply : Supply) (d : Deed) :
    ∃ t', ((amid s t supply).answer (.store d.call)).2 = amid s t' supply ∧
      (t' = t ∨ ∃ r, d = .save r ∧ t.Admits r ∧ t' = t.put r) := by
  cases d with
  | find c h => exact ⟨t, answer_lookup h, .inl rfl⟩
  | save r =>
    by_cases h : t.Admits r
    · obtain ⟨x, hx, -⟩ := answer_save_admitted (s := s) supply h
      exact ⟨t.put r, congrArg Prod.snd hx, .inr ⟨r, rfl, h, rfl⟩⟩
    · obtain ⟨e, he⟩ := answer_save_refused (s := s) supply h
      exact ⟨t, congrArg Prod.snd he, .inl rfl⟩

end World

/-! ## §4 Units of work -/

/-- A unit of work of a client: its steps, and whether it ends with a commit or is dropped. -/
structure Work where
  deeds : List Deed
  commits : Bool

namespace Work

open World (idle amid)
open Store.State (Represented Bounded)

/-- The steps of a unit of work and its end. -/
def steps (commits : Bool) : List Deed → Program Unit
  | [] => if commits then .ask (.store .commit) fun _ => .done () else .done ()
  | d :: rest => .ask (.store d.call) fun _ => steps commits rest

def program (k : Work) : Program Unit := .ask (.store .begin) fun _ => steps k.commits k.deeds

/-- How many saves a list of steps makes. -/
def savesOf (deeds : List Deed) : Nat := (deeds.map Deed.saves).sum

/-- How many saves units of work make. -/
def saves (works : List Work) : Nat := (works.map fun k => savesOf k.deeds).sum

/-- The surroundings after units of work, one after another. -/
def serve (works : List Work) (w : World) : World :=
  works.foldl (fun w k => (k.program.run w).2) w

variable {s t : State} {supply : Supply}

/-- Versions stay below the number of saves at every point of a unit of work. -/
theorem bounded_steps {n : Nat} (commits : Bool) (deeds : List Deed) (hs : s.Bounded n)
    (ht : t.Bounded n) :
    ∀ v ∈ (steps commits deeds).passes (amid s t supply),
      v.Holds (Bounded (n + savesOf deeds)) := by
  induction deeds generalizing n t with
  | nil =>
    intro v hv
    cases commits with
    | false =>
      rcases List.mem_singleton.1 hv with rfl
      exact ⟨hs, fun u hu => Option.some.inj hu ▸ ht⟩
    | true =>
      rcases List.mem_cons.1 hv with rfl | hv
      · exact ⟨hs, fun u hu => Option.some.inj hu ▸ ht⟩
      · rcases List.mem_singleton.1 hv with rfl
        exact ⟨ht, fun u hu => by cases hu⟩
  | cons d rest ih =>
    intro v hv
    have total : savesOf (d :: rest) = d.saves + savesOf rest := List.sum_cons
    rcases List.mem_cons.1 hv with rfl | hv
    · exact ⟨hs.mono (Nat.le_add_right ..), fun u hu =>
        Option.some.inj hu ▸ ht.mono (Nat.le_add_right ..)⟩
    · obtain ⟨t', e, step⟩ := World.answer_deed (s := s) (t := t) supply d
      rw [e] at hv
      have ht' : t'.Bounded (n + d.saves) := by
        rcases step with rfl | ⟨r, rfl, a, rfl⟩
        · exact ht.mono (Nat.le_add_right ..)
        · exact ht.put a
      rw [total, ← Nat.add_assoc]
      exact ih (hs.mono (Nat.le_add_right ..)) ht' v hv

theorem bounded_passes {n : Nat} (k : Work) (hs : s.Bounded n) :
    ∀ v ∈ k.program.passes (idle s supply), v.Holds (Bounded (n + savesOf k.deeds)) := by
  intro v hv
  rcases List.mem_cons.1 hv with rfl | hv
  · exact ⟨hs.mono (Nat.le_add_right ..), fun u hu => by cases hu⟩
  · exact bounded_steps k.commits k.deeds hs hs v hv

/-- Steps without a commit leave a working copy open, and a commit publishes that copy. -/
theorem runOpen_steps (supply : Supply) (deeds : List Deed) :
    ∃ t', ((steps false deeds).runOpen (amid s t supply)).2 = amid s t' supply ∧
      ((steps true deeds).runOpen (amid s t supply)).2 = idle t' supply := by
  induction deeds generalizing t with
  | nil => exact ⟨t, rfl, rfl⟩
  | cons d rest ih =>
    obtain ⟨t₁, e, -⟩ := World.answer_deed (s := s) (t := t) supply d
    obtain ⟨t₂, open', published⟩ := ih (t := t₁)
    refine ⟨t₂, ?_, ?_⟩
    · rw [← open', ← e]
      rfl
    · rw [← published, ← e]
      rfl

/-- A unit of work that is dropped leaves everything as it was. -/
theorem run_dropped (deeds : List Deed) :
    ((program ⟨deeds, false⟩).run (idle s supply)).2 = idle s supply := by
  obtain ⟨t, h, -⟩ := runOpen_steps (s := s) (t := s) supply deeds
  show ((steps false deeds).runOpen (amid s s supply)).2.close = _
  rw [h]
  rfl

/-- A commit publishes the working copy that the same steps leave open without it. -/
theorem run_committed (supply : Supply) (deeds : List Deed) :
    ∃ t, ((program ⟨deeds, false⟩).runOpen (idle s supply)).2.working = some t ∧
      ((program ⟨deeds, true⟩).run (idle s supply)).2 = idle t supply := by
  obtain ⟨t, h, published⟩ := runOpen_steps (s := s) (t := s) supply deeds
  refine ⟨t, ?_, ?_⟩
  · show ((steps false deeds).runOpen (amid s s supply)).2.working = _
    rw [h]
    rfl
  · show ((steps true deeds).runOpen (amid s s supply)).2.close = _
    rw [published]
    rfl

theorem run_idle (supply : Supply) (k : Work) :
    ∃ t, (k.program.run (idle s supply)).2 = idle t supply := by
  obtain ⟨deeds, commits⟩ := k
  cases commits with
  | false => exact ⟨s, run_dropped deeds⟩
  | true =>
    obtain ⟨t, -, h⟩ := run_committed (s := s) supply deeds
    exact ⟨t, h⟩

/-- Units of work end with sound tables, whose versions the saves so far bound. -/
theorem serve_idle (supply : Supply) {n : Nat} (works : List Work) (sound : s.Sound)
    (bound : s.Bounded n) :
    ∃ t, serve works (idle s supply) = idle t supply ∧ t.Sound ∧ t.Bounded (n + saves works) := by
  induction works generalizing s n with
  | nil => exact ⟨s, rfl, sound, bound⟩
  | cons k rest ih =>
    obtain ⟨t, e⟩ := run_idle (s := s) supply k
    have published : t = (k.program.runOpen (idle s supply)).2.published :=
      (congrArg World.published e).symm
    have last := k.program.end_mem_passes (idle s supply)
    have soundT : t.Sound := published ▸ (World.Holds.passes (fun _ _ h a => h.put a)
      (w := idle s supply) ⟨sound, fun u hu => by cases hu⟩ k.program _ last).1
    have boundT : t.Bounded (n + savesOf k.deeds) := published ▸ (k.bounded_passes bound _ last).1
    obtain ⟨u, he, hu⟩ := ih soundT boundT
    refine ⟨u, ?_, hu.1, ?_⟩
    · rw [← he, ← e]
      rfl
    · have total : saves (k :: rest) = savesOf k.deeds + saves rest := List.sum_cons
      rw [total, ← Nat.add_assoc]
      exact hu.2

/--
Whatever units of work have run on an empty store, and wherever the next one
stands: the working copy and the published tables are as `Represented` says and
no version is above the number of saves; a save of any row succeeds exactly if
the row is admitted, and then stores it with its version one higher, which is
what the client holds as well, and leaves all other places alone; if it fails,
nothing changes. A commit publishes the working copy; without it the unit of
work leaves no trace.
-/
theorem represented_throughout (supply : Supply) (works : List Work) (k : Work) :
    let w := serve works (idle .empty supply)
    (∀ v ∈ k.program.passes w,
      v.Holds Represented ∧
      v.Holds (Bounded (saves works + savesOf k.deeds)) ∧
      ∀ t ∈ v.working, ∀ r : Row,
        ((v.save r).1 = .ok () ↔ t.Admits r) ∧
        ∀ outcome held v', v.save r = (outcome, held, v') →
          v'.published = v.published ∧
          match outcome with
          | .ok () =>
            held = r.saved ∧
            ∃ t', v'.working = some t' ∧ t'.row? r.place = some r.saved ∧
              ∀ p, p ≠ r.place → t'.row? p = t.row? p
          | .error _ => held = r ∧ v'.working = some t) ∧
    (k.commits = true →
      some (k.program.run w).2.published = ((program ⟨k.deeds, false⟩).runOpen w).2.working) ∧
    (k.commits = false → (k.program.run w).2 = w) := by
  intro w
  obtain ⟨s, hw, sound, bound⟩ :=
    serve_idle supply works State.Sound.empty State.Bounded.empty
  rw [Nat.zero_add] at bound
  have start : w = idle s supply := hw
  rw [start]
  refine ⟨fun v hv => ⟨?_, bounded_passes k bound v hv, fun t ht r => ?_⟩, ?_, ?_⟩
  · have h := World.Holds.passes (fun _ _ h a => h.put a) (w := idle s supply)
      ⟨sound, fun u hu => by cases hu⟩ k.program v hv
    exact ⟨h.1.represented, fun u hu => (h.2 u hu).represented⟩
  · have faultless := Program.forall_mem_passes (P := fun w => w.faults = [])
      (fun _ r h => World.faults_answer h r) k.program (w := idle s supply) rfl v hv
    obtain ⟨published, working, supply', faults⟩ := v
    obtain rfl : faults = [] := faultless
    obtain rfl : working = some t := ht
    have inside : (⟨published, some t, supply', []⟩ : World) = amid published t supply' := rfl
    rw [inside]
    by_cases a : t.Admits r
    · rw [World.save_admitted a]
      refine ⟨⟨fun _ => a, fun _ => rfl⟩, ?_⟩
      rintro _ _ _ ⟨⟩
      exact ⟨rfl, rfl, t.put r, rfl, t.row?_put_self r, fun p hp => t.row?_put_of_ne hp⟩
    · obtain ⟨e, he⟩ := World.save_refused (s := published) supply' a
      rw [he]
      refine ⟨⟨fun h => (by cases h), fun h => absurd h a⟩, ?_⟩
      rintro _ _ _ ⟨⟩
      exact ⟨rfl, rfl, rfl⟩
  · intro commits
    obtain ⟨deeds, _⟩ := k
    cases commits
    obtain ⟨t, h, published⟩ := run_committed (s := s) supply deeds
    rw [h, published]
    rfl
  · intro dropped
    obtain ⟨deeds, _⟩ := k
    cases dropped
    exact run_dropped deeds

end Work

end Roster
