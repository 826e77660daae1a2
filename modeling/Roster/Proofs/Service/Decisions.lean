/-
Roster.Proofs.Service.Decisions — the operations on members decide as the table does.

`Follows` puts an operation beside a decision of the table: where the table
refuses, the operation is refused alike and leaves everything as it was; where
the table decides, what is left of the operation is its writes. Both go through
the same checks in the same order, so each pair of checks has one lemma (§2).
What is written (`Enacts`, §3) goes through because the tables are sound: the
acting owner makes room first, and then the target's row is revised, or a fresh
one is added. Only an identifier that is already taken can stop the latter
(`settled_of_enacted`).
-/
import Roster.Proofs.Service.Outcomes
import Roster.Proofs.Service.Roll

namespace Roster.Service

open Store (State Row)
open World (idle amid)
open Members

variable {α : Type} {s t : State} {supply : Supply} {workspace : Uuid} {actor : Identity}

/-! ## §1 Ranks -/

theorem permits_manageMembers {r : Role} : r.permits .manageMembers = true ↔ r ≠ .member := by
  cases r <;> decide

theorem permits_transferOwnership {r : Role} :
    r.permits .transferOwnership = true ↔ r = .owner :=
  Role.isOwner_iff

theorem not_isOwner {r : Role} : (!r.isOwner) = true ↔ r ≠ .owner := by
  cases r <;> decide

theorem grants {r role : Role} :
    (!role.isOwner || r.permits .grantOwnership) = true ↔ (role = .owner → r = .owner) := by
  cases r <;> cases role <;> decide

/-- Among those who may remove anyone, only an admin facing an admin may not. -/
theorem canRemove_of_ne {r held : Role} (hr : r ≠ .member) (hh : held ≠ .owner) :
    r.canRemove held = true ↔ ¬(r = .admin ∧ held = .admin) := by
  rw [Role.canRemove_iff]
  cases r <;> cases held <;> simp_all

/-! ## §2 Side by side -/

/-- The operation is refused as `d` is, and otherwise its outcome is an `F` of the decision. -/
def Follows (w : World) (a : Action Unit) (d : Except Failure Roll)
    (F : Roll → Except Failure Unit × World → Prop) : Prop :=
  match d with
  | .error f => a.run w = (.error f, w.close)
  | .ok v => F v (a.run w)

namespace Follows

variable {w : World} {F : Roll → Except Failure Unit × World → Prop}

/-- A check of the operation beside the same check of the table. -/
theorem check {c : Bool} {p : Prop} [Decidable p] {f : Failure} {k : Unit → Action Unit}
    {g : Unit → Except Failure Roll} (same : c = true ↔ p) (h : p → Follows w (k ()) (g ()) F) :
    Follows w (Action.require c f >>= k) (Roll.check p f >>= g) F := by
  by_cases hp : p
  · have e : (Roll.check p f >>= g) = g () := by rw [Roll.check, if_pos hp]; rfl
    unfold Follows
    rw [e, Action.run_require_bind, if_pos (same.2 hp)]
    exact h hp
  · have e : (Roll.check p f >>= g) = .error f := by rw [Roll.check, if_neg hp]; rfl
    unfold Follows
    rw [e, Action.run_require_bind, if_neg (mt same.1 hp)]

theorem rank_roll (user : Uuid) (refusal : String) :
    s.roll.rank user workspace refusal =
      match s.membership? user workspace .active with
      | some m => .ok m.role
      | none => .error (.notAMember refusal) := by
  have e : s.roll.standing user workspace =
      ((s.pair? user workspace).map Membership.standing).getD .none := rfl
  rw [Roll.rank, e, State.membership?]
  cases s.pair? user workspace with
  | none => rfl
  | some m =>
    cases h : m.isActive <;> simp [Membership.standing, Store.Filter.admits, Option.filter, h]

theorem target_roll (email : String) :
    s.roll.target email =
      match s.userByEmail? (normalizeEmail email) with
      | some u => .ok u.id
      | none => .error .userNotFound := by
  have e : s.roll.account (normalizeEmail email) =
      (s.userByEmail? (normalizeEmail email)).map User.id := rfl
  rw [Roll.target, e]
  cases s.userByEmail? (normalizeEmail email) <;> rfl

/-- The workspace and the acting member come first in every operation. -/
theorem enter {k : Membership → Action Unit} {g : Role → Except Failure Roll}
    (h : ∀ m, s.membership? actor.user workspace .active = some m →
      Follows (amid s s supply) (k m) (g m.role) F) :
    Follows (idle s supply)
      (Action.begin >>= fun _ => requireWorkspace workspace >>= fun _ =>
        requireActor workspace actor >>= k)
      (s.roll.enter workspace actor.user >>= g) F := by
  unfold Follows Roll.enter
  rw [run_enter, bind_assoc]
  cases hw : s.workspace? workspace .active with
  | none =>
    have hs : s.roll.status workspace ≠ .active := by
      intro e
      obtain ⟨w, e⟩ := State.status_eq_active.1 e
      simp [hw] at e
    rw [Roll.check, if_neg hs]
    rfl
  | some w =>
    have hs : s.roll.status workspace = .active := State.status_eq_active.2 ⟨w, hw⟩
    rw [Roll.check, if_pos hs]
    simp only [rank_roll]
    cases hm : s.membership? actor.user workspace .active with
    | none => rfl
    | some m => exact h m hm

theorem target {email : String} {k : User → Action Unit} {g : Uuid → Except Failure Roll}
    (h : ∀ u, s.userByEmail? (normalizeEmail email) = some u →
      Follows (amid s s supply) (k u) (g u.id) F) :
    Follows (amid s s supply) (requireUser email >>= k) (s.roll.target email >>= g) F := by
  unfold Follows
  rw [run_requireUser_bind, target_roll]
  cases hu : s.userByEmail? (normalizeEmail email) with
  | none => rfl
  | some u => exact h u hu

theorem rank {u : User} {k : Membership → Action Unit} {g : Role → Except Failure Roll}
    (h : ∀ m, s.membership? u.id workspace .active = some m →
      Follows (amid s s supply) (k m) (g m.role) F) :
    Follows (amid s s supply) (requireTarget workspace u >>= k)
      (s.roll.rank u.id workspace "Target user is not a member of this workspace" >>= g) F := by
  unfold Follows
  rw [run_requireTarget_bind, rank_roll]
  cases hm : s.membership? u.id workspace .active with
  | none => rfl
  | some m => exact h m hm

end Follows

/-! ## §3 What is written -/

/-- What stepping down for a new owner, if `role` is that rank, leaves of the tables. -/
structure Yielded (s : State) (acting : Membership) (role : Role) (t : State) : Prop where
  sound : t.Sound
  users : t.users = s.users
  workspaces : t.workspaces = s.workspaces
  roll : t.roll = s.roll.yield acting.user acting.workspace role
  room : role = .owner → ∀ user, t.HasRoom acting.workspace user
  keeps : ∀ n ∈ s.memberships.rows, (role = .owner → n ≠ acting) → n ∈ t.memberships.rows
  origin : ∀ n ∈ t.memberships.rows, ∃ o ∈ s.memberships.rows,
    n.id = o.id ∧ n.user = o.user ∧ n.workspace = o.workspace
  ids : ∀ o ∈ s.memberships.rows, ∃ n ∈ t.memberships.rows, n.id = o.id

theorem Yielded.refl (h : s.Sound) (acting : Membership) {role : Role} (hr : role ≠ .owner) :
    Yielded s acting role s where
  sound := h
  users := rfl
  workspaces := rfl
  roll := by rw [Roll.yield, if_neg hr]
  room e := absurd e hr
  keeps n hn _ := hn
  origin n hn := ⟨n, hn, rfl, rfl, rfl⟩
  ids n hn := ⟨n, hn, rfl⟩

/-- A lower rank for a stored row is admitted. -/
theorem admits_stepDown (h : s.Sound) {acting : Membership} (ha : acting ∈ s.memberships.rows) :
    s.Admits (.membership { acting with role := .admin }) :=
  h.admits_revision ha ⟨rfl, rfl, rfl, rfl⟩ fun o =>
    absurd (Membership.isActiveOwner_iff.1 o).2 (by simp)

/-- Once the owner has stepped down, the workspace has room for another. -/
theorem Yielded.stepDown (h : s.Sound) {acting : Membership} (ha : acting ∈ s.memberships.rows)
    (owned : acting.isActiveOwner) :
    Yielded s acting .owner (s.put (.membership { acting with role := .admin })) := by
  let m : Membership := { acting with role := .admin }
  have admits : s.Admits (.membership m) := admits_stepDown h ha
  have notOwner : ¬m.isActiveOwner := by simp [m, Membership.isActiveOwner_iff]
  have standing : m.standing = .active .admin :=
    Membership.standing_of_active (Membership.isActiveOwner_iff.1 owned).1
  have same : ∀ n ∈ s.memberships.rows, n.id = m.id → n = acting :=
    fun n hn e => Store.Table.eq_of_mem hn ha e
  refine ⟨h.put_membership admits, rfl, rfl, ?_, ?_, ?_, ?_, ?_⟩
  · rw [h.roll_put_membership admits fun n hn e => same n hn e ▸ ⟨rfl, rfl⟩, standing]
    rfl
  · intro _ user n hn hw o
    rcases State.mem_put_membership.1 hn with rfl | ⟨hn, hid⟩
    · exact absurd o notOwner
    · exact absurd (congrArg Membership.id (h.owners n hn acting ha hw o owned)) hid
  · intro n hn other
    exact State.mem_put_membership.2 (.inr ⟨hn, fun e => other rfl (same n hn e)⟩)
  · intro n hn
    rcases State.mem_put_membership.1 hn with rfl | ⟨hn, -⟩
    · exact ⟨acting, ha, rfl, rfl, rfl⟩
    · exact ⟨n, hn, rfl, rfl, rfl⟩
  · intro o ho
    by_cases hid : o.id = m.id
    · exact ⟨m.saved, State.mem_put_membership.2 (.inl rfl), hid.symm⟩
    · exact ⟨o, State.mem_put_membership.2 (.inr ⟨ho, hid⟩), rfl⟩

end Roster.Service

/-- The tables once the acting owner has stepped down for a new one, if `role` is that rank. -/
def Roster.Store.State.yielded (s : State) (acting : Membership) (role : Role) : State :=
  if role = .owner then s.put (.membership { acting with role := .admin }) else s

namespace Roster.Service

open Store (State Row)
open World (idle amid)
open Members

variable {α : Type} {s t : State} {supply : Supply} {workspace : Uuid} {actor : Identity}

theorem yielded_yields (h : s.Sound) {acting : Membership} {role : Role}
    (ha : acting ∈ s.memberships.rows) (active : acting.isActive)
    (grant : role = .owner → acting.role = .owner) :
    Yielded s acting role (s.yielded acting role) := by
  unfold State.yielded
  split
  · rename_i owner
    subst owner
    exact .stepDown h ha (Membership.isActiveOwner_iff.2 ⟨active, grant rfl⟩)
  · exact .refl h acting (by assumption)

/-- Stepping down succeeds, and the operation goes on with what it leaves. -/
theorem run_stepDownFor_bind (h : s.Sound) {acting : Membership} (role : Role)
    (ha : acting ∈ s.memberships.rows) (k : Unit → Action α) :
    (stepDownFor role acting >>= k).run (amid s s supply) =
      (k ()).run (amid s (s.yielded acting role) supply) := by
  by_cases hr : role = .owner
  · subst hr
    have e : stepDownFor .owner acting >>= k =
        Action.store (.saveMembership { acting with role := .admin }) >>= fun _ => k () := by
      show stepDown acting >>= k = _
      rw [stepDown, bind_assoc]
      rfl
    rw [e, Action.run_saveMembership_admitted (admits_stepDown h ha)]
    rfl
  · have e : stepDownFor role acting = pure () := by
      rw [stepDownFor, if_neg (mt Role.isOwner_iff.1 hr)]
    rw [e, pure_bind, State.yielded, if_neg hr]

/-- Whether a wish makes someone else the owner. -/
def Change.handsOver : Change → Bool
  | add _ role | changeRole _ role => role.isOwner
  | transferOwnership _ => true
  | remove _ | leave => false

/-- The user whose membership a wish is about. -/
def Change.target (s : State) (actor : Uuid) : Change → Option Uuid
  | add email _ | remove email | changeRole email _ | transferOwnership email =>
    (s.userByEmail? (normalizeEmail email)).map User.id
  | leave => some actor

/-- Whether the next identifier is one that a stored membership has. -/
def Taken (s : State) (supply : Supply) : Prop :=
  ∃ m ∈ s.memberships.rows, m.id = supply.id supply.nextId

/--
What a change that is allowed writes: the acting member steps down if `role` is
the owner's, and `m` is saved, which revises the row of the target or is new.
-/
structure Enacts (s : State) (supply : Supply) (workspace : Uuid) (actor : Identity)
    (wish : Change) (acting : Membership) (role : Role) (m : Membership) : Prop where
  acts : s.membership? actor.user workspace .active = some acting
  grant : role = .owner → acting.role = .owner
  handsOver : wish.handsOver = role.isOwner
  target : wish.target s actor.user = some m.user
  place : m.workspace = workspace
  rank : m.role = .owner → role = .owner
  other : role = .owner → m.user ≠ actor.user
  row : (∃ old ∈ s.memberships.rows, State.Revises m old) ∨
    m.version = 0 ∧ m.id = supply.id supply.nextId ∧ s.pair? m.user workspace = none

/-- The row that a membership check found. -/
theorem mem_of_membership? (h : s.Sound) {user : Uuid} {m : Membership}
    (hm : s.membership? user workspace .active = some m) :
    m ∈ s.memberships.rows ∧ m.user = user ∧ m.workspace = workspace ∧ m.isActive := by
  obtain ⟨hp, active⟩ := State.membership?_active.1 hm
  obtain ⟨hr, hu, hw⟩ := h.pair?_eq_some.1 hp
  exact ⟨hr, hu, hw, active⟩

namespace Enacts

variable {wish : Change} {acting m : Membership} {role : Role}

theorem yields (e : Enacts s supply workspace actor wish acting role m) (h : s.Sound) :
    Yielded s acting role (s.yielded acting role) := by
  obtain ⟨ha, -, -, active⟩ := mem_of_membership? h e.acts
  exact yielded_yields h ha active e.grant

/-- A row of the target that is stored is not that of an owner who steps down. -/
theorem ne_acting (e : Enacts s supply workspace actor wish acting role m) (h : s.Sound)
    {n : Membership} (user : m.user = n.user) : role = .owner → n ≠ acting := by
  rintro owner rfl
  obtain ⟨-, same, -⟩ := mem_of_membership? h e.acts
  exact e.other owner (user.trans same)

/-- The save goes through, unless the row is new and its identifier is taken. -/
theorem admits (e : Enacts s supply workspace actor wish acting role m) (h : s.Sound)
    (free : s.pair? m.user workspace = none → ¬Taken s supply) :
    (s.yielded acting role).Admits (.membership m) := by
  have y := e.yields h
  obtain ⟨-, -, haw, -⟩ := mem_of_membership? h e.acts
  have room : m.isActiveOwner → (s.yielded acting role).HasRoom m.workspace m.user := fun o =>
    (e.place.trans haw.symm) ▸ y.room (e.rank (Membership.isActiveOwner_iff.1 o).2) m.user
  rcases e.row with ⟨old, ho, r⟩ | ⟨version, id, new⟩
  -- Stepping down has changed another row than the one that is revised.
  · exact y.sound.admits_revision (y.keeps old ho (e.ne_acting h r.user)) r room
  · refine y.sound.admits_fresh version (fun n hn same => ?_) (fun n hn hw hu => ?_) room
    · obtain ⟨o, ho, hid, -⟩ := y.origin n hn
      exact free new ⟨o, ho, hid.symm.trans (same.trans id)⟩
    · obtain ⟨o, ho, -, hou, how⟩ := y.origin n hn
      have found := h.pair?_eq_some.2 ⟨ho, hou.symm.trans hu, how.symm.trans (hw.trans e.place)⟩
      rw [new] at found
      cases found

theorem not_admits (e : Enacts s supply workspace actor wish acting role m) (h : s.Sound)
    (new : s.pair? m.user workspace = none) (taken : Taken s supply) :
    ¬(s.yielded acting role).Admits (.membership m) := by
  have y := e.yields h
  obtain ⟨o, ho, hid⟩ := taken
  obtain ⟨n, hn, same⟩ := y.ids o ho
  rcases e.row with ⟨old, hold, r⟩ | ⟨version, id, -⟩
  · have found := h.pair?_eq_some.2 ⟨hold, r.user.symm, r.workspace.symm.trans e.place⟩
    rw [new] at found
    cases found
  · exact y.sound.not_admits_taken version hn (same.trans (hid.trans id.symm))

/-- A stored row of the same identifier is of the same user and workspace. -/
theorem continues (e : Enacts s supply workspace actor wish acting role m) (h : s.Sound)
    (admits : (s.yielded acting role).Admits (.membership m)) :
    ∀ n ∈ (s.yielded acting role).memberships.rows, n.id = m.id →
      n.user = m.user ∧ n.workspace = m.workspace := by
  intro n hn same
  have y := e.yields h
  rcases e.row with ⟨old, ho, r⟩ | ⟨version, -, -⟩
  · have hold := y.keeps old ho (e.ne_acting h r.user)
    rw [Store.Table.eq_of_mem hn hold (same.trans r.id)]
    exact ⟨r.user.symm, r.workspace.symm⟩
  · exact absurd admits (y.sound.not_admits_taken version hn same)

end Enacts

/-- What the last save of a change publishes. -/
theorem run_lastSave {m : Membership} {later : Supply} (admits : t.Admits (.membership m)) :
    (Action.store (.saveMembership m) >>= fun _ => Action.commit).run (amid s t later) =
      (.ok (), idle (t.put (.membership m)) later) := by
  rw [Action.run_saveMembership_admitted admits]
  rfl

/-- The outcome of a change whose checks passed is that of the last save. -/
def Enacted (s : State) (supply : Supply) (workspace : Uuid) (actor : Identity) (wish : Change)
    (v : Roll) (out : Except Failure Unit × World) : Prop :=
  ∃ acting role m later, Enacts s supply workspace actor wish acting role m ∧
    v = (s.roll.yield actor.user workspace role).set m.user workspace m.standing ∧
    out = (Action.store (.saveMembership m) >>= fun _ => Action.commit).run
      (amid s (s.yielded acting role) later)

/-! ## §4 The table is followed -/

theorem remove_enacts (h : s.Sound) (email : String) :
    Follows (idle s supply) (remove workspace actor email)
      (s.roll.decide workspace actor.user (.remove email))
      (Enacted s supply workspace actor (.remove email)) := by
  rw [Roll.decide]
  refine Follows.enter fun acting ha => ?_
  refine Follows.check permits_manageMembers fun manages => ?_
  refine Follows.target fun target ht => ?_
  refine Follows.rank fun m hm => ?_
  refine Follows.check not_isOwner fun notOwner => ?_
  refine Follows.check (canRemove_of_ne manages notOwner) fun _ => ?_
  obtain ⟨hr, hu, hw, -⟩ := mem_of_membership? h hm
  show Enacted _ _ _ _ _ _ (Action.run _ _)
  rw [Action.run_draw_bind_amid Program.draws_readClock]
  refine ⟨acting, .member, m.tombstone supply.readClock.1, _, ?_, hu ▸ rfl, rfl⟩
  exact {
    acts := ha
    grant := nofun
    handsOver := rfl
    target := by rw [Change.target, ht]; exact congrArg some hu.symm
    place := hw
    rank := fun owner => absurd owner notOwner
    other := nofun
    row := .inl ⟨m, hr, rfl, rfl, rfl, rfl⟩ }

theorem leave_enacts (h : s.Sound) :
    Follows (idle s supply) (leave workspace actor)
      (s.roll.decide workspace actor.user .leave)
      (Enacted s supply workspace actor .leave) := by
  rw [Roll.decide]
  refine Follows.enter fun m hm => ?_
  refine Follows.check not_isOwner fun notOwner => ?_
  obtain ⟨hr, hu, hw, -⟩ := mem_of_membership? h hm
  show Enacted _ _ _ _ _ _ (Action.run _ _)
  rw [Action.run_draw_bind_amid Program.draws_readClock]
  refine ⟨m, .member, m.tombstone supply.readClock.1, _, ?_, hu ▸ rfl, rfl⟩
  exact {
    acts := hm
    grant := nofun
    handsOver := rfl
    target := congrArg some hu.symm
    place := hw
    rank := fun owner => absurd owner notOwner
    other := nofun
    row := .inl ⟨m, hr, rfl, rfl, rfl, rfl⟩ }

theorem changeRole_enacts (h : s.Sound) (email : String) (role : Role) :
    Follows (idle s supply) (changeRole workspace actor email role)
      (s.roll.decide workspace actor.user (.changeRole email role))
      (Enacted s supply workspace actor (.changeRole email role)) := by
  rw [Roll.decide]
  refine Follows.enter fun acting ha => ?_
  refine Follows.check permits_manageMembers fun _ => ?_
  refine Follows.check grants fun grant => ?_
  refine Follows.target fun target ht => ?_
  refine Follows.rank fun m hm => ?_
  refine Follows.check not_isOwner fun notOwner => ?_
  obtain ⟨har, hau, haw, -⟩ := mem_of_membership? h ha
  obtain ⟨hr, hu, hw, active⟩ := mem_of_membership? h hm
  have other (owner : role = .owner) : m.user ≠ actor.user := by
    intro same
    have := h.pairs m hr acting har (same.trans hau.symm) (hw.trans haw.symm)
    exact notOwner (this ▸ grant owner)
  show Enacted _ _ _ _ _ _ (Action.run _ _)
  rw [run_stepDownFor_bind h role har]
  refine ⟨acting, role, { m with role }, _, ?_, ?_, rfl⟩
  · exact {
      acts := ha
      grant
      handsOver := rfl
      target := by rw [Change.target, ht]; exact congrArg some hu.symm
      place := hw
      rank := id
      other
      row := .inl ⟨m, hr, rfl, rfl, rfl, rfl⟩ }
  · rw [Membership.standing_of_active (m := { m with role }) active]
    exact hu ▸ rfl

theorem transferOwnership_enacts (h : s.Sound) (email : String) :
    Follows (idle s supply) (transferOwnership workspace actor email)
      (s.roll.decide workspace actor.user (.transferOwnership email))
      (Enacted s supply workspace actor (.transferOwnership email)) := by
  rw [Roll.decide]
  refine Follows.enter fun acting ha => ?_
  refine Follows.check permits_transferOwnership fun owns => ?_
  refine Follows.target fun target ht => ?_
  refine Follows.check (by simp) fun distinct => ?_
  refine Follows.rank fun m hm => ?_
  obtain ⟨har, -, -, -⟩ := mem_of_membership? h ha
  obtain ⟨hr, hu, hw, active⟩ := mem_of_membership? h hm
  show Enacted _ _ _ _ _ _ (Action.run (stepDownFor .owner acting >>= _) _)
  rw [run_stepDownFor_bind h .owner har]
  refine ⟨acting, .owner, { m with role := .owner }, _, ?_, ?_, rfl⟩
  · exact {
      acts := ha
      grant := fun _ => owns
      handsOver := rfl
      target := by rw [Change.target, ht]; exact congrArg some hu.symm
      place := hw
      rank := id
      other := fun _ same => distinct (hu.symm.trans same)
      row := .inl ⟨m, hr, rfl, rfl, rfl, rfl⟩ }
  · rw [Membership.standing_of_active (m := { m with role := .owner }) active]
    exact hu ▸ rfl

theorem not_any_isActive (user : Uuid) :
    (!(s.membership? user workspace .all).any Membership.isActive) = true ↔
      ¬(s.roll.standing user workspace).isActive := by
  have e : s.roll.standing user workspace =
      ((s.pair? user workspace).map Membership.standing).getD .none := rfl
  rw [State.membership?_all, e]
  cases s.pair? user workspace with
  | none => simp [Standing.isActive]
  | some m => simp [Membership.standing_isActive]

/-- A user who left before gets their row back; one who was never a member gets a new row. -/
theorem add_enacts (h : s.Sound) (email : String) (role : Role) :
    Follows (idle s supply) (add workspace actor email role)
      (s.roll.decide workspace actor.user (.add email role))
      (Enacted s supply workspace actor (.add email role)) := by
  rw [Roll.decide]
  refine Follows.enter fun acting ha => ?_
  refine Follows.check permits_manageMembers fun _ => ?_
  refine Follows.check grants fun grant => ?_
  refine Follows.target fun target ht => ?_
  unfold Follows
  rw [Action.run_findMembership_bind]
  refine Follows.check (not_any_isActive target.id) fun away => ?_
  obtain ⟨har, hau, haw, active⟩ := mem_of_membership? h ha
  rw [← not_any_isActive, State.membership?_all] at away
  have acts : s.pair? actor.user workspace = some acting := h.pair?_eq_some.2 ⟨har, hau, haw⟩
  have other : target.id ≠ actor.user := by
    intro same
    simp [same, acts, active] at away
  have found : (Change.add email role).target s actor.user = some target.id := by
    rw [Change.target, ht]
    rfl
  show Enacted _ _ _ _ _ _ (Action.run _ _)
  rw [run_stepDownFor_bind h role har, State.membership?_all]
  cases hp : s.pair? target.id workspace with
  | some old =>
    obtain ⟨ho, hu, hw⟩ := h.pair?_eq_some.1 hp
    rw [joining, bind_assoc, Action.run_draw_bind_amid Program.draws_readClock, pure_bind]
    refine ⟨acting, role, old.reactivate role supply.readClock.1, _, ?_, hu ▸ rfl, rfl⟩
    exact {
      acts := ha
      grant
      handsOver := rfl
      target := found.trans (congrArg some hu.symm)
      place := hw
      rank := id
      other := fun _ same => other (hu.symm.trans same)
      row := .inl ⟨old, ho, rfl, rfl, rfl, rfl⟩ }
  | none =>
    rw [joining, bind_assoc, Action.run_draw_bind_amid Program.draws_drawId, bind_assoc,
      Action.run_draw_bind_amid Program.draws_readClock, pure_bind]
    refine ⟨acting, role, .fresh supply.drawId.1 supply.drawId.2.readClock.1 workspace target.id
      role, _, ?_, rfl, rfl⟩
    exact {
      acts := ha
      grant
      handsOver := rfl
      target := found
      place := rfl
      rank := id
      other := fun _ => other
      row := .inr ⟨rfl, rfl, hp⟩ }

/-- Over sound tables every change is decided by the table, and writes one row or two. -/
theorem change_enacts (h : s.Sound) (supply : Supply) (workspace : Uuid) (actor : Identity)
    (wish : Change) :
    Follows (idle s supply) (wish.action workspace actor)
      (s.roll.decide workspace actor.user wish) (Enacted s supply workspace actor wish) := by
  cases wish with
  | add email role => exact add_enacts h email role
  | remove email => exact remove_enacts h email
  | changeRole email role => exact changeRole_enacts h email role
  | leave => exact leave_enacts h
  | transferOwnership email => exact transferOwnership_enacts h email

/-- A change is refused as the table refuses it, or it is enacted. -/
theorem change_enacted (h : s.Sound) (supply : Supply) (workspace : Uuid) (actor : Identity)
    (wish : Change) :
    (∃ f, s.roll.decide workspace actor.user wish = .error f ∧
      (wish.action workspace actor).run (idle s supply) = (.error f, idle s supply)) ∨
    ∃ v, s.roll.decide workspace actor.user wish = .ok v ∧
      Enacted s supply workspace actor wish v
        ((wish.action workspace actor).run (idle s supply)) := by
  have follows := change_enacts h supply workspace actor wish
  unfold Follows at follows
  cases e : s.roll.decide workspace actor.user wish with
  | error f =>
    rw [e] at follows
    exact .inl ⟨f, rfl, follows⟩
  | ok v =>
    rw [e] at follows
    exact .inr ⟨v, rfl, follows⟩

/--
The outcome of a change whose checks passed: the roll is the one decided. Only
where a drawn identifier is taken the change is refused instead.
-/
def Settled (s : State) (supply : Supply) (v : Roll) (out : Except Failure Unit × World) : Prop :=
  (∃ s' later, out = (.ok (), idle s' later) ∧ s'.users = s.users ∧
      s'.workspaces = s.workspaces ∧ s'.roll = v) ∨
    Taken s supply ∧ ∃ later, out = (.error .conflict, idle s later)

theorem settled_of_enacted (h : s.Sound) {wish : Change} {v : Roll}
    {out : Except Failure Unit × World} (enacted : Enacted s supply workspace actor wish v out) :
    Settled s supply v out := by
  obtain ⟨acting, role, m, later, e, rfl, rfl⟩ := enacted
  obtain ⟨-, hau, haw, -⟩ := mem_of_membership? h e.acts
  have y := e.yields h
  by_cases collides : s.pair? m.user workspace = none ∧ Taken s supply
  · rw [Action.run_saveMembership_refused (e.not_admits h collides.1 collides.2)]
    exact .inr ⟨collides.2, later, rfl⟩
  · have admits := e.admits h fun new taken => collides ⟨new, taken⟩
    rw [run_lastSave admits]
    refine .inl ⟨(s.yielded acting role).put (.membership m), later, rfl, y.users, y.workspaces, ?_⟩
    rw [y.sound.roll_put_membership admits (e.continues h admits), y.roll, hau, haw, e.place]

/-- A change is refused as the table refuses it, or leads to the roll it decides on. -/
theorem change_cases (h : s.Sound) (supply : Supply) (workspace : Uuid) (actor : Identity)
    (wish : Change) :
    (∃ f, s.roll.decide workspace actor.user wish = .error f ∧
      (wish.action workspace actor).run (idle s supply) = (.error f, idle s supply)) ∨
    ∃ v, s.roll.decide workspace actor.user wish = .ok v ∧
      Settled s supply v ((wish.action workspace actor).run (idle s supply)) := by
  exact (change_enacted h supply workspace actor wish).imp id fun ⟨v, decided, enacted⟩ =>
    ⟨v, decided, settled_of_enacted h enacted⟩

/--
After any calls, a change is answered as the table of decisions says of the
stored roll, and the new roll is the one it decides on, as long as the next
identifier is not one of a stored membership.
-/
theorem change_decided (o : Office) (supply : Supply) (cs : List Command) (workspace : Uuid)
    (actor : Identity) (wish : Change)
    (fresh : ∀ m ∈ (o.after cs (idle .empty supply)).published.memberships.rows,
      m.id ≠ (o.after cs (idle .empty supply)).supply.drawId.1) :
    let w := o.after cs (idle .empty supply)
    let decision := w.published.roll.decide workspace actor.user wish
    let outcome := o.carry (.change workspace actor wish) w
    (∀ f, decision = .error f → outcome.1 = .error f ∧ outcome.2.published = w.published) ∧
      ∀ v, decision = .ok v → outcome.1 = .ok () ∧ outcome.2.published.roll = v := by
  have sound := o.sound_after cs supply
  obtain ⟨s, later, hw, -⟩ := o.after_idle cs .empty supply
  rw [hw] at fresh sound ⊢
  intro w decision outcome
  rcases change_cases sound later workspace actor wish with
    ⟨f, decided, run⟩ | ⟨v, decided, settled⟩
  · have decided : decision = .error f := decided
    have : outcome = (.error f, idle s later) := run
    rw [decided, this]
    refine ⟨fun g e => ?_, nofun⟩
    cases e
    exact ⟨rfl, rfl⟩
  · have decided : decision = .ok v := decided
    rcases settled with ⟨s', _, run, -, -, hv⟩ | ⟨⟨m, hm, taken⟩, -⟩
    · have : outcome = (.ok (), idle s' _) := run
      rw [decided, this]
      refine ⟨nofun, fun v' e => ?_⟩
      cases e
      exact ⟨rfl, hv⟩
    · exact absurd taken (fresh m hm)

/-- The owner of a new workspace adds another user as its owner. -/
theorem change_decided_add :
    let founder : Identity := ⟨.ofNat 7, "f@b"⟩
    let cs : List Command := [.signup "N" "n@b" "p", .create "Acme" .team founder]
    let w := Office.small.after cs (idle .empty .counting)
    (∀ m ∈ w.published.memberships.rows, m.id ≠ w.supply.drawId.1) ∧
      (Office.small.carry (.change (.ofNat 3) founder (.add "N@b" .owner)) w).1 = .ok () := by
  intro founder cs w
  have fresh : ∀ m ∈ w.published.memberships.rows, m.id ≠ w.supply.drawId.1 := by decide +kernel
  have h := change_decided .small .counting cs (.ofNat 3) founder (.add "N@b" .owner) fresh
  have ok : (w.published.roll.decide (.ofNat 3) founder.user (.add "N@b" .owner)).isOk := by
    decide +kernel
  refine ⟨fresh, ?_⟩
  cases e : w.published.roll.decide (.ofNat 3) founder.user (.add "N@b" .owner) with
  | error f =>
    rw [e] at ok
    cases ok
  | ok v => exact (h.2 v e).1

end Roster.Service
