/-
Roster.Proofs.Service.Escalation — nobody gains power that a holder did not give.

Two statements about whole runs, whoever calls and in whatever order. As long as
the owner of a living workspace does not act, they stay its only owner and it
lives (`Reigns`). As long as neither its owner nor an admin acts, its row and
its memberships stay as they were, but for members who leave (`Spared`).

A change writes memberships of its own workspace only (§2), so that a single
call (§3) matters for a workspace if it acts on it; and there the table of
decisions says what the rank of the actor allows. Those who hold no rank above
MEMBER never come to hold one, since that is decided by the rows that are spared.
-/
import Roster.Proofs.Service.Ownership

namespace Roster

open Store (State Row)
open World (idle amid)

/-! ## §1 Who acts on what -/

namespace Service

/--
The call asks, in the name of the user, for something to be done to the
workspace. Calls that only look at it are not counted.
-/
def Command.ActsOn (workspace user : Uuid) : Command → Prop
  | .update w actor _ _ | .delete w actor | .change w actor _ =>
    w = workspace ∧ actor.user = user
  | _ => False

/-- The call with which the user leaves the workspace. -/
def Command.Leaves (workspace user : Uuid) (c : Command) : Prop :=
  ∃ actor : Identity, actor.user = user ∧ c = .change workspace actor .leave

end Service

open Service

namespace Store.State

variable {s t u : State} {workspace : Uuid}

/-- The membership of a workspace that is stored under an identifier. -/
def memberRow? (s : State) (workspace id : Uuid) : Option Membership :=
  (s.memberships.find? id).filter fun m => m.workspace = workspace

theorem memberRow?_eq_some {id : Uuid} {m : Membership} :
    s.memberRow? workspace id = some m ↔
      m ∈ s.memberships.rows ∧ m.id = id ∧ m.workspace = workspace := by
  simp only [memberRow?, Option.filter_eq_some_iff, Table.find?_eq_some, key_membership,
    decide_eq_true_eq, and_assoc]

/-- The user is an active member of the workspace with a rank above MEMBER. -/
def Manages (s : State) (user workspace : Uuid) : Prop :=
  ∃ m ∈ s.memberships.rows,
    m.user = user ∧ m.workspace = workspace ∧ m.isActive = true ∧ m.role ≠ .member

/-- The workspace lives, and the user is its only active owner. -/
structure Reigns (s : State) (user workspace : Uuid) : Prop where
  lives : (s.workspace? workspace .active).isSome
  owns : ∃ m ∈ s.memberships.rows,
    m.user = user ∧ m.workspace = workspace ∧ m.isActive = true ∧ m.role = .owner
  only : ∀ m ∈ s.memberships.rows,
    m.workspace = workspace → m.isActive = true → m.role = .owner → m.user = user

/--
The row of the workspace is the same in both, and so is each of its memberships,
save that active rows of rank MEMBER may have got a tombstone if `left` has
their user.
-/
structure Spared (workspace : Uuid) (left : Uuid → Prop) (s t : State) : Prop where
  row : t.workspaces.find? workspace = s.workspaces.find? workspace
  members : ∀ id, t.memberRow? workspace id = s.memberRow? workspace id ∨
    ∃ m now, s.memberRow? workspace id = some m ∧ m.isActive = true ∧ m.role = .member ∧
      left m.user ∧ t.memberRow? workspace id = some (m.tombstone now).saved

theorem Spared.refl (workspace : Uuid) (left : Uuid → Prop) (s : State) :
    s.Spared workspace left s :=
  ⟨rfl, fun _ => .inl rfl⟩

theorem Spared.mono {left left' : Uuid → Prop} (h : Spared workspace left s t)
    (sub : ∀ x, left x → left' x) : Spared workspace left' s t where
  row := h.row
  members id := by
    rcases h.members id with e | ⟨m, now, hs, active, rank, gone, ht⟩
    · exact .inl e
    · exact .inr ⟨m, now, hs, active, rank, sub _ gone, ht⟩

/-- Who got a tombstone is not active, and so does not get another. -/
theorem Spared.trans {left : Uuid → Prop} (h : Spared workspace left s t)
    (k : Spared workspace left t u) : Spared workspace left s u where
  row := k.row.trans h.row
  members id := by
    rcases h.members id with e | ⟨m, now, hs, active, rank, gone, ht⟩
    · rcases k.members id with e' | ⟨m, now, ht, active, rank, gone, hu⟩
      · exact .inl (e'.trans e)
      · exact .inr ⟨m, now, e ▸ ht, active, rank, gone, hu⟩
    · rcases k.members id with e' | ⟨n, now', ht', active', -⟩
      · exact .inr ⟨m, now, hs, active, rank, gone, e'.trans ht⟩
      · rw [ht] at ht'
        cases ht'
        simp [Membership.isActive, Membership.tombstone, Membership.saved] at active'

/-- Nobody comes to manage a workspace that is spared. -/
theorem Spared.manages {left : Uuid → Prop} (h : Spared workspace left s t) {user : Uuid}
    (m : t.Manages user workspace) : s.Manages user workspace := by
  obtain ⟨m, hm, hu, hw, active, rank⟩ := m
  have ht := memberRow?_eq_some.2 ⟨hm, rfl, hw⟩
  rcases h.members m.id with e | ⟨n, now, -, -, -, -, ht'⟩
  · have hs := memberRow?_eq_some.1 (e.symm.trans ht)
    exact ⟨m, hs.1, hu, hw, active, rank⟩
  · rw [ht] at ht'
    cases ht'
    simp [Membership.isActive, Membership.tombstone, Membership.saved] at active

/-! ## §2 A change stays inside its workspace -/

/-- The same workspaces, and the same memberships except in one workspace. -/
structure AgreeOff (workspace : Uuid) (s t : State) : Prop where
  workspaces : t.workspaces = s.workspaces
  members : ∀ m : Membership, m.workspace ≠ workspace →
    (m ∈ t.memberships.rows ↔ m ∈ s.memberships.rows)

theorem AgreeOff.refl (workspace : Uuid) (s : State) : AgreeOff workspace s s :=
  ⟨rfl, fun _ _ => Iff.rfl⟩

/-- A saved membership of the workspace that displaces none of another one. -/
theorem AgreeOff.put {m : Membership} (h : AgreeOff workspace s t) (hw : m.workspace = workspace)
    (same : ∀ n ∈ t.memberships.rows, n.id = m.id → n.workspace = workspace) :
    AgreeOff workspace s (t.put (.membership m)) where
  workspaces := h.workspaces
  members n hn := by
    rw [mem_put_membership, ← h.members n hn]
    constructor
    · rintro (rfl | ⟨ht, -⟩)
      · exact absurd hw hn
      · exact ht
    · exact fun ht => .inr ⟨ht, fun e => hn (same n ht e)⟩

theorem AgreeOff.spared (h : AgreeOff workspace s t) {other : Uuid} (ne : other ≠ workspace)
    (left : Uuid → Prop) : Spared other left s t where
  row := by rw [h.workspaces]
  members id := by
    refine .inl (Option.ext fun m => ?_)
    rw [memberRow?_eq_some, memberRow?_eq_some]
    constructor
    · rintro ⟨hm, hid, hw⟩
      exact ⟨(h.members m fun e => ne (hw.symm.trans e)).1 hm, hid, hw⟩
    · rintro ⟨hm, hid, hw⟩
      exact ⟨(h.members m fun e => ne (hw.symm.trans e)).2 hm, hid, hw⟩

end Store.State

namespace Service

open Members
open Store.State (AgreeOff Spared Reigns Manages)

variable {s t : State} {supply : Supply} {workspace : Uuid} {actor : Identity}

/-- The acting owner's step down is inside the workspace. -/
theorem Yielded.agreeOff {acting : Membership} {role : Role} (y : Yielded s acting role t) :
    AgreeOff acting.workspace s t where
  workspaces := y.workspaces
  members m hm := by
    have other : ∀ n : Membership, n.workspace = m.workspace → role = .owner → n ≠ acting :=
      fun n hn _ e => hm (hn ▸ e ▸ rfl)
    constructor
    · intro ht
      obtain ⟨o, ho, hid, -, hw⟩ := y.origin m ht
      have hot := y.keeps o ho (other o hw.symm)
      exact Store.Table.eq_of_mem ht hot hid ▸ ho
    · exact fun hs => y.keeps m hs (other m rfl)

/-- What an outcome leaves differs from `s` in the workspace at most. -/
def Inside (workspace : Uuid) (s : State) (out : Except Failure Unit × World) : Prop :=
  AgreeOff workspace s out.2.published

/-- A change leaves all other workspaces and their memberships alone. -/
theorem change_inside (h : s.Sound) (wish : Change) :
    Inside workspace s ((wish.action workspace actor).run (idle s supply)) := by
  rcases change_enacted h supply workspace actor wish with
    ⟨f, -, run⟩ | ⟨v, -, acting, role, m, later, e, -, run⟩
  · rw [run]
    exact .refl workspace s
  · rw [run]
    by_cases admits : (s.yielded acting role).Admits (.membership m)
    · rw [run_lastSave admits]
      obtain ⟨-, -, haw, -⟩ := mem_of_membership? h e.acts
      have yielded : AgreeOff workspace s (s.yielded acting role) := haw ▸ (e.yields h).agreeOff
      exact yielded.put e.place fun n hn same =>
        (e.continues h admits n hn same).2.trans e.place
    · rw [Action.run_saveMembership_refused admits]
      exact .refl workspace s

/-- Leaving, in one equation. -/
theorem run_leave (h : s.Sound) :
    (leave workspace actor).run (idle s supply) =
      match s.workspace? workspace .active with
      | none => (.error .workspaceNotFound, idle s supply)
      | some _ =>
        match s.membership? actor.user workspace .active with
        | none => (.error (.notAMember "You are not a member of this workspace"), idle s supply)
        | some m =>
          if m.role = .owner then (.error .ownerCannotLeave, idle s supply)
          else (.ok (), idle (s.put (.membership (m.tombstone supply.readClock.1)))
            supply.readClock.2) := by
  rw [leave, run_enter]
  cases s.workspace? workspace .active with
  | none => rfl
  | some w =>
    cases hm : s.membership? actor.user workspace .active with
    | none => rfl
    | some m =>
      dsimp only
      rw [Action.run_require_bind]
      by_cases owns : m.role = .owner
      · rw [if_pos owns, owns]
        rfl
      · rw [if_neg owns, if_pos (not_isOwner.2 owns),
          Action.run_draw_bind_amid Program.draws_readClock, Action.run_saveMembership_admitted]
        · rfl
        · obtain ⟨hr, -⟩ := mem_of_membership? h hm
          exact h.admits_revision hr ⟨rfl, rfl, rfl, rfl⟩ fun o =>
            absurd (Membership.isActiveOwner_iff.1 o).2 owns

/-! ## §3 One call -/

/-- Another workspace is saved. -/
theorem spared_put_workspace {w : Workspace} (ne : workspace ≠ w.id) (left : Uuid → Prop) :
    Spared workspace left s (s.put (.workspace w)) :=
  ⟨Store.Table.find?_insert_of_ne ne, fun _ => .inl rfl⟩

/-- A workspace that is created is none that is stored. -/
theorem spared_create (h : s.Sound) (stored : s.roll.status workspace ≠ .absent)
    (left : Uuid → Prop) (name : String) (type : WorkspaceType) (owner : Identity) :
    Spared workspace left s
      ((Workspaces.create name type owner).run (idle s supply)).2.published := by
  rcases create_cases s supply name type owner with ⟨later, run⟩ | ⟨hw, hm, later, run⟩
  · rw [run]
    exact .refl ..
  · rw [run]
    have ne : workspace ≠ (founded supply name type).id := by
      rintro rfl
      exact stored (absent_of_founded h hw)
    have fresh := (Store.Table.carries_zero (h.put_workspace hw).membershipVersions).1 hm.1
    have joined : AgreeOff (founded supply name type).id (s.put (.workspace _)) _ :=
      AgreeOff.put (.refl _ _) rfl fun n hn e => absurd e (fresh n hn)
    exact (spared_put_workspace ne left).trans (joined.spared ne left)

/-- The member whose rank authorizes an action. -/
theorem mem_of_authorize (h : s.Sound) {p : Permission} {text : String} {w : Workspace}
    (e : s.authorize workspace actor p text = .ok w) :
    w.id = workspace ∧ ∃ m ∈ s.memberships.rows, m.user = actor.user ∧ m.workspace = workspace ∧
      m.isActive = true ∧ m.role.permits p := by
  obtain ⟨-, hid, -⟩ := mem_of_workspace? (State.authorize_eq_ok e)
  unfold State.authorize at e
  split at e
  · cases e
  · split at e
    · cases e
    · rename_i m hm
      split at e
      · obtain ⟨hr, hu, hw, active⟩ := mem_of_membership? h hm
        exact ⟨hid, m, hr, hu, hw, active, by assumption⟩
      · cases e

/-- Whoever is authorized to do anything but look manages the workspace. -/
theorem manages_of_authorize (h : s.Sound) {p : Permission} {text : String} {w : Workspace}
    (e : s.authorize workspace actor p text = .ok w) (hp : p ≠ .viewWorkspace) :
    s.Manages actor.user workspace := by
  obtain ⟨-, m, hm, hu, hw, active, permits⟩ := mem_of_authorize h e
  refine ⟨m, hm, hu, hw, active, fun rank => ?_⟩
  rw [rank] at permits
  cases p <;> first | exact hp rfl | cases permits

/-- A call that does not act on a stored workspace leaves it alone. -/
theorem spared_of_aloof (h : s.Sound) (o : Office) (c : Command) (supply : Supply)
    (stored : s.roll.status workspace ≠ .absent) (aloof : ∀ user, ¬c.ActsOn workspace user)
    (left : Uuid → Prop) :
    Spared workspace left s (o.carry c (idle s supply)).2.published := by
  cases c with
  | signup name email password =>
    rcases Credentials.signup_cases o.issuer o.hasher s supply name email password with
      ⟨f, later, run⟩ | ⟨text, -, run⟩
    · rw [Office.carry, Command.action, run]
      exact .refl ..
    · rw [Office.carry, Command.action, run]
      exact ⟨rfl, fun _ => .inl rfl⟩
  | login email password =>
    rw [Office.carry, Command.action, Credentials.run_login h]
    cases s.opened? o.hasher email password <;> exact ⟨rfl, fun _ => .inl rfl⟩
  | refresh token =>
    rw [Office.carry, Command.action, Credentials.run_refresh h]
    cases s.bearer? o.issuer supply.readClock.1 token <;> exact ⟨rfl, fun _ => .inl rfl⟩
  | create name type owner => exact spared_create h stored left name type owner
  | update w actor name type =>
    have ne : workspace ≠ w := fun e => aloof actor.user ⟨e.symm, rfl⟩
    rw [Office.carry, Command.action, run_update]
    cases e : s.authorize w actor .updateWorkspace
        "Only owner or admin can update the workspace" with
    | error f => exact .refl ..
    | ok x =>
      have hid := (mem_of_authorize h e).1
      exact spared_put_workspace (w := { x with name := Text.trim name, type }) (hid ▸ ne) left
  | delete w actor =>
    have ne : workspace ≠ w := fun e => aloof actor.user ⟨e.symm, rfl⟩
    rw [Office.carry, Command.action, run_delete]
    cases e : s.authorize w actor .deleteWorkspace
        "Only the owner can delete the workspace" with
    | error f => exact .refl ..
    | ok x =>
      have hid := (mem_of_authorize h e).1
      exact spared_put_workspace (w := x.tombstone supply.readClock.1) (hid ▸ ne) left
  | change w actor wish =>
    have ne : workspace ≠ w := fun e => aloof actor.user ⟨e.symm, rfl⟩
    exact (change_inside h wish).spared ne left
  | details w actor =>
    rw [Office.carry, Command.action, run_details]
    cases (s.detailsFor actor.user (some w)).head? <;> exact .refl ..
  | list actor => exact .refl ..
  | check w actor permission =>
    rw [Office.carry, Command.action, run_checkPermission]
    exact .refl ..
  | count w => exact .refl ..

/-- To those without a rank above MEMBER the table allows nothing but leaving. -/
theorem Roll.eq_leave_of_decide {v v' : Roll} {user : Uuid} {wish : Change}
    (low : ∀ rank, v.standing user workspace = .active rank → rank = .member)
    (h : v.decide workspace user wish = .ok v') : wish = .leave := by
  cases (allowed_of_decide h).2 with
  | leave acts notOwner => rfl
  | transferOwnership owns account distinct holds => exact absurd (low _ owns) (by simp)
  | add acts manages grant account away => exact absurd (low _ acts) manages
  | remove acts manages account holds notOwner above => exact absurd (low _ acts) manages
  | changeRole acts manages grant account holds notOwner => exact absurd (low _ acts) manages

theorem rank_of_not_manages (h : s.Sound) {user : Uuid} (low : ¬s.Manages user workspace)
    {rank : Role} (e : s.roll.standing user workspace = .active rank) : rank = .member := by
  obtain ⟨m, hm, hu, hw, hs⟩ := h.mem_of_standing e nofun
  unfold Membership.standing at hs
  split at hs
  · rename_i active
    refine Decidable.byContradiction fun ne => low ⟨m, hm, hu, hw, active, ?_⟩
    rwa [Standing.active.inj hs]
  · cases hs

/-- The tombstone of a MEMBER who leaves. -/
theorem spared_leave (h : s.Sound) (low : ¬s.Manages actor.user workspace) :
    Spared workspace (fun user => user = actor.user) s
      ((leave workspace actor).run (idle s supply)).2.published := by
  rw [run_leave h]
  cases s.workspace? workspace .active with
  | none => exact .refl ..
  | some w =>
    cases hm : s.membership? actor.user workspace .active with
    | none => exact .refl ..
    | some m =>
      obtain ⟨hr, hu, hw, active⟩ := mem_of_membership? h hm
      have rank : m.role = .member :=
        Decidable.byContradiction fun ne => low ⟨m, hr, hu, hw, active, ne⟩
      dsimp only
      rw [if_neg (by simp [rank])]
      refine ⟨rfl, fun id => ?_⟩
      let n : Membership := m.tombstone supply.readClock.1
      by_cases e : id = m.id
      · refine .inr ⟨m, supply.readClock.1, State.memberRow?_eq_some.2 ⟨hr, e.symm, hw⟩, active,
          rank, hu, ?_⟩
        exact State.memberRow?_eq_some.2
          ⟨State.mem_put_membership.2 (.inl rfl), e.symm, hw⟩
      · have other : (s.put (.membership n)).memberships.find? id = s.memberships.find? id :=
          Store.Table.find?_insert_of_ne e
        exact .inl (congrArg (Option.filter _) other)

/-- A call by whom its workspace gives no rank above MEMBER. -/
theorem spared_carry (h : s.Sound) (o : Office) (c : Command) (supply : Supply)
    (stored : s.roll.status workspace ≠ .absent)
    (low : ∀ user, c.ActsOn workspace user → ¬s.Manages user workspace) :
    Spared workspace (fun user => c.Leaves workspace user) s
      (o.carry c (idle s supply)).2.published := by
  by_cases acts : ∃ user, c.ActsOn workspace user
  · obtain ⟨user, acts⟩ := acts
    cases c with
    | update w actor name type =>
      obtain ⟨rfl, rfl⟩ := acts
      rw [Office.carry, Command.action, run_update]
      cases e : s.authorize w actor .updateWorkspace
          "Only owner or admin can update the workspace" with
      | error f => exact .refl ..
      | ok x => exact absurd (manages_of_authorize h e (by simp)) (low _ ⟨rfl, rfl⟩)
    | delete w actor =>
      obtain ⟨rfl, rfl⟩ := acts
      rw [Office.carry, Command.action, run_delete]
      cases e : s.authorize w actor .deleteWorkspace
          "Only the owner can delete the workspace" with
      | error f => exact .refl ..
      | ok x => exact absurd (manages_of_authorize h e (by simp)) (low _ ⟨rfl, rfl⟩)
    | change w actor wish =>
      obtain ⟨rfl, rfl⟩ := acts
      have rank : ¬s.Manages actor.user w := low _ ⟨rfl, rfl⟩
      rcases change_cases h supply w actor wish with ⟨f, -, run⟩ | ⟨v, decided, -⟩
      · rw [Office.carry, Command.action, run]
        exact .refl ..
      · obtain rfl := Roll.eq_leave_of_decide (fun _ e => rank_of_not_manages h rank e) decided
        exact (spared_leave h rank).mono fun _ hu => ⟨actor, hu.symm, rfl⟩
    | _ => exact absurd acts id
  · exact spared_of_aloof h o c supply stored (fun user a => acts ⟨user, a⟩) _

/-- On the roll: the workspace lives and the user is its owner. -/
def Roll.Ruled (v : Roll) (user workspace : Uuid) : Prop :=
  v.status workspace = .active ∧ v.standing user workspace = .active .owner

theorem status_of_spared {left : Uuid → Prop} (k : Spared workspace left s t) :
    t.roll.status workspace = s.roll.status workspace := by
  show t.status workspace = s.status workspace
  rw [State.status, State.status, k.row]

/-- Nobody takes an owner's rank from a workspace that is spared. -/
theorem ruled_of_spared (h : s.Sound) (h' : t.Sound) {left : Uuid → Prop} {user : Uuid}
    (k : Spared workspace left s t) (r : s.roll.Ruled user workspace) :
    t.roll.Ruled user workspace := by
  refine ⟨(status_of_spared k).trans r.1, ?_⟩
  obtain ⟨m, hm, hu, hw, hs⟩ := h.mem_of_standing r.2 nofun
  have row := State.memberRow?_eq_some.2 ⟨hm, rfl, hw⟩
  rcases k.members m.id with e | ⟨n, now, hn, active, rank, -⟩
  · have ht := State.memberRow?_eq_some.1 (e.trans row)
    rw [← hu, ← hw, h'.standing_of_mem ht.1, hs]
  · rw [row] at hn
    cases hn
    rw [Membership.standing_of_active active, rank] at hs
    cases hs

/-- A decision for someone else than the owner leaves the owner in place. -/
theorem Roll.Ruled.move {v v' : Roll} {user acting : Uuid} (r : v.Ruled user workspace)
    (g : v.Governed) (m : Move v workspace acting v') (ne : acting ≠ user) :
    v'.Ruled user workspace := by
  obtain ⟨lives, owns⟩ := r
  obtain ⟨owner, one⟩ := g.owned workspace (by simp [lives])
  cases m with
  | assign target x held new gone =>
    have distinct : user ≠ target := fun e => held (e ▸ owns)
    exact ⟨lives, by rw [set_standing, if_neg fun e => distinct e.1, owns]⟩
  | handOver target acts distinct =>
    exact absurd (((one acting).1 acts).trans ((one user).1 owns).symm) ne

/-- A call by someone else leaves the owner of a living workspace in place. -/
theorem ruled_carry (h : s.Sound) (g : s.roll.Governed) (o : Office) (c : Command)
    (supply : Supply) {owner : Uuid} (r : s.roll.Ruled owner workspace)
    (away : ¬c.ActsOn workspace owner) :
    (o.carry c (idle s supply)).2.published.roll.Ruled owner workspace := by
  have h' := o.sound_carry c supply h
  have stored : s.roll.status workspace ≠ .absent := by simp [r.1]
  by_cases acts : ∃ user, c.ActsOn workspace user
  · obtain ⟨user, acts⟩ := acts
    cases c with
    | update w actor name type =>
      obtain ⟨rfl, rfl⟩ := acts
      rw [Office.carry, Command.action, run_update]
      cases e : s.authorize w actor .updateWorkspace
          "Only owner or admin can update the workspace" with
      | error f => exact r
      | ok x =>
        let y : Workspace := { x with name := Text.trim name, type }
        have active : y.isActive := (status_of_authorize e).2
        have same : (s.put (.workspace y)).roll = s.roll := by
          rw [State.roll_put_workspace, if_pos active, Roll.mark_same (status_of_authorize e).1]
        show (s.put (.workspace y)).roll.Ruled owner w
        rw [same]
        exact r
    | delete w actor =>
      obtain ⟨rfl, rfl⟩ := acts
      rw [Office.carry, Command.action, run_delete]
      cases e : s.authorize w actor .deleteWorkspace
          "Only the owner can delete the workspace" with
      | error f => exact r
      | ok x =>
        obtain ⟨-, m, hm, hu, hw, active, permits⟩ := mem_of_authorize h e
        have owns : s.roll.standing actor.user w = .active .owner := by
          rw [← hu, ← hw, h.standing_of_mem hm, Membership.standing_of_active active,
            Role.isOwner_iff.1 permits]
        obtain ⟨u, one⟩ := g.owned w stored
        exact absurd ⟨rfl, ((one _).1 owns).trans ((one _).1 r.2).symm⟩ away
    | change w actor wish =>
      obtain ⟨rfl, rfl⟩ := acts
      rcases change_cases h supply w actor wish with ⟨f, -, run⟩ | ⟨v, decided, settled⟩
      · rw [Office.carry, Command.action, run]
        exact r
      · rcases settled with ⟨s', later, run, -, -, hv⟩ | ⟨-, later, run⟩
        · rw [Office.carry, Command.action, run]
          show s'.roll.Ruled owner w
          exact hv ▸ r.move g (Roll.allowed_of_decide decided).2.move fun e => away ⟨rfl, e⟩
        · rw [Office.carry, Command.action, run]
          exact r
    | _ => exact absurd acts id
  · exact ruled_of_spared h h' (spared_of_aloof h o c supply stored
      (fun user a => acts ⟨user, a⟩) fun _ => False) r

/-! ## §4 Runs of calls -/

/-- Any calls keep the tables sound and every workspace governed. -/
theorem Office.governed_after (o : Office) (cs : List Command) (supply : Supply)
    (h : s.Sound ∧ s.roll.Governed) :
    (o.after cs (idle s supply)).published.Sound ∧
      (o.after cs (idle s supply)).published.roll.Governed :=
  o.after_keeps (P := fun s => s.Sound ∧ s.roll.Governed)
    (fun c _ supply h => ⟨o.sound_carry c supply h.1, h.2.step (step_carry h.1 o c supply)⟩) cs
      supply h

theorem governed_empty : State.empty.roll.Governed :=
  ⟨fun _ hw => absurd rfl hw, nofun, fun _ _ _ => rfl⟩

/-- What the roll says of a ruler, the rows do. -/
theorem Roll.Ruled.reigns (h : s.Sound) (g : s.roll.Governed) {user : Uuid}
    (r : s.roll.Ruled user workspace) : s.Reigns user workspace where
  lives := by
    obtain ⟨w, hw⟩ := State.status_eq_active.1 r.1
    rw [hw]
    rfl
  owns := by
    obtain ⟨m, hm, hu, hw, hs⟩ := h.mem_of_standing r.2 nofun
    unfold Membership.standing at hs
    split at hs
    · exact ⟨m, hm, hu, hw, by assumption, Standing.active.inj hs⟩
    · cases hs
  only m hm hw active rank := by
    obtain ⟨owner, one⟩ := g.owned workspace (by simp [r.1])
    have owns : s.roll.standing m.user workspace = .active .owner := by
      rw [← hw, h.standing_of_mem hm, Membership.standing_of_active active, rank]
    exact ((one _).1 owns).trans ((one _).1 r.2).symm

theorem carry_idle (o : Office) (c : Command) (s : State) (supply : Supply) :
    ∃ later, (o.carry c (idle s supply)).2 =
      idle (o.carry c (idle s supply)).2.published later := by
  obtain ⟨t, later, e, -⟩ := (c.action o).exists_idle s supply
  refine ⟨later, ?_⟩
  rw [Office.carry, e]
  rfl

theorem ruled_after (o : Office) (cs : List Command) (supply : Supply) (h : s.Sound)
    (g : s.roll.Governed) {owner : Uuid} (r : s.roll.Ruled owner workspace)
    (away : ∀ c ∈ cs, ¬c.ActsOn workspace owner) :
    (o.after cs (idle s supply)).published.roll.Ruled owner workspace := by
  induction cs generalizing s supply with
  | nil => exact r
  | cons c cs ih =>
    obtain ⟨later, e⟩ := carry_idle o c s supply
    rw [Office.after_cons, e]
    refine ih later (o.sound_carry c supply h) (g.step (step_carry h o c supply)) ?_
      fun c hc => away c (List.mem_cons_of_mem _ hc)
    exact ruled_carry h g o c supply r (away c List.mem_cons_self)

theorem spared_after (o : Office) (cs : List Command) (supply : Supply) (h : s.Sound)
    (stored : s.roll.status workspace ≠ .absent)
    (low : ∀ c ∈ cs, ∀ user, c.ActsOn workspace user → ¬s.Manages user workspace) :
    Spared workspace (fun user => ∃ c ∈ cs, c.Leaves workspace user) s
      (o.after cs (idle s supply)).published := by
  induction cs generalizing s supply with
  | nil => exact .refl ..
  | cons c cs ih =>
    obtain ⟨later, e⟩ := carry_idle o c s supply
    rw [Office.after_cons, e]
    have first := spared_carry h o c supply stored (low c List.mem_cons_self)
    have rest := ih later (o.sound_carry c supply h) (status_of_spared first ▸ stored)
      fun d hd user a m => low d (List.mem_cons_of_mem _ hd) user a (first.manages m)
    exact (first.mono fun _ left => ⟨c, List.mem_cons_self, left⟩).trans
      (rest.mono fun _ ⟨d, hd, left⟩ => ⟨d, List.mem_cons_of_mem _ hd, left⟩)

/--
After any calls, let a workspace be alive, and let any further calls follow.
If its owner acts on it in none of them, they remain its only owner and it
lives. If nobody acts on it in them whom it gives a rank above MEMBER, its row
and its memberships are spared but for members who leave.
-/
theorem no_escalation (o : Office) (supply : Supply) (before : List Command) (workspace : Uuid)
    (lives : ((o.after before (idle .empty supply)).published.workspace? workspace
      .active).isSome) (cs : List Command) (later : Supply) :
    let s := (o.after before (idle .empty supply)).published
    let t := (o.after cs (idle s later)).published
    (∀ m ∈ s.memberships.rows, m.workspace = workspace → m.isActive = true → m.role = .owner →
      (∀ c ∈ cs, ¬c.ActsOn workspace m.user) → t.Reigns m.user workspace) ∧
    ((∀ c ∈ cs, ∀ user, c.ActsOn workspace user → ¬s.Manages user workspace) →
      Spared workspace (fun user => ∃ c ∈ cs, c.Leaves workspace user) s t) := by
  intro s t
  obtain ⟨sound, governed⟩ : s.Sound ∧ s.roll.Governed :=
    o.governed_after before supply ⟨State.Sound.empty, governed_empty⟩
  obtain ⟨sound', governed'⟩ := o.governed_after cs later ⟨sound, governed⟩
  have status : s.roll.status workspace = .active :=
    State.status_eq_active.2 (Option.isSome_iff_exists.1 lives)
  refine ⟨fun m hm hw active rank away => ?_, fun low => ?_⟩
  · have ruled : s.roll.Ruled m.user workspace := by
      refine ⟨status, ?_⟩
      rw [← hw, sound.standing_of_mem hm, Membership.standing_of_active active, rank]
    exact (ruled_after o cs later sound governed ruled away).reigns sound' governed'
  · exact spared_after o cs later sound (by simp [status]) low

/-- An outsider tries to delete a workspace, and to become its owner. -/
theorem no_escalation_outsider :
    let founder : Identity := ⟨.ofNat 7, "f@b"⟩
    let other : Identity := ⟨.ofNat 0, "n@b"⟩
    let before : List Command := [.signup "N" "n@b" "p", .create "Acme" .team founder]
    let s := (Office.small.after before (idle .empty .counting)).published
    let cs : List Command :=
      [.delete (.ofNat 3) other, .change (.ofNat 3) other (.add "n@b" .owner)]
    (s.workspace? (.ofNat 3) .active).isSome ∧
      (Office.small.after cs (idle s .counting)).published.Reigns founder.user (.ofNat 3) := by
  intro founder other before s cs
  have lives : (s.workspace? (.ofNat 3) .active).isSome := by decide +kernel
  have owner : ∃ m ∈ s.memberships.rows, m.workspace = .ofNat 3 ∧ m.isActive = true ∧
      m.role = .owner ∧ m.user = founder.user := by decide +kernel
  obtain ⟨m, hm, hw, active, rank, user⟩ := owner
  refine ⟨lives, ?_⟩
  have h := (no_escalation .small .counting before (.ofNat 3) lives cs .counting).1 m hm hw active
    rank
  rw [user] at h
  refine h fun c hc => ?_
  have ne : other.user ≠ founder.user := by decide
  rcases List.mem_cons.1 hc with rfl | hc
  · exact fun acts => ne acts.2
  · rcases List.mem_singleton.1 hc with rfl
    exact fun acts => ne acts.2

end Service

end Roster
