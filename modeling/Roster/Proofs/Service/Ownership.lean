/-
Roster.Proofs.Service.Ownership — every workspace has exactly one owner.

On the roll this is `Governed`: a workspace that exists, dead or alive, has one
active OWNER, nobody who left is one, and a workspace that does not exist has no
members. Whatever a call does, the roll makes at most one `Step`; all steps keep
`Governed`, because ownership moves only together with a step down (`handOver`)
and all else leaves owners alone (`assign`). The store never admits a second
active owner, so that also no copy in the middle of a call has two.
-/
import Roster.Proofs.Service.Decisions

namespace Roster

open Store (State Row)
open World (idle amid)

namespace Service

/-! ## §1 Moves on the roll -/

namespace Roll

/-- The roll with another status of one workspace. -/
def mark (v : Roll) (workspace : Uuid) (x : Status) : Roll :=
  { v with status := fun w => if w = workspace then x else v.status w }

/-- What a decision of the table may do. -/
inductive Move (v : Roll) (workspace actor : Uuid) : Roll → Prop
  /-- Someone who is not the owner gets a standing that is not the owner's. -/
  | assign (user : Uuid) (x : Standing) :
    v.standing user workspace ≠ .active .owner → x ≠ .active .owner → x ≠ .gone .owner →
      Move v workspace actor (v.set user workspace x)
  /-- The acting owner steps down for someone else. -/
  | handOver (user : Uuid) :
    v.standing actor workspace = .active .owner → user ≠ actor →
      Move v workspace actor
        ((v.set actor workspace (.active .admin)).set user workspace (.active .owner))

variable {v v' : Roll} {workspace actor user : Uuid}

theorem bind_eq_ok {α : Type} {x : Except Failure α} {g : α → Except Failure Roll} :
    (x >>= g) = .ok v' ↔ ∃ a, x = .ok a ∧ g a = .ok v' := by
  cases x with
  | error f => simp [bind, Except.bind]
  | ok a => simp [bind, Except.bind]

theorem check_eq_ok {p : Prop} [Decidable p] {f : Failure} {x : Unit} :
    check p f = .ok x ↔ p := by
  unfold check
  split <;> simp [*]

theorem rank_eq_ok {text : String} {role : Role} :
    v.rank user workspace text = .ok role ↔ v.standing user workspace = .active role := by
  unfold rank
  cases v.standing user workspace <;> simp

theorem check_bind_eq_ok {p : Prop} [Decidable p] {f : Failure} {g : Unit → Except Failure Roll} :
    (check p f >>= g) = .ok v' ↔ p ∧ g () = .ok v' := by
  simp only [bind_eq_ok, check_eq_ok]
  exact ⟨fun ⟨_, hp, hg⟩ => ⟨hp, hg⟩, fun ⟨hp, hg⟩ => ⟨(), hp, hg⟩⟩

theorem rank_bind_eq_ok {text : String} {g : Role → Except Failure Roll} :
    (v.rank user workspace text >>= g) = .ok v' ↔
      ∃ role, v.standing user workspace = .active role ∧ g role = .ok v' := by
  simp [bind_eq_ok, rank_eq_ok]

theorem enter_bind_eq_ok {g : Role → Except Failure Roll} :
    (v.enter workspace actor >>= g) = .ok v' ↔
      v.status workspace = .active ∧
        ∃ role, v.standing actor workspace = .active role ∧ g role = .ok v' := by
  rw [enter, bind_assoc, check_bind_eq_ok, rank_bind_eq_ok]

theorem target_bind_eq_ok {email : String} {g : Uuid → Except Failure Roll} :
    (v.target email >>= g) = .ok v' ↔ ∃ user, g user = .ok v' ∧
      v.account (normalizeEmail email) = some user := by
  rw [bind_eq_ok, target]
  cases v.account (normalizeEmail email) <;> simp

/-- Granting a rank below OWNER to someone who is not the owner, or handing over. -/
theorem move_of_grant {role rank : Role} (acts : v.standing actor workspace = .active rank)
    (grant : role = .owner → rank = .owner)
    (target : v.standing user workspace ≠ .active .owner) :
    Move v workspace actor ((v.yield actor workspace role).set user workspace (.active role)) := by
  by_cases hr : role = .owner
  · subst hr
    rw [grant rfl] at acts
    refine .handOver user acts fun e => ?_
    exact target (e ▸ acts)
  · rw [yield, if_neg hr]
    exact .assign user (.active role) target (fun e => hr (Standing.active.inj e))
      (by simp)

/-- What the checks of the table have found when it allows a change, and the roll after it. -/
inductive Allowed (v : Roll) (workspace actor : Uuid) : Change → Roll → Prop
  | add {email : String} {role rank : Role} {user : Uuid}
    (acts : v.standing actor workspace = .active rank) (manages : rank ≠ .member)
    (grant : role = .owner → rank = .owner)
    (account : v.account (normalizeEmail email) = some user)
    (away : ¬(v.standing user workspace).isActive) :
    Allowed v workspace actor (.add email role)
      ((v.yield actor workspace role).set user workspace (.active role))
  | remove {email : String} {rank held : Role} {user : Uuid}
    (acts : v.standing actor workspace = .active rank) (manages : rank ≠ .member)
    (account : v.account (normalizeEmail email) = some user)
    (holds : v.standing user workspace = .active held) (notOwner : held ≠ .owner)
    (above : ¬(rank = .admin ∧ held = .admin)) :
    Allowed v workspace actor (.remove email) (v.set user workspace (.gone held))
  | changeRole {email : String} {role rank held : Role} {user : Uuid}
    (acts : v.standing actor workspace = .active rank) (manages : rank ≠ .member)
    (grant : role = .owner → rank = .owner)
    (account : v.account (normalizeEmail email) = some user)
    (holds : v.standing user workspace = .active held) (notOwner : held ≠ .owner) :
    Allowed v workspace actor (.changeRole email role)
      ((v.yield actor workspace role).set user workspace (.active role))
  | leave {rank : Role} (acts : v.standing actor workspace = .active rank)
    (notOwner : rank ≠ .owner) :
    Allowed v workspace actor .leave (v.set actor workspace (.gone rank))
  | transferOwnership {email : String} {held : Role} {user : Uuid}
    (owns : v.standing actor workspace = .active .owner)
    (account : v.account (normalizeEmail email) = some user) (distinct : user ≠ actor)
    (holds : v.standing user workspace = .active held) :
    Allowed v workspace actor (.transferOwnership email)
      ((v.set actor workspace (.active .admin)).set user workspace (.active .owner))

/-- The table decides only for what its checks allow, and only in a living workspace. -/
theorem allowed_of_decide {wish : Change} (h : v.decide workspace actor wish = .ok v') :
    v.status workspace = .active ∧ Allowed v workspace actor wish v' := by
  cases wish with
  | add email role =>
    rw [decide, enter_bind_eq_ok] at h
    obtain ⟨lives, rank, acts, h⟩ := h
    obtain ⟨manages, h⟩ := check_bind_eq_ok.1 h
    obtain ⟨grant, h⟩ := check_bind_eq_ok.1 h
    obtain ⟨user, h, account⟩ := target_bind_eq_ok.1 h
    obtain ⟨away, h⟩ := check_bind_eq_ok.1 h
    cases h
    exact ⟨lives, .add acts manages grant account away⟩
  | remove email =>
    rw [decide, enter_bind_eq_ok] at h
    obtain ⟨lives, rank, acts, h⟩ := h
    obtain ⟨manages, h⟩ := check_bind_eq_ok.1 h
    obtain ⟨user, h, account⟩ := target_bind_eq_ok.1 h
    obtain ⟨held, holds, h⟩ := rank_bind_eq_ok.1 h
    obtain ⟨notOwner, h⟩ := check_bind_eq_ok.1 h
    obtain ⟨above, h⟩ := check_bind_eq_ok.1 h
    cases h
    exact ⟨lives, .remove acts manages account holds notOwner above⟩
  | changeRole email role =>
    rw [decide, enter_bind_eq_ok] at h
    obtain ⟨lives, rank, acts, h⟩ := h
    obtain ⟨manages, h⟩ := check_bind_eq_ok.1 h
    obtain ⟨grant, h⟩ := check_bind_eq_ok.1 h
    obtain ⟨user, h, account⟩ := target_bind_eq_ok.1 h
    obtain ⟨held, holds, h⟩ := rank_bind_eq_ok.1 h
    obtain ⟨notOwner, h⟩ := check_bind_eq_ok.1 h
    cases h
    exact ⟨lives, .changeRole acts manages grant account holds notOwner⟩
  | leave =>
    rw [decide, enter_bind_eq_ok] at h
    obtain ⟨lives, rank, acts, h⟩ := h
    obtain ⟨notOwner, h⟩ := check_bind_eq_ok.1 h
    cases h
    exact ⟨lives, .leave acts notOwner⟩
  | transferOwnership email =>
    rw [decide, enter_bind_eq_ok] at h
    obtain ⟨lives, rank, acts, h⟩ := h
    obtain ⟨owns, h⟩ := check_bind_eq_ok.1 h
    obtain ⟨user, h, account⟩ := target_bind_eq_ok.1 h
    obtain ⟨distinct, h⟩ := check_bind_eq_ok.1 h
    obtain ⟨held, holds, h⟩ := rank_bind_eq_ok.1 h
    cases h
    exact ⟨lives, .transferOwnership (owns ▸ acts) account distinct holds⟩

/-- What is allowed is a move. -/
theorem Allowed.move {wish : Change} (h : Allowed v workspace actor wish v') :
    Move v workspace actor v' := by
  cases h with
  | add acts manages grant account away =>
    exact move_of_grant acts grant fun e => away (by rw [e]; rfl)
  | @remove _ _ held user acts manages account holds notOwner above =>
    exact .assign user (.gone held) (by simpa [holds] using notOwner) (by simp)
      (by simpa using notOwner)
  | changeRole acts manages grant account holds notOwner =>
    exact move_of_grant acts grant (by simpa [holds] using notOwner)
  | @leave rank acts notOwner =>
    exact .assign actor (.gone rank) (by simpa [acts] using notOwner) (by simp)
      (by simpa using notOwner)
  | transferOwnership owns account distinct holds => exact .handOver _ owns distinct

/-! ## §2 One owner on the roll -/

/-- Every workspace that exists has one owner, and ownership ends before membership does. -/
structure Governed (v : Roll) : Prop where
  owned : ∀ w, v.status w ≠ .absent → ∃ u, ∀ x, v.standing x w = .active .owner ↔ x = u
  retired : ∀ u w, v.standing u w ≠ .gone .owner
  unpeopled : ∀ u w, v.status w = .absent → v.standing u w = .none

/-- A change of standings in one workspace, seen from a single workspace. -/
theorem Governed.of_standing (h : v.Governed) (lives : v.status workspace ≠ .absent)
    {f : Uuid → Standing} {v' : Roll} (status : v'.status = v.status)
    (other : ∀ u w, w ≠ workspace → v'.standing u w = v.standing u w)
    (own : ∀ u, v'.standing u workspace = f u)
    (owner : ∃ u, ∀ x, f x = .active .owner ↔ x = u) (retired : ∀ u, f u ≠ .gone .owner) :
    v'.Governed where
  owned w hw := by
    by_cases e : w = workspace
    · subst e
      obtain ⟨u, hu⟩ := owner
      exact ⟨u, fun x => own x ▸ hu x⟩
    · obtain ⟨u, hu⟩ := h.owned w (status ▸ hw)
      exact ⟨u, fun x => other x w e ▸ hu x⟩
  retired u w := by
    by_cases e : w = workspace
    · subst e
      exact own u ▸ retired u
    · exact other u w e ▸ h.retired u w
  unpeopled u w hw := by
    by_cases e : w = workspace
    · exact absurd (status ▸ e ▸ hw) lives
    · rw [other u w e]
      exact h.unpeopled u w (status ▸ hw)

/-- No move leaves a workspace without an owner or gives it a second one. -/
theorem Governed.move (h : v.Governed) (lives : v.status workspace ≠ .absent)
    (m : Move v workspace actor v') : v'.Governed := by
  obtain ⟨owner, ho⟩ := h.owned workspace lives
  cases m with
  | assign user x held new gone =>
    have distinct : owner ≠ user := fun e => held (e ▸ (ho owner).2 rfl)
    refine h.of_standing lives rfl (f := fun u => if u = user then x else v.standing u workspace)
      (fun u w e => ?_) (fun u => ?_) ⟨owner, fun u => ?_⟩ fun u => ?_
    · simp [set_standing, e]
    · simp [set_standing]
    · by_cases e : u = user
      · simp [e, new, distinct.symm]
      · simp [e, ho]
    · by_cases e : u = user
      · simp [e, gone]
      · simp [e, h.retired]
  | handOver user owns distinct =>
    have : actor = owner := (ho actor).1 owns
    refine h.of_standing lives rfl
      (f := fun u => if u = user then .active .owner else
        if u = actor then .active .admin else v.standing u workspace)
      (fun u w e => ?_) (fun u => ?_) ⟨user, fun u => ?_⟩ fun u => ?_
    · simp [set_standing, e]
    · simp [set_standing]
    · by_cases e : u = user
      · simp [e]
      · by_cases e' : u = actor
        · simp [e', Ne.symm distinct]
        · simp [e, e', ho, this ▸ e']
    · by_cases e : u = user
      · simp [e]
      · by_cases e' : u = actor
        · simp [e', Ne.symm distinct]
        · simp [e, e', h.retired]

/-- What any call may do to the roll. -/
inductive Step (v : Roll) : Roll → Prop
  /-- Only accounts may differ. -/
  | same {v' : Roll} : v'.status = v.status → v'.standing = v.standing → Step v v'
  | move (workspace actor : Uuid) {v' : Roll} :
    v.status workspace = .active → Move v workspace actor v' → Step v v'
  /-- A new workspace comes with its owner. -/
  | found (workspace owner : Uuid) : v.status workspace = .absent →
    Step v ((v.mark workspace .active).set owner workspace (.active .owner))
  | delete (workspace : Uuid) : v.status workspace = .active → Step v (v.mark workspace .deleted)

theorem mark_status (v : Roll) (workspace w : Uuid) (x : Status) :
    (v.mark workspace x).status w = if w = workspace then x else v.status w := rfl

theorem mark_same {x : Status} (h : v.status workspace = x) : v.mark workspace x = v := by
  refine Roll.ext (funext fun w => ?_) rfl rfl
  rw [mark_status]
  split
  · simp [*]
  · rfl

theorem Governed.step (h : v.Governed) (m : Step v v') : v'.Governed := by
  cases m with
  | same status standing =>
    exact ⟨status ▸ standing ▸ h.owned, standing ▸ h.retired, status ▸ standing ▸ h.unpeopled⟩
  | move workspace actor lives m => exact h.move (by simp [lives]) m
  | found workspace owner new =>
    have none : ∀ u, v.standing u workspace = .none := fun u => h.unpeopled u workspace new
    refine ⟨fun w hw => ?_, fun u w => ?_, fun u w hw => ?_⟩
    · by_cases e : w = workspace
      · refine ⟨owner, fun x => ?_⟩
        by_cases e' : x = owner <;> simp [set_standing, mark, e, e', none]
      · have : v.status w ≠ .absent := by simpa [mark_status, e] using hw
        simpa [set_standing, mark, e] using h.owned w this
    · rw [set_standing]
      split
      · exact nofun
      · exact h.retired u w
    · by_cases e : w = workspace
      · simp [mark_status, e] at hw
      · have : v.status w = .absent := by simpa [mark_status, e] using hw
        simpa [set_standing, mark, e] using h.unpeopled u w this
  | delete workspace lives =>
    have keeps : ∀ w, (v.mark workspace .deleted).status w = .absent ↔ v.status w = .absent := by
      intro w
      by_cases e : w = workspace <;> simp [mark_status, e, lives]
    exact ⟨fun w hw => h.owned w (mt (keeps w).2 hw), h.retired,
      fun u w hw => h.unpeopled u w ((keeps w).1 hw)⟩

end Roll

end Service

/-! ## §3 What calls do to the roll -/

open Service

namespace Store.State

/-- One saved row gives one workspace another status. -/
theorem roll_put_workspace (s : State) (w : Workspace) :
    (s.put (.workspace w)).roll =
      s.roll.mark w.id (if w.isActive then .active else .deleted) := by
  refine Roll.ext (funext fun id => ?_) rfl rfl
  rw [Roll.mark_status]
  split
  · rename_i e
    have : (s.put (.workspace w)).workspaces.find? id = some w.saved :=
      e ▸ Table.find?_insert_self s.workspaces w.saved
    simp only [roll, status, this]
    rfl
  · rename_i e
    have : (s.put (.workspace w)).workspaces.find? id = s.workspaces.find? id :=
      Table.find?_insert_of_ne e
    simp [roll, status, this]

/-- A saved account changes nothing about workspaces and members. -/
theorem step_put_user (s : State) (u : User) : s.roll.Step (s.put (.user u)).roll :=
  .same rfl rfl

end Store.State

namespace Service

variable {s : State}

theorem step_change (h : s.Sound) (supply : Supply) (workspace : Uuid) (actor : Identity)
    (wish : Change) :
    s.roll.Step ((wish.action workspace actor).run (idle s supply)).2.published.roll := by
  rcases change_cases h supply workspace actor wish with ⟨f, -, run⟩ | ⟨v, decided, settled⟩
  · rw [run]
    exact .same rfl rfl
  · obtain ⟨lives, allowed⟩ := Roll.allowed_of_decide decided
    rcases settled with ⟨s', later, run, -, -, hv⟩ | ⟨-, later, run⟩
    · rw [run]
      show s.roll.Step s'.roll
      exact hv ▸ .move workspace actor.user lives allowed.move
    · rw [run]
      exact .same rfl rfl

/-- A workspace that is founded is none that is stored. -/
theorem absent_of_founded (h : s.Sound) {supply : Supply} {name : String} {type : WorkspaceType}
    (hw : s.Admits (.workspace (founded supply name type))) :
    s.roll.status (founded supply name type).id = .absent := by
  have none := Store.Table.find?_eq_none.2 ((Store.Table.carries_zero h.workspaceVersions).1 hw)
  show s.status (founded supply name type).id = .absent
  rw [State.status, none]

/-- Once it is founded, its one member is its owner. -/
theorem roll_founded (h : s.Sound) {supply : Supply} {name : String} {type : WorkspaceType}
    {user : Uuid} (hw : s.Admits (.workspace (founded supply name type)))
    (hm : (s.put (.workspace (founded supply name type))).Admits
      (.membership (founder supply user))) :
    ((s.put (.workspace (founded supply name type))).put (.membership (founder supply user))).roll =
      (s.roll.mark (founded supply name type).id .active).set user (founded supply name type).id
        (.active .owner) := by
  have fresh := (Store.Table.carries_zero (h.put_workspace hw).membershipVersions).1 hm.1
  have e := (h.put_workspace hw).roll_put_membership hm fun n hn hid => absurd hid (fresh n hn)
  rwa [State.roll_put_workspace] at e

theorem step_create (h : s.Sound) (supply : Supply) (name : String) (type : WorkspaceType)
    (owner : Identity) :
    s.roll.Step ((Workspaces.create name type owner).run (idle s supply)).2.published.roll := by
  rcases create_cases s supply name type owner with ⟨later, run⟩ | ⟨hw, hm, later, run⟩
  · rw [run]
    exact .same rfl rfl
  · rw [run]
    exact roll_founded h hw hm ▸ .found _ owner.user (absent_of_founded h hw)

theorem status_of_authorize {workspace : Uuid} {actor : Identity} {p : Permission}
    {text : String} {w : Workspace} (h : s.authorize workspace actor p text = .ok w) :
    s.roll.status w.id = .active ∧ w.isActive := by
  have found := State.authorize_eq_ok h
  obtain ⟨-, hid, active⟩ := mem_of_workspace? found
  exact ⟨hid ▸ State.status_eq_active.2 ⟨w, found⟩, active⟩

/-- Whatever is called, and however it ends, the roll makes at most one step. -/
theorem step_carry (h : s.Sound) (o : Office) (c : Command) (supply : Supply) :
    s.roll.Step (o.carry c (idle s supply)).2.published.roll := by
  cases c with
  | signup name email password =>
    rcases Credentials.signup_cases o.issuer o.hasher s supply name email password with
      ⟨f, later, run⟩ | ⟨text, -, run⟩
    · rw [Office.carry, Command.action, run]
      exact .same rfl rfl
    · rw [Office.carry, Command.action, run]
      exact State.step_put_user s _
  | login email password =>
    rw [Office.carry, Command.action, Credentials.run_login h]
    cases s.opened? o.hasher email password with
    | none => exact .same rfl rfl
    | some u => exact State.step_put_user s _
  | refresh token =>
    rw [Office.carry, Command.action, Credentials.run_refresh h]
    cases s.bearer? o.issuer supply.readClock.1 token with
    | none => exact .same rfl rfl
    | some u => exact State.step_put_user s _
  | create name type owner => exact step_create h supply name type owner
  | update workspace actor name type =>
    rw [Office.carry, Command.action, run_update]
    cases e : s.authorize workspace actor .updateWorkspace
        "Only owner or admin can update the workspace" with
    | error f => exact .same rfl rfl
    | ok w =>
      obtain ⟨lives, active⟩ := status_of_authorize e
      let x : Workspace := { w with name := Text.trim name, type }
      have active : x.isActive := active
      show s.roll.Step (s.put (.workspace x)).roll
      rw [State.roll_put_workspace, if_pos active, Roll.mark_same lives]
      exact .same rfl rfl
  | delete workspace actor =>
    rw [Office.carry, Command.action, run_delete]
    cases e : s.authorize workspace actor .deleteWorkspace
        "Only the owner can delete the workspace" with
    | error f => exact .same rfl rfl
    | ok w =>
      obtain ⟨lives, -⟩ := status_of_authorize e
      show s.roll.Step (s.put (.workspace (w.tombstone supply.readClock.1))).roll
      rw [State.roll_put_workspace]
      exact .delete w.id lives
  | change workspace actor wish => exact step_change h supply workspace actor wish
  | details workspace actor =>
    rw [Office.carry, Command.action, run_details]
    cases (s.detailsFor actor.user (some workspace)).head? <;> exact .same rfl rfl
  | list actor => exact .same rfl rfl
  | check workspace actor permission =>
    rw [Office.carry, Command.action, run_checkPermission]
    exact .same rfl rfl
  | count workspace => exact .same rfl rfl

end Service

/-! ## §4 One owner in the tables -/

namespace Store.State

/-- Every stored workspace has exactly one active OWNER row; no tombstone keeps that rank. -/
structure Owned (s : State) : Prop where
  one : ∀ w ∈ s.workspaces.rows, ∃ m ∈ s.memberships.rows,
    (m.workspace = w.id ∧ m.isActiveOwner) ∧
      ∀ n ∈ s.memberships.rows, n.workspace = w.id → n.isActiveOwner → n = m
  retired : ∀ m ∈ s.memberships.rows, m.isActive = false → m.role ≠ .owner

theorem Sound.standing_of_mem {s : State} (h : s.Sound) {m : Membership}
    (hm : m ∈ s.memberships.rows) : s.roll.standing m.user m.workspace = m.standing := by
  have := h.pair?_eq_some.2 ⟨hm, rfl, rfl⟩
  simp [roll, this]

/-- Whoever has a standing has a row that gives it. -/
theorem Sound.mem_of_standing {s : State} (h : s.Sound) {user workspace : Uuid} {x : Standing}
    (hx : s.roll.standing user workspace = x) (ne : x ≠ .none) :
    ∃ m ∈ s.memberships.rows, m.user = user ∧ m.workspace = workspace ∧ m.standing = x := by
  have e : s.roll.standing user workspace =
      ((s.pair? user workspace).map Membership.standing).getD .none := rfl
  cases hp : s.pair? user workspace with
  | none =>
    rw [e, hp] at hx
    exact absurd hx.symm ne
  | some m =>
    obtain ⟨hm, hu, hw⟩ := h.pair?_eq_some.1 hp
    rw [e, hp] at hx
    exact ⟨m, hm, hu, hw, hx⟩

/-- What the roll says of owners, the rows do. -/
theorem Sound.owned {s : State} (h : s.Sound) (g : s.roll.Governed) : s.Owned where
  one w hw := by
    have stored : s.roll.status w.id ≠ .absent := by
      have : s.workspaces.find? w.id = some w := Table.find?_eq_some.2 ⟨hw, rfl⟩
      show s.status w.id ≠ .absent
      rw [status, this]
      cases h : w.isActive <;> simp [h]
    obtain ⟨u, hu⟩ := g.owned w.id stored
    obtain ⟨m, hm, -, hmw, hs⟩ := h.mem_of_standing ((hu u).2 rfl) nofun
    have owns : m.isActiveOwner := by
      unfold Membership.standing at hs
      split at hs
      · exact Membership.isActiveOwner_iff.2 ⟨‹_›, Standing.active.inj hs⟩
      · cases hs
    exact ⟨m, hm, ⟨hmw, owns⟩, fun n hn hnw o => h.owners n hn m hm (hnw.trans hmw.symm) o owns⟩
  retired m hm gone e := by
    apply g.retired m.user m.workspace
    rw [h.standing_of_mem hm, Membership.standing, gone, e]
    rfl

end Store.State

namespace Service

/--
After any calls, every workspace has exactly one active owner and nobody who
left is one; and at no point of a further call does its working copy have two
active owners of one workspace.
-/
theorem single_owner (o : Office) (supply : Supply) (cs : List Command) :
    let w := o.after cs (idle .empty supply)
    w.published.Owned ∧
      ∀ c : Command, ∀ v ∈ (ExceptT.run (c.action o)).passes w, ∀ t ∈ v.working,
        ∀ m ∈ t.memberships.rows, ∀ n ∈ t.memberships.rows,
          m.workspace = n.workspace → m.isActiveOwner → n.isActiveOwner → m = n := by
  obtain ⟨sound, governed⟩ := o.after_keeps (P := fun s => s.Sound ∧ s.roll.Governed)
    (fun c s supply h => ⟨(c.action o).keeps (fun _ _ h a => h.put a) supply h.1,
      h.2.step (step_carry h.1 o c supply)⟩)
    cs supply ⟨State.Sound.empty, ⟨fun w hw => absurd rfl hw, nofun, fun u w hw => rfl⟩⟩
  intro w
  refine ⟨sound.owned governed, fun c v hv t ht => ?_⟩
  obtain ⟨s, later, hw, -⟩ := o.after_idle cs .empty supply
  have holds : w.Holds State.Sound := ⟨sound, fun t ht => by
    have : w = idle s later := hw
    rw [this] at ht
    cases ht⟩
  exact ((holds.passes (fun _ _ h a => h.put a) _ v hv).2 t ht).owners

end Service

end Roster
