/-
Roster.Proofs.Service.Outcomes — how each call ends, alone and without faults.

The checks that calls share come first (§1). Then each call of the workspaces
(§2) and of the credentials (§3) gets an equation for its answer and for the
surroundings after it; what the calls write is named there, so that proofs about
many calls need not look into the operations again. The calls that only read
leave everything as it was (§4).
-/
import Roster.Proofs.Service.Command
import Roster.Proofs.Token.Issue

namespace Roster.Service

open Store (State Row)
open World (idle amid)
open Members

variable {α : Type} {s t : State} {supply : Supply} {workspace : Uuid} {actor : Identity}

/-! ## §1 Checks -/

theorem run_requireWorkspace_bind (k : Workspace → Action α) :
    (requireWorkspace workspace >>= k).run (amid s t supply) =
      match t.workspace? workspace .active with
      | some w => (k w).run (amid s t supply)
      | none => (.error .workspaceNotFound, idle s supply) := by
  rw [requireWorkspace, bind_assoc, Action.run_findWorkspace_bind, Action.run_orFail_bind]
  cases t.workspace? workspace .active <;> rfl

theorem run_requireActor_bind (k : Membership → Action α) :
    (requireActor workspace actor >>= k).run (amid s t supply) =
      match t.membership? actor.user workspace .active with
      | some m => (k m).run (amid s t supply)
      | none => (.error (.notAMember "You are not a member of this workspace"), idle s supply) := by
  rw [requireActor, bind_assoc, Action.run_findMembership_bind, Action.run_orFail_bind]
  cases t.membership? actor.user workspace .active <;> rfl

theorem run_requireUser_bind (email : String) (k : User → Action α) :
    (requireUser email >>= k).run (amid s t supply) =
      match t.userByEmail? (normalizeEmail email) with
      | some u => (k u).run (amid s t supply)
      | none => (.error .userNotFound, idle s supply) := by
  rw [requireUser, bind_assoc, Action.run_findUserByEmail_bind, Action.run_orFail_bind]
  cases t.userByEmail? (normalizeEmail email) <;> rfl

theorem run_requireTarget_bind (target : User) (k : Membership → Action α) :
    (requireTarget workspace target >>= k).run (amid s t supply) =
      match t.membership? target.id workspace .active with
      | some m => (k m).run (amid s t supply)
      | none =>
        (.error (.notAMember "Target user is not a member of this workspace"), idle s supply) := by
  rw [requireTarget, bind_assoc, Action.run_findMembership_bind, Action.run_orFail_bind]
  cases t.membership? target.id workspace .active <;> rfl

/-- The workspace and the acting member are looked up first. -/
theorem run_enter (k : Workspace → Membership → Action α) :
    (Action.begin >>= fun _ => requireWorkspace workspace >>= fun w =>
      requireActor workspace actor >>= fun m => k w m).run (idle s supply) =
      match s.workspace? workspace .active with
      | none => (.error .workspaceNotFound, idle s supply)
      | some w =>
        match s.membership? actor.user workspace .active with
        | none => (.error (.notAMember "You are not a member of this workspace"), idle s supply)
        | some m => (k w m).run (amid s s supply) := by
  rw [Action.run_begin_bind, run_requireWorkspace_bind]
  cases s.workspace? workspace .active with
  | none => rfl
  | some w =>
    simp only [run_requireActor_bind]
    cases s.membership? actor.user workspace .active <;> rfl

/-! ## §2 Workspaces -/

/-- A row that is stored may be saved again with other contents. -/
theorem admits_workspace {w x : Workspace} (hw : w ∈ s.workspaces.rows) (id : x.id = w.id)
    (version : x.version = w.version) : s.Admits (.workspace x) := by
  show s.workspaces.Carries Workspace.version x.id x.version
  rw [id, version]
  exact Store.Table.carries_of_mem hw Workspace.version

/-- An active workspace that a lookup found. -/
theorem mem_of_workspace? {w : Workspace} (h : s.workspace? workspace .active = some w) :
    w ∈ s.workspaces.rows ∧ w.id = workspace ∧ w.isActive := by
  obtain ⟨hf, active⟩ := Option.filter_eq_some_iff.1 h
  obtain ⟨hr, hid⟩ := Store.Table.find?_eq_some.1 hf
  exact ⟨hr, hid, by simpa [Store.Filter.admits] using active⟩

end Roster.Service

namespace Roster.Store.State

/-- The active workspace, for an active member whose rank permits the action. -/
def authorize (s : State) (workspace : Uuid) (actor : Identity) (p : Permission) (text : String) :
    Except Failure Workspace :=
  match s.workspace? workspace .active with
  | none => .error .workspaceNotFound
  | some w =>
    match s.membership? actor.user workspace .active with
    | none => .error (.notAMember "You are not a member of this workspace")
    | some m => if m.role.permits p then .ok w else .error (.insufficientPermission text)

theorem authorize_eq_ok {s : State} {workspace : Uuid} {actor : Identity} {p : Permission}
    {text : String} {w : Workspace} (h : s.authorize workspace actor p text = .ok w) :
    s.workspace? workspace .active = some w := by
  unfold authorize at h
  split at h
  · cases h
  · split at h
    · cases h
    · split at h
      · cases h
        assumption
      · cases h

end Roster.Store.State

namespace Roster.Service

open Store (State Row)
open World (idle amid)
open Members

variable {α : Type} {s t : State} {supply : Supply} {workspace : Uuid} {actor : Identity}

theorem run_authorize (p : Permission) (text : String) (k : Workspace → Action α) :
    (Action.begin >>= fun _ => requireWorkspace workspace >>= fun w =>
      requireActor workspace actor >>= fun m =>
      requirePermission m p text >>= fun _ => k w).run (idle s supply) =
      match s.authorize workspace actor p text with
      | .error f => (.error f, idle s supply)
      | .ok w => (k w).run (amid s s supply) := by
  rw [run_enter, State.authorize]
  cases s.workspace? workspace .active with
  | none => rfl
  | some w =>
    cases s.membership? actor.user workspace .active with
    | none => rfl
    | some m =>
      simp only [requirePermission, Action.run_require_bind]
      cases m.role.permits p <;> rfl

theorem run_revise {w x : Workspace} (hw : w ∈ s.workspaces.rows) (id : x.id = w.id)
    (version : x.version = w.version) :
    (Action.store (.saveWorkspace x) >>= fun _ => Action.commit).run (amid s s supply) =
      (.ok (), idle (s.put (.workspace x)) supply) := by
  rw [Action.run_saveWorkspace_admitted (admits_workspace hw id version)]
  rfl

theorem run_update (name : String) (type : WorkspaceType) :
    (Workspaces.update workspace actor name type).run (idle s supply) =
      match s.authorize workspace actor .updateWorkspace
          "Only owner or admin can update the workspace" with
      | .error f => (.error f, idle s supply)
      | .ok w =>
        (.ok (), idle (s.put (.workspace { w with name := Text.trim name, type })) supply) := by
  rw [Workspaces.update, run_authorize]
  cases h : s.authorize workspace actor .updateWorkspace
      "Only owner or admin can update the workspace" with
  | error f => rfl
  | ok w =>
    exact run_revise (mem_of_workspace? (State.authorize_eq_ok h)).1 rfl rfl

theorem run_delete :
    (Workspaces.delete workspace actor).run (idle s supply) =
      match s.authorize workspace actor .deleteWorkspace
          "Only the owner can delete the workspace" with
      | .error f => (.error f, idle s supply)
      | .ok w =>
        let now := supply.readClock
        (.ok (), idle (s.put (.workspace (w.tombstone now.1))) now.2) := by
  rw [Workspaces.delete, run_authorize]
  cases h : s.authorize workspace actor .deleteWorkspace
      "Only the owner can delete the workspace" with
  | error f => rfl
  | ok w =>
    show Action.run _ _ = _
    rw [Action.run_draw_bind_amid Program.draws_readClock]
    exact run_revise (mem_of_workspace? (State.authorize_eq_ok h)).1 rfl rfl

/-- The workspace that a creation saves. -/
def founded (supply : Supply) (name : String) (type : WorkspaceType) : Workspace :=
  .fresh supply.drawId.1 supply.drawId.2.readClock.1 (Text.trim name) type

/-- The membership of the owner that a creation saves next. -/
def founder (supply : Supply) (user : Uuid) : Membership :=
  let later := supply.drawId.2.readClock.2
  .fresh later.drawId.1 later.drawId.2.readClock.1 supply.drawId.1 user .owner

/-- A workspace is created with its owner if both rows are admitted, and not at all otherwise. -/
theorem create_outcome (s : State) (supply : Supply) (name : String) (type : WorkspaceType)
    (owner : Identity) :
    let w := founded supply name type
    let m := founder supply owner.user
    let outcome := (Workspaces.create name type owner).run (idle s supply)
    (¬(s.Admits (.workspace w) ∧ (s.put (.workspace w)).Admits (.membership m)) ∧
      ∃ later, outcome = (.error .conflict, idle s later)) ∨
    s.Admits (.workspace w) ∧ (s.put (.workspace w)).Admits (.membership m) ∧
      ∃ later, outcome = (.ok w.id, idle ((s.put (.workspace w)).put (.membership m)) later) := by
  intro w m outcome
  let k : Workspace → Action Uuid := fun x =>
    Action.perform Program.drawId >>= fun id => Action.perform Program.readClock >>= fun now =>
      Action.store (.saveMembership (.fresh id now x.id owner.user .owner)) >>= fun _ =>
        Action.commit >>= fun _ => pure x.id
  let later := supply.drawId.2.readClock.2
  have first : outcome = (Action.store (.saveWorkspace w) >>= k).run (amid s s later) := by
    show Action.run (Workspaces.create name type owner) _ = _
    rw [Workspaces.create, Action.run_begin_bind, Action.run_draw_bind_amid Program.draws_drawId,
      Action.run_draw_bind_amid Program.draws_readClock]
    rfl
  have second (t : State) : (k w.saved).run (amid s t later) =
      (Action.store (.saveMembership m) >>= fun _ => Action.commit >>= fun _ => pure w.id).run
        (amid s t later.drawId.2.readClock.2) := by
    show Action.run (_ >>= _) _ = _
    rw [Action.run_draw_bind_amid Program.draws_drawId,
      Action.run_draw_bind_amid Program.draws_readClock]
    rfl
  by_cases hw : s.Admits (.workspace w)
  · rw [first, Action.run_saveWorkspace_admitted hw, second]
    by_cases hm : (s.put (.workspace w)).Admits (.membership m)
    · rw [Action.run_saveMembership_admitted hm]
      exact .inr ⟨hw, hm, _, rfl⟩
    · rw [Action.run_saveMembership_refused hm]
      exact .inl ⟨fun h => hm h.2, _, rfl⟩
  · rw [first, Action.run_saveWorkspace_refused hw]
    exact .inl ⟨fun h => hw h.1, _, rfl⟩

/-- A workspace is created with its owner, or not at all. -/
theorem create_cases (s : State) (supply : Supply) (name : String) (type : WorkspaceType)
    (owner : Identity) :
    let w := founded supply name type
    let m := founder supply owner.user
    let outcome := (Workspaces.create name type owner).run (idle s supply)
    (∃ later, outcome = (.error .conflict, idle s later)) ∨
    s.Admits (.workspace w) ∧ (s.put (.workspace w)).Admits (.membership m) ∧
      ∃ later, outcome = (.ok w.id, idle ((s.put (.workspace w)).put (.membership m)) later) :=
  (create_outcome s supply name type owner).imp_left And.right

end Roster.Service

/-! ## §3 Credentials -/

namespace Roster

open Token (Issuer Pair)

/-- The account once the refresh token is the one that is honoured. -/
def User.honouring (u : User) (token : String) : User :=
  { u with refreshFingerprint := some (Token.fingerprint token) }

/-- The account that a refresh token is good for. -/
def Store.State.bearer? (s : Store.State) (issuer : Issuer) (now : Moment) (token : String) :
    Option User :=
  (issuer.validate now token .refresh).bind fun c =>
    (s.user? c.sub).filter fun u => u.refreshFingerprint.any (Token.fingerprintMatches token)

/-- The account that an address and a password open. -/
def Store.State.opened? (s : Store.State) (hasher : Password.Hasher) (email password : String) :
    Option User :=
  (s.userByEmail? (normalizeEmail email)).filter fun u => hasher.verify password u.passwordHash

namespace Service.Credentials

open Store (State Row)
open World (idle amid)

variable {s : State} {supply : Supply} {issuer : Issuer} {hasher : Password.Hasher}

theorem admits_honouring (h : s.Sound) {u : User} (hu : u ∈ s.users.rows) (token : String) :
    s.Admits (.user (u.honouring token)) := by
  refine ⟨Store.Table.carries_of_mem hu User.version, fun v hv hid same => hid ?_⟩
  rw [h.emails v hv u hu same]
  rfl

theorem run_renew (h : s.Sound) {u : User} (hu : u ∈ s.users.rows) :
    (renew issuer u).run (amid s s supply) =
      (.ok (issuer.drawPair u supply).1,
        idle (s.put (.user (u.honouring (issuer.drawPair u supply).1.refresh)))
          (issuer.drawPair u supply).2) := by
  have admits := admits_honouring h hu (issuer.drawPair u supply).1.refresh
  have e := State.saveUser_of_admits admits
  rw [renew, Action.run_draw_bind_amid (issuer.draws_issuePair u), Action.run_saveUser_bind]
  rw [User.honouring] at e
  rw [e]
  rfl

theorem run_login (h : s.Sound) (email password : String) :
    (login issuer hasher email password).run (idle s supply) =
      match s.opened? hasher email password with
      | none => (.error .invalidCredential, idle s supply)
      | some u =>
        (.ok (issuer.drawPair u supply).1,
          idle (s.put (.user (u.honouring (issuer.drawPair u supply).1.refresh)))
            (issuer.drawPair u supply).2) := by
  rw [login, Action.run_begin_bind, Action.run_findUserByEmail_bind, Action.run_orFail_bind,
    State.opened?]
  cases hf : s.userByEmail? (normalizeEmail email) with
  | none => rfl
  | some u =>
    show Action.run _ _ = _
    rw [Action.run_require_bind, Option.filter_some]
    cases hasher.verify password u.passwordHash with
    | false => rfl
    | true => exact run_renew h (List.mem_of_find?_eq_some hf)

theorem run_refresh (h : s.Sound) (token : String) :
    (refresh issuer token).run (idle s supply) =
      match s.bearer? issuer supply.readClock.1 token with
      | none => (.error .invalidToken, idle s supply.readClock.2)
      | some u =>
        (.ok (issuer.drawPair u supply.readClock.2).1,
          idle (s.put (.user (u.honouring (issuer.drawPair u supply.readClock.2).1.refresh)))
            (issuer.drawPair u supply.readClock.2).2) := by
  rw [refresh, Action.run_draw_bind_idle Program.draws_readClock, Action.run_orFail_bind,
    State.bearer?]
  cases issuer.validate supply.readClock.1 token .refresh with
  | none => rfl
  | some c =>
    show Action.run _ _ = _
    rw [Action.run_begin_bind, Action.run_findUser_bind, Action.run_orFail_bind, Option.bind_some]
    cases hf : s.user? c.sub with
    | none => rfl
    | some u =>
      show Action.run _ _ = _
      rw [Action.run_require_bind, Option.filter_some]
      cases u.refreshFingerprint.any (Token.fingerprintMatches token) with
      | false => rfl
      | true => exact run_renew h (Store.Table.find?_eq_some.1 hf).1

/-- The account that signing up saves, with the given stored hash. -/
def opening (supply : Supply) (name email passwordHash : String) : User :=
  .fresh supply.drawId.1 supply.drawId.2.readClock.1 (Text.trim name) (normalizeEmail email)
    passwordHash

theorem run_signup (name email password : String) :
    (signup issuer hasher name email password).run (idle s supply) =
      match hasher.hash supply.drawSalt.1 password with
      | .error detail => (.error (.internal detail), idle s supply.drawSalt.2)
      | .ok text =>
        let later := supply.drawSalt.2.drawId.2.readClock.2
        match s.userByEmail? (normalizeEmail email) with
        | some _ => (.error .duplicateIdentity, idle s supply.drawSalt.2)
        | none =>
          match s.saveUser (opening supply.drawSalt.2 name email text) with
          | .error e => (.error (Failure.ofStore e), idle s later)
          | .ok (u, t) =>
            (.ok (issuer.drawPair u later).1, idle t (issuer.drawPair u later).2) := by
  rw [signup, hashPassword, bind_assoc, Action.run_draw_bind_idle Program.draws_drawSalt]
  cases hasher.hash supply.drawSalt.1 password with
  | error detail => rfl
  | ok text =>
    show Action.run (pure text >>= _) _ = _
    rw [pure_bind, Action.run_begin_bind, Action.run_findUserByEmail_bind,
      Action.run_require_bind]
    cases s.userByEmail? (normalizeEmail email) with
    | some u => rfl
    | none =>
      rw [if_pos Option.isNone_none, Action.run_draw_bind_amid Program.draws_drawId,
        Action.run_draw_bind_amid Program.draws_readClock, Action.run_saveUser_bind]
      dsimp only [opening]
      split
      · rename_i e
        rw [e]
        rfl
      · rename_i e
        rw [e]

/-- Signing up opens one account, whose tokens are not recorded, or changes nothing. -/
theorem signup_cases (issuer : Issuer) (hasher : Password.Hasher) (s : State) (supply : Supply)
    (name email password : String) :
    let outcome := (signup issuer hasher name email password).run (idle s supply)
    let later := supply.drawSalt.2.drawId.2.readClock.2
    (∃ f later, outcome = (.error f, idle s later)) ∨
    ∃ text, let u := opening supply.drawSalt.2 name email text
      s.Admits (.user u) ∧ outcome = (.ok (issuer.drawPair u.saved later).1,
        idle (s.put (.user u)) (issuer.drawPair u.saved later).2) := by
  intro outcome later
  have run : outcome = _ := run_signup name email password
  rw [run]
  cases hasher.hash supply.drawSalt.1 password with
  | error detail => exact .inl ⟨_, _, rfl⟩
  | ok text =>
    dsimp only
    cases s.userByEmail? (normalizeEmail email) with
    | some u => exact .inl ⟨_, _, rfl⟩
    | none =>
      dsimp only
      cases hs : s.saveUser (opening supply.drawSalt.2 name email text) with
      | error e => exact .inl ⟨_, _, rfl⟩
      | ok x =>
        obtain ⟨admits, hu, ht⟩ := State.saveUser_eq_ok.1 hs
        refine .inr ⟨text, admits, ?_⟩
        dsimp only
        rw [hu, ht]

end Service.Credentials

/-! ## §4 Calls that only read -/

namespace Service

open World (idle)

variable {s : Store.State} {supply : Supply} {workspace : Uuid} {actor : Identity}

theorem run_details :
    (Workspaces.details workspace actor).run (idle s supply) =
      match (s.detailsFor actor.user (some workspace)).head? with
      | some d => (.ok d, idle s supply)
      | none => (.error (.notAMember "You are not a member of this workspace"), idle s supply) := by
  show Action.run (Action.orFail _ (s.detailsFor actor.user (some workspace)).head?)
    (World.amid s s supply) = _
  cases (s.detailsFor actor.user (some workspace)).head? <;> rfl

theorem run_list :
    (Workspaces.list actor).run (idle s supply) =
      (.ok (s.detailsFor actor.user none), idle s supply) := rfl

theorem run_count :
    (Members.count workspace).run (idle s supply) =
      (.ok (s.memberCount workspace), idle s supply) := rfl

theorem run_checkPermission (p : Permission) :
    (Members.checkPermission workspace actor p).run (idle s supply) =
      (.ok ((s.workspace? workspace .active).isSome &&
        (s.membership? actor.user workspace .active).any fun m => m.role.permits p),
        idle s supply) := by
  rw [Members.checkPermission, Action.run_begin_bind, Action.run_findWorkspace_bind]
  cases s.workspace? workspace .active <;> rfl

end Service

end Roster
