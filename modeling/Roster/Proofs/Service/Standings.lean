/-
Roster.Proofs.Service.Standings — who moves the members of a workspace.

Two kinds of calls bear on who belongs to a workspace, and as what: the one that
founds it (`Founds`), and a change of it that succeeds (`Alters`). The first
makes its caller the owner of a workspace that did not exist (`roll_of_founds`);
the second does what the table of decisions allows (`allowed_of_alters`). All
other calls, and all that fail, leave every standing in the workspace as it was
(`still_carry`). So of each call one of three things is known (`bearing`).
-/
import Mathlib.Data.Set.Insert
import Roster.Proofs.Service.Accounts
import Roster.Proofs.Service.Ownership

namespace Roster

/-! ## §1 Those who belong to a workspace -/

namespace Service.Roll

variable {v : Roll} {workspace actor user : Uuid}

/-- Those who belong to a workspace. -/
def members (v : Roll) (workspace : Uuid) : Set Uuid := {u | (v.standing u workspace).isActive}

theorem mem_members : user ∈ v.members workspace ↔ (v.standing user workspace).isActive := .rfl

theorem members_set_active (role : Role) :
    (v.set user workspace (.active role)).members workspace =
      insert user (v.members workspace) := by
  ext u
  rw [Set.mem_insert_iff, mem_members, mem_members, set_standing]
  by_cases e : u = user <;> simp [e, Standing.isActive]

theorem members_set_gone (role : Role) :
    (v.set user workspace (.gone role)).members workspace = v.members workspace \ {user} := by
  ext u
  rw [Set.mem_sdiff, Set.mem_singleton_iff, mem_members, mem_members, set_standing]
  by_cases e : u = user <;> simp [e, Standing.isActive]

theorem mem_members_of_active {role : Role} (h : v.standing user workspace = .active role) :
    user ∈ v.members workspace := by
  rw [mem_members, h]
  rfl

/-- A member of another rank is the same member. -/
theorem members_set_of_active {role rank : Role} (h : v.standing user workspace = .active rank) :
    (v.set user workspace (.active role)).members workspace = v.members workspace := by
  rw [members_set_active, Set.insert_eq_of_mem (mem_members_of_active h)]

theorem members_yield {role rank : Role} (acts : v.standing actor workspace = .active rank) :
    (v.yield actor workspace role).members workspace = v.members workspace := by
  unfold yield
  split
  · exact members_set_of_active acts
  · rfl

end Service.Roll

namespace Store.State

/-- They are those whose membership is found. -/
theorem mem_members {s : State} {user workspace : Uuid} :
    user ∈ s.roll.members workspace ↔ (s.membership? user workspace .active).isSome := by
  show (((s.pair? user workspace).map Membership.standing).getD .none).isActive ↔ _
  unfold membership?
  cases s.pair? user workspace with
  | none => simp [Service.Standing.isActive]
  | some m => cases h : m.isActive <;> simp [Membership.standing_isActive, Filter.admits, h]

/-- The rank that a user holds in a workspace as an active member of it. -/
def rank? (s : State) (user workspace : Uuid) : Option Role :=
  (s.membership? user workspace .active).map Membership.role

theorem rank?_eq_some {s : State} {user workspace : Uuid} {role : Role} :
    s.rank? user workspace = some role ↔ s.roll.standing user workspace = .active role := by
  show _ ↔ ((s.pair? user workspace).map Membership.standing).getD .none = .active role
  unfold rank? membership?
  cases s.pair? user workspace with
  | none => simp
  | some m => cases h : m.isActive <;> simp [Membership.standing, Filter.admits, Option.filter, h]

end Store.State

namespace Service

open Store (State Row)
open World (idle)

/-! ## §2 Calls that bear on a workspace -/

namespace Office

/-- The call founds the workspace. -/
def Founds (o : Office) (workspace : Uuid) (w : World) : Command → Prop
  | .create name type owner => (o.carry (.create name type owner) w).1 = .ok workspace
  | _ => False

/-- The call is a change of the workspace, and succeeds. -/
def Alters (o : Office) (workspace : Uuid) (w : World) : Command → Prop
  | .change x actor wish => x = workspace ∧ (o.carry (.change x actor wish) w).1 = .ok ()
  | _ => False

end Office

variable {s : State} {o : Office} {supply : Supply} {workspace : Uuid}

theorem roll_of_founds (h : s.Sound) {name : String} {type : WorkspaceType} {owner : Identity}
    (founds : o.Founds workspace (idle s supply) (.create name type owner)) :
    s.roll.status workspace = .absent ∧
      (o.carry (.create name type owner) (idle s supply)).2.published.roll =
        (s.roll.mark workspace .active).set owner.user workspace (.active .owner) := by
  have founds : (o.carry (.create name type owner) (idle s supply)).1 = .ok workspace := founds
  rw [Office.carry, Command.action] at founds ⊢
  rcases create_cases s supply name type owner with ⟨later, run⟩ | ⟨hw, hm, later, run⟩
  · rw [run] at founds
    cases founds
  · rw [run] at founds ⊢
    obtain rfl : (founded supply name type).id = workspace := Except.ok.inj founds
    exact ⟨absent_of_founded h hw, roll_founded h hw hm⟩

theorem allowed_of_alters (h : s.Sound) {x : Uuid} {actor : Identity} {wish : Change}
    (alters : o.Alters workspace (idle s supply) (.change x actor wish)) :
    x = workspace ∧ s.roll.status workspace = .active ∧
      s.roll.Allowed workspace actor.user wish
        (o.carry (.change x actor wish) (idle s supply)).2.published.roll := by
  obtain ⟨rfl, ok⟩ := alters
  rw [Office.carry, Command.action] at ok ⊢
  rcases change_cases h supply x actor wish with ⟨f, -, run⟩ | ⟨v, decided, settled⟩
  · rw [run] at ok
    cases ok
  · rcases settled with ⟨t, later, run, -, -, rfl⟩ | ⟨-, later, run⟩
    · rw [run]
      exact ⟨rfl, Roll.allowed_of_decide decided⟩
    · rw [run] at ok
      cases ok

/-! ## §3 All other calls -/

namespace Roll

variable {v v' : Roll}

/-- Nobody's standing in the workspace differs, nor whether it exists. -/
structure Still (workspace : Uuid) (v v' : Roll) : Prop where
  standing : ∀ user, v'.standing user workspace = v.standing user workspace
  absent : v'.status workspace = .absent ↔ v.status workspace = .absent

theorem Still.refl (workspace : Uuid) (v : Roll) : Still workspace v v := ⟨fun _ => rfl, .rfl⟩

theorem Move.status {x actor : Uuid} (m : Move v x actor v') : v'.status = v.status := by
  cases m <;> rfl

/-- A move stays inside its workspace. -/
theorem Move.still {x actor : Uuid} (m : Move v x actor v') (ne : workspace ≠ x) :
    Still workspace v v' := by
  cases m with
  | assign user y held new gone =>
    exact ⟨fun u => by rw [set_standing, if_neg fun e => ne e.2], .rfl⟩
  | handOver user owns distinct =>
    refine ⟨fun u => ?_, .rfl⟩
    rw [set_standing, if_neg fun e => ne e.2, set_standing, if_neg fun e => ne e.2]

theorem Still.members (k : Still workspace v v') : v'.members workspace = v.members workspace := by
  ext u
  rw [mem_members, mem_members, k.standing]

/-- A workspace that exists may live or be dead. -/
theorem still_mark {x : Uuid} {status : Status} (there : v.status x ≠ .absent)
    (stays : status ≠ .absent) : Still workspace v (v.mark x status) := by
  refine ⟨fun _ => rfl, ?_⟩
  rw [mark_status]
  split
  · rename_i e
    simp [e, there, stays]
  · rfl

end Roll

/-- A workspace that is authorized to be saved again is no new one. -/
theorem still_put_workspace {w x : Workspace} {actor : Identity} {p : Permission} {text : String}
    {id : Uuid} (e : s.authorize id actor p text = .ok w) (same : x.id = w.id) :
    Roll.Still workspace s.roll (s.put (.workspace x)).roll := by
  rw [State.roll_put_workspace, same]
  refine Roll.still_mark ?_ ?_
  · rw [(status_of_authorize e).1]
    decide
  · split <;> decide

/-- Tables that differ in their accounts only give the same standings. -/
theorem still_of_sameApart {t : State} (same : t.SameApartFromUsers s) :
    Roll.Still workspace s.roll t.roll := by
  refine ⟨fun user => ?_, ?_⟩
  · show ((t.pair? user workspace).map Membership.standing).getD .none = _
    rw [State.pair?, same.memberships]
    rfl
  · show t.status workspace = .absent ↔ s.status workspace = .absent
    rw [State.status, State.status, same.workspaces]

/-- A call that neither founds the workspace nor alters it leaves its members as they are. -/
theorem still_carry (h : s.Sound) (o : Office) (c : Command) (supply : Supply)
    (founds : ¬o.Founds workspace (idle s supply) c)
    (alters : ¬o.Alters workspace (idle s supply) c) :
    Roll.Still workspace s.roll (o.carry c (idle s supply)).2.published.roll := by
  cases c with
  | signup _ _ _ | login _ _ | refresh _ =>
    exact still_of_sameApart (Command.sameApart_of_isSignIn o rfl rfl)
  | details _ _ | list _ | check _ _ _ | count _ =>
    rw [Command.published_of_isReading o rfl]
    exact .refl ..
  | create name type owner =>
    rw [Office.Founds, Office.carry, Command.action] at founds
    rw [Office.carry, Command.action]
    rcases create_cases s supply name type owner with ⟨later, run⟩ | ⟨hw, hm, later, run⟩
    · rw [run]
      exact .refl ..
    · rw [run] at founds ⊢
      have ne : workspace ≠ (founded supply name type).id := fun e => founds (e ▸ rfl)
      rw [World.idle_published, roll_founded h hw hm]
      refine ⟨fun user => ?_, ?_⟩
      · rw [Roll.set_standing, if_neg fun e => ne e.2]
        rfl
      · rw [Roll.set_status, Roll.mark_status, if_neg ne]
  | update x actor name type =>
    rw [Office.carry, Command.action, run_update]
    cases e : s.authorize x actor .updateWorkspace
        "Only owner or admin can update the workspace" with
    | error f => exact .refl ..
    | ok w => exact still_put_workspace e rfl
  | delete x actor =>
    rw [Office.carry, Command.action, run_delete]
    cases e : s.authorize x actor .deleteWorkspace
        "Only the owner can delete the workspace" with
    | error f => exact .refl ..
    | ok w => exact still_put_workspace e rfl
  | change x actor wish =>
    cases answer : (o.carry (.change x actor wish) (idle s supply)).1 with
    | error f =>
      rw [Command.published_of_error o answer]
      exact .refl ..
    | ok _ =>
      have ne : workspace ≠ x := fun e => alters ⟨e.symm, answer⟩
      have altered : o.Alters x (idle s supply) (.change x actor wish) := ⟨rfl, answer⟩
      exact (allowed_of_alters h altered).2.2.move.still ne

/-- What a call does to the members of a workspace, with what it took to do it. -/
inductive Bearing (o : Office) (workspace : Uuid) (s : State) (supply : Supply) : Command → Prop
  | founds {name : String} {type : WorkspaceType} {owner : Identity}
    (founds : o.Founds workspace (idle s supply) (.create name type owner))
    (absent : s.roll.status workspace = .absent)
    (roll : (o.carry (.create name type owner) (idle s supply)).2.published.roll =
      (s.roll.mark workspace .active).set owner.user workspace (.active .owner)) :
    Bearing o workspace s supply (.create name type owner)
  | alters {actor : Identity} {wish : Change}
    (alters : o.Alters workspace (idle s supply) (.change workspace actor wish))
    (lives : s.roll.status workspace = .active)
    (allowed : s.roll.Allowed workspace actor.user wish
      (o.carry (.change workspace actor wish) (idle s supply)).2.published.roll) :
    Bearing o workspace s supply (.change workspace actor wish)
  | none {c : Command} (founds : ¬o.Founds workspace (idle s supply) c)
    (alters : ¬o.Alters workspace (idle s supply) c)
    (still : Roll.Still workspace s.roll (o.carry c (idle s supply)).2.published.roll) :
    Bearing o workspace s supply c

theorem bearing (h : s.Sound) (o : Office) (workspace : Uuid) (c : Command) (supply : Supply) :
    Bearing o workspace s supply c := by
  by_cases founds : o.Founds workspace (idle s supply) c
  · cases c with
    | create name type owner =>
      obtain ⟨absent, roll⟩ := roll_of_founds h founds
      exact .founds founds absent roll
    | _ => exact founds.elim
  by_cases alters : o.Alters workspace (idle s supply) c
  · cases c with
    | change x actor wish =>
      obtain ⟨rfl, lives, allowed⟩ := allowed_of_alters h alters
      exact .alters alters lives allowed
    | _ => exact alters.elim
  · exact .none founds alters (still_carry h o c supply founds alters)

/-- A workspace that exists does not cease to, and one that is founded exists. -/
theorem Bearing.stored {c : Command} (b : Bearing o workspace s supply c)
    (known : s.roll.status workspace ≠ .absent ∨ o.Founds workspace (idle s supply) c) :
    (o.carry c (idle s supply)).2.published.roll.status workspace ≠ .absent := by
  cases b with
  | founds founds absent roll =>
    rw [roll, Roll.set_status, Roll.mark_status, if_pos rfl]
    exact nofun
  | alters alters lives allowed =>
    rw [allowed.move.status]
    exact known.resolve_right id
  | none founds alters still => exact mt still.absent.1 (known.resolve_right founds)

end Service

end Roster
