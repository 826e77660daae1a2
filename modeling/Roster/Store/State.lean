/-
Roster.Store.State — the three tables and the rules that each write obeys.

A save succeeds only if the row still carries the version that the given entity
was read with, or if neither exists; it writes the entity with the version one
higher. Two users never share an address in lower case, a pair of user and
workspace never has two rows, and a workspace never has two active OWNER rows.
-/
import Roster.Membership
import Roster.Store.Error
import Roster.Store.Table
import Roster.User
import Roster.Workspace

namespace Roster.Store

instance : Identified User := ⟨User.id⟩
instance : Identified Workspace := ⟨Workspace.id⟩
instance : Identified Membership := ⟨Membership.id⟩

/-- Whether a lookup sees rows with a tombstone. -/
inductive Filter where
  | active
  | all
  deriving DecidableEq, Repr

namespace Filter

/-- Whether a row is seen. -/
def admits (f : Filter) (deleted : Bool) : Bool :=
  match f with
  | active => !deleted
  | all => true

end Filter

/-- The stored tables. -/
structure State where
  users : Table User
  workspaces : Table Workspace
  memberships : Table Membership

namespace State

def empty : State := ⟨.empty, .empty, .empty⟩

instance : Inhabited State := ⟨empty⟩

/-! ## Lookups -/

/-- The user with an address, compared in lower case. -/
def userByEmail? (s : State) (email : String) : Option User :=
  s.users.rows.find? fun u => u.emailKey = Text.lowercase email

def user? (s : State) (id : Uuid) : Option User := s.users.find? id

def workspace? (s : State) (id : Uuid) (filter : Filter) : Option Workspace :=
  (s.workspaces.find? id).filter fun w => filter.admits !w.isActive

/-- The row of a pair of user and workspace. -/
def pair? (s : State) (user workspace : Uuid) : Option Membership :=
  s.memberships.rows.find? fun m => m.user = user ∧ m.workspace = workspace

def membership? (s : State) (user workspace : Uuid) (filter : Filter) : Option Membership :=
  (s.pair? user workspace).filter fun m => filter.admits !m.isActive

/-- The active rows of a workspace. -/
def activeMembers (s : State) (workspace : Uuid) : List Membership :=
  s.memberships.rows.filter fun m => m.workspace = workspace ∧ m.isActive

def memberCount (s : State) (workspace : Uuid) : Nat := (s.activeMembers workspace).length

/-! ## Views of workspaces -/

/-- The user who owns a workspace, if they are stored. -/
def owner? (s : State) (workspace : Uuid) : Option User :=
  ((s.activeMembers workspace).find? fun m => m.role.isOwner).bind fun m => s.user? m.user

/-- The workspace of an active membership with its time of creation, as its member sees it. -/
def details? (s : State) (caller : Membership) : Option (Moment × WorkspaceDetails) := do
  let w ← s.workspace? caller.workspace .active
  let owner ← s.owner? w.id
  return (w.created,
    { workspace := w.id
      name := w.name
      type := w.type
      owner := ⟨owner.id, owner.name, owner.email⟩
      memberCount := s.memberCount w.id
      callerRole := caller.role })

/-- The active memberships of a user, in one workspace or in all. -/
def callerRows (s : State) (user : Uuid) (only : Option Uuid) : List Membership :=
  s.memberships.rows.filter fun m =>
    m.user = user ∧ m.isActive ∧ only.all (fun w => m.workspace = w)

/-- The active workspaces in which a user is an active member, oldest first. -/
def detailsFor (s : State) (user : Uuid) (only : Option Uuid) : List WorkspaceDetails :=
  (((s.callerRows user only).filterMap s.details?).mergeSort
    fun a b => a.1.nanos ≤ b.1.nanos).map Prod.snd

/-! ## Writes -/

/-- The version that a stored row carries; an absent row counts as version zero. -/
def checkVersion (what : String) (stored : Option Int) (expected : Int) : Except Error Unit :=
  if stored.getD 0 = expected then .ok ()
  else .error (.conflict (what ++ " changed since it was read"))

/-- Whether another user has the address of `u`. -/
def emailTaken (s : State) (u : User) : Bool :=
  s.users.rows.any fun v => v.id ≠ u.id ∧ v.emailKey = u.emailKey

/-- Writes a user; the answer is the user with the new version. -/
def saveUser (s : State) (u : User) : Except Error (User × State) := do
  checkVersion "user" ((s.user? u.id).map User.version) u.version
  if s.emailTaken u then throw .emailTaken
  let u := { u with version := u.version + 1 }
  return (u, { s with users := s.users.insert u })

def saveWorkspace (s : State) (w : Workspace) : Except Error (Workspace × State) := do
  checkVersion "workspace" ((s.workspaces.find? w.id).map Workspace.version) w.version
  let w := { w with version := w.version + 1 }
  return (w, { s with workspaces := s.workspaces.insert w })

/-- The rule that a membership breaks against another row of its workspace. -/
def clash? (m other : Membership) : Option Error :=
  if other.user = m.user then some (.conflict "workspace_members_user_workspace_key")
  else if m.isActiveOwner && other.isActiveOwner then
    some (.conflict "workspace_members_single_owner_idx")
  else none

/-- The other rows of the workspace of a membership. -/
def neighbours (s : State) (m : Membership) : List Membership :=
  s.memberships.rows.filter fun other => other.id ≠ m.id ∧ other.workspace = m.workspace

def saveMembership (s : State) (m : Membership) : Except Error (Membership × State) := do
  checkVersion "membership" ((s.memberships.find? m.id).map Membership.version) m.version
  match (s.neighbours m).findSome? (clash? m) with
  | some e => throw e
  | none =>
    let m := { m with version := m.version + 1 }
    return (m, { s with memberships := s.memberships.insert m })

end State

end Roster.Store
