/-
Roster.Membership — the relation between users, workspaces and roles.

There is one row for each pair of user and workspace, ever: leaving or removal
sets a tombstone, and adding the user again revives the same row.
-/
import Roster.Moment
import Roster.Role
import Roster.Uuid

namespace Roster

/-- A user's standing in a workspace. -/
structure Membership where
  id : Uuid
  workspace : Uuid
  user : Uuid
  role : Role
  joined : Moment
  /-- The time of leaving, while the user is not a member. -/
  deleted : Option Moment
  /-- How often the row has been saved. -/
  version : Int
  deriving DecidableEq

namespace Membership

/-- A membership that has not been saved yet. -/
def fresh (id : Uuid) (joined : Moment) (workspace user : Uuid) (role : Role) : Membership :=
  { id, workspace, user, role, joined, deleted := none, version := 0 }

def isActive (m : Membership) : Bool := m.deleted.isNone

/-- Whether the row makes its user the OWNER of its workspace. -/
def isActiveOwner (m : Membership) : Bool := m.isActive && m.role.isOwner

/-- Marks the user as gone. -/
def tombstone (m : Membership) (now : Moment) : Membership := { m with deleted := some now }

/-- Makes the user a member again, with the given role. -/
def reactivate (m : Membership) (role : Role) (now : Moment) : Membership :=
  { m with deleted := none, role, joined := now }

end Membership

end Roster
