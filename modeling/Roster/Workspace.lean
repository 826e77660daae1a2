/-
Roster.Workspace — workspaces and what their members see of them.

A workspace is deleted by a tombstone: its row stays and carries the time of
deletion.
-/
import Roster.Moment
import Roster.Role
import Roster.Uuid

namespace Roster

/-- What a workspace is for. -/
inductive WorkspaceType where
  | personal
  | team
  | organization
  deriving DecidableEq, Repr, Inhabited

namespace WorkspaceType

def name : WorkspaceType → String
  | personal => "PERSONAL"
  | team => "TEAM"
  | organization => "ORGANIZATION"

/-- The types in the order in which messages list them. -/
def all : List WorkspaceType := [personal, team, organization]

/-- The type with the given written name; letter case matters. -/
def ofName? (text : String) : Option WorkspaceType := all.find? fun t => t.name == text

@[simp]
theorem ofName?_name (t : WorkspaceType) : ofName? t.name = some t := by cases t <;> decide

end WorkspaceType

/-- A workspace. -/
structure Workspace where
  id : Uuid
  name : String
  type : WorkspaceType
  created : Moment
  /-- The time of deletion, if it has been deleted. -/
  deleted : Option Moment
  /-- How often the workspace has been saved. -/
  version : Int
  deriving DecidableEq

namespace Workspace

/-- A workspace that has not been saved yet. -/
def fresh (id : Uuid) (created : Moment) (name : String) (type : WorkspaceType) : Workspace :=
  { id, name, type, created, deleted := none, version := 0 }

def isActive (w : Workspace) : Bool := w.deleted.isNone

/-- Marks the workspace as deleted. -/
def tombstone (w : Workspace) (now : Moment) : Workspace := { w with deleted := some now }

end Workspace

/-- The owner as members see them. -/
structure OwnerInfo where
  user : Uuid
  name : String
  email : String
  deriving DecidableEq

/-- A workspace as one of its active members sees it. -/
structure WorkspaceDetails where
  workspace : Uuid
  name : String
  type : WorkspaceType
  owner : OwnerInfo
  memberCount : Nat
  callerRole : Role
  deriving DecidableEq

end Roster
