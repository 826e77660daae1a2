/-
Roster.Service.Workspaces — making, changing, deleting and viewing workspaces.

Whoever creates a workspace becomes its OWNER in the same unit of work. A
deleted workspace keeps its row and its memberships. To someone who is not an
active member, a workspace looks the same whether or not it exists.
-/
import Roster.Service.Members

namespace Roster.Service.Workspaces

open Members (requireWorkspace requireActor requirePermission)

/-- Creates a workspace whose name is kept without blanks at its ends. -/
def create (name : String) (type : WorkspaceType) (owner : Identity) : Action Uuid := do
  Action.begin
  let id ← Action.perform Program.drawId
  let now ← Action.perform Program.readClock
  let workspace ← Action.store (.saveWorkspace (Workspace.fresh id now (Text.trim name) type))
  let id ← Action.perform Program.drawId
  let now ← Action.perform Program.readClock
  let _ ← Action.store
    (.saveMembership (Membership.fresh id now workspace.id owner.user .owner))
  Action.commit
  return workspace.id

/-- Gives a workspace another name and type. -/
def update (workspace : Uuid) (actor : Identity) (name : String) (type : WorkspaceType) :
    Action Unit := do
  Action.begin
  let found ← requireWorkspace workspace
  let acting ← requireActor workspace actor
  requirePermission acting .updateWorkspace "Only owner or admin can update the workspace"
  let _ ← Action.store (.saveWorkspace { found with name := Text.trim name, type })
  Action.commit

/-- Deletes a workspace; its memberships stay as they are. -/
def delete (workspace : Uuid) (actor : Identity) : Action Unit := do
  Action.begin
  let found ← requireWorkspace workspace
  let acting ← requireActor workspace actor
  requirePermission acting .deleteWorkspace "Only the owner can delete the workspace"
  let now ← Action.perform Program.readClock
  let _ ← Action.store (.saveWorkspace (found.tombstone now))
  Action.commit

/-- A workspace as the actor sees it. -/
def details (workspace : Uuid) (actor : Identity) : Action WorkspaceDetails := do
  Action.begin
  let rows ← Action.store (.listDetails actor.user (some workspace))
  Action.orFail (.notAMember "You are not a member of this workspace") rows.head?

/-- All workspaces of the actor, oldest first. -/
def list (actor : Identity) : Action (List WorkspaceDetails) := do
  Action.begin
  Action.store (.listDetails actor.user none)

end Roster.Service.Workspaces
