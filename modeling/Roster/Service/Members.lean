/-
Roster.Service.Members — who may join, leave and change rank in a workspace.

For each pair of user and workspace a membership goes from nothing to active,
from active to a tombstone and back, and is never dropped. Each operation is one
unit of work: the actor's rank, the target's standing and all writes are
published together or not at all. The checks come in a fixed order: the
workspace, the actor's membership, the actor's rank, the target's account, the
target's membership.
-/
import Roster.Failure

namespace Roster.Service.Members

/-- The active workspace. -/
def requireWorkspace (workspace : Uuid) : Action Workspace := do
  let found ← Action.store (.findWorkspace workspace .active)
  Action.orFail .workspaceNotFound found

/-- The actor's active membership. -/
def requireActor (workspace : Uuid) (actor : Identity) : Action Membership := do
  let found ← Action.store (.findMembership actor.user workspace .active)
  Action.orFail (.notAMember "You are not a member of this workspace") found

/-- The user with an address. -/
def requireUser (email : String) : Action User := do
  let found ← Action.store (.findUserByEmail (normalizeEmail email))
  Action.orFail .userNotFound found

/-- The target's active membership. -/
def requireTarget (workspace : Uuid) (target : User) : Action Membership := do
  let found ← Action.store (.findMembership target.id workspace .active)
  Action.orFail (.notAMember "Target user is not a member of this workspace") found

/-- Refuses unless the actor's rank permits an action. -/
def requirePermission (m : Membership) (p : Permission) (text : String) : Action Unit :=
  Action.require (m.role.permits p) (.insufficientPermission text)

/-- Only an owner makes another owner. -/
def requireGrant (m : Membership) (role : Role) : Action Unit :=
  Action.require (!role.isOwner || m.role.permits .grantOwnership)
    (.insufficientPermission "Only the owner can grant the OWNER role")

/--
Turns the acting owner into an ADMIN. This is written before the new owner is,
so that the workspace never has two.
-/
def stepDown (actor : Membership) : Action Unit := do
  let _ ← Action.store (.saveMembership { actor with role := .admin })

/-- Steps down if the OWNER rank is about to be given away. -/
def stepDownFor (role : Role) (actor : Membership) : Action Unit :=
  if role.isOwner then stepDown actor else pure ()

/--
Whether the actor may do something; outsiders may do nothing, nor may anyone in
a dead workspace.
-/
def checkPermission (workspace : Uuid) (actor : Identity) (permission : Permission) :
    Action Bool := do
  Action.begin
  match ← Action.store (.findWorkspace workspace .active) with
  | none => return false
  | some _ =>
    let membership ← Action.store (.findMembership actor.user workspace .active)
    return membership.any fun m => m.role.permits permission

/-- The membership that a user gets: their old row revived, or a fresh one. -/
def joining (workspace : Uuid) (target : User) (role : Role) :
    Option Membership → Action Membership
  | some old => do
    let now ← Action.perform Program.readClock
    return old.reactivate role now
  | none => do
    let id ← Action.perform Program.drawId
    let now ← Action.perform Program.readClock
    return Membership.fresh id now workspace target.id role

/-- Adds a user, or brings back one who left. -/
def add (workspace : Uuid) (actor : Identity) (email : String) (role : Role) : Action Unit := do
  Action.begin
  let _ ← requireWorkspace workspace
  let acting ← requireActor workspace actor
  requirePermission acting .manageMembers "Only owner or admin can add members"
  requireGrant acting role
  let target ← requireUser email
  let existing ← Action.store (.findMembership target.id workspace .all)
  Action.require (!existing.any Membership.isActive) .activeMemberConflict
  stepDownFor role acting
  let membership ← joining workspace target role existing
  let _ ← Action.store (.saveMembership membership)
  Action.commit

/-- Removes a member of lower rank. -/
def remove (workspace : Uuid) (actor : Identity) (email : String) : Action Unit := do
  Action.begin
  let _ ← requireWorkspace workspace
  let acting ← requireActor workspace actor
  requirePermission acting .manageMembers "Only owner or admin can remove members"
  let target ← requireUser email
  let membership ← requireTarget workspace target
  Action.require (!membership.role.isOwner)
    (.insufficientPermission "The owner cannot be removed")
  Action.require (acting.role.canRemove membership.role)
    (.insufficientPermission "Admins cannot remove other admins")
  let now ← Action.perform Program.readClock
  let _ ← Action.store (.saveMembership (membership.tombstone now))
  Action.commit

/-- Gives a member another rank. -/
def changeRole (workspace : Uuid) (actor : Identity) (email : String) (role : Role) :
    Action Unit := do
  Action.begin
  let _ ← requireWorkspace workspace
  let acting ← requireActor workspace actor
  requirePermission acting .manageMembers "Only owner or admin can change roles"
  requireGrant acting role
  let target ← requireUser email
  let membership ← requireTarget workspace target
  Action.require (!membership.role.isOwner)
    (.insufficientPermission "The owner's role can only change through an ownership transfer")
  stepDownFor role acting
  let _ ← Action.store (.saveMembership { membership with role })
  Action.commit

/-- Ends the actor's own membership. -/
def leave (workspace : Uuid) (actor : Identity) : Action Unit := do
  Action.begin
  let _ ← requireWorkspace workspace
  let membership ← requireActor workspace actor
  Action.require (!membership.role.isOwner) .ownerCannotLeave
  let now ← Action.perform Program.readClock
  let _ ← Action.store (.saveMembership (membership.tombstone now))
  Action.commit

/-- Makes another member the OWNER and the acting owner an ADMIN. -/
def transferOwnership (workspace : Uuid) (actor : Identity) (email : String) : Action Unit := do
  Action.begin
  let _ ← requireWorkspace workspace
  let acting ← requireActor workspace actor
  requirePermission acting .transferOwnership "Only the owner can transfer ownership"
  let target ← requireUser email
  Action.require (target.id != actor.user)
    (.validationFailed "Cannot transfer ownership to yourself")
  let membership ← requireTarget workspace target
  stepDown acting
  let _ ← Action.store (.saveMembership { membership with role := .owner })
  Action.commit

/-- The number of active members. -/
def count (workspace : Uuid) : Action Nat := do
  Action.begin
  Action.store (.countMembers workspace)

end Roster.Service.Members
