/-
Roster.Failure — why an operation is refused.

Every failure is meant for the caller, except an internal one, whose detail is
kept from them. `Action` is an operation that may fail; the store's own errors
turn into failures on the way.
-/
import Roster.World

namespace Roster

/-- A refusal of an operation. -/
inductive Failure where
  | insufficientPermission (text : String)
  | workspaceNotFound
  | notAMember (text : String)
  | userNotFound
  | activeMemberConflict
  | ownerCannotLeave
  | duplicateIdentity
  | invalidToken
  | invalidCredential
  | validationFailed (text : String)
  | conflict
  | internal (detail : String)
  deriving DecidableEq, Repr

namespace Failure

/-- The kind of a failure, as logs name it. -/
def name : Failure → String
  | insufficientPermission _ => "InsufficientPermission"
  | workspaceNotFound => "WorkspaceNotFound"
  | notAMember _ => "NotAMember"
  | userNotFound => "UserNotFound"
  | activeMemberConflict => "ActiveMemberConflict"
  | ownerCannotLeave => "OwnerCannotLeave"
  | duplicateIdentity => "DuplicateIdentity"
  | invalidToken => "InvalidToken"
  | invalidCredential => "InvalidCredential"
  | validationFailed _ => "ValidationFailed"
  | conflict => "Conflict"
  | internal _ => "Internal"

/-- The failures of every kind, those with a text around the given one. -/
def allWith (text : String) : List Failure :=
  [insufficientPermission text, workspaceNotFound, notAMember text, userNotFound,
    activeMemberConflict, ownerCannotLeave, duplicateIdentity, invalidToken, invalidCredential,
    validationFailed text, conflict, internal text]

/-- The failure of a kind. -/
def ofName? (kind text : String) : Option Failure :=
  (allWith text).find? fun f => f.name == kind

def message : Failure → String
  | insufficientPermission text | notAMember text => text
  | workspaceNotFound => "Workspace not found"
  | userNotFound => "User not found"
  | activeMemberConflict => "User is already an active member of this workspace"
  | ownerCannotLeave => "Owner cannot leave the workspace; transfer ownership first"
  | duplicateIdentity => "Email already registered"
  | invalidToken => "Invalid or expired token"
  | invalidCredential => "Invalid email or password"
  | validationFailed text => "Validation failed: " ++ text
  | conflict => "The resource was modified concurrently, please retry"
  | internal detail => "Internal error: " ++ detail

/-- A lost race may be tried again, a duplicate can only be an address, and the rest is internal. -/
def ofStore : Store.Error → Failure
  | .conflict _ => conflict
  | .duplicate _ => duplicateIdentity
  | .backend detail => internal detail

end Failure

/-- An operation that may be refused. -/
abbrev Action := ExceptT Failure Program

namespace Action

variable {α : Type}

/-- Calls the store. -/
def store (c : Call) : Action c.Result :=
  ExceptT.mk ((Program.request (.store c)).bind fun answer =>
    .done (answer.mapError Failure.ofStore))

/-- Runs a part that cannot fail. -/
def perform (p : Program α) : Action α := ExceptT.lift p

/-- The value, or a refusal if there is none. -/
def orFail (failure : Failure) : Option α → Action α
  | some a => pure a
  | none => throw failure

/-- Refuses unless the condition holds. -/
def require (condition : Bool) (failure : Failure) : Action Unit :=
  if condition then pure () else throw failure

/-- Opens a unit of work. -/
def begin : Action Unit := store .begin

/-- Publishes the unit of work. -/
def commit : Action Unit := store .commit

/-- Runs an action alone. -/
def run (a : Action α) (w : World) : Except Failure α × World := Program.run (ExceptT.run a) w

end Action

end Roster
