/-
Roster.ApiError — how failed requests are answered.

Each kind of error has its status. The caller is told what is wrong, except for
faults of the server itself, which all have one and the same text.
-/
import Roster.Failure
import Roster.Json.Value

namespace Roster

/-- A failed request. -/
inductive ApiError where
  /-- Fields that break their rules, in writing. -/
  | validation (text : String)
  | badRequest (text : String)
  | notFound (text : String)
  | unauthorized (text : String)
  | forbidden (text : String)
  | conflict (text : String)
  /-- Too many requests, and perhaps the seconds after which to try again. -/
  | tooManyRequests (text : String) (retry : Option Nat)
  | internal (text : String)
  | serviceUnavailable
  | database (text : String)
  | config (text : String)
  deriving DecidableEq, Repr

namespace ApiError

def status : ApiError → Nat
  | validation _ | badRequest _ => 400
  | unauthorized _ => 401
  | forbidden _ => 403
  | notFound _ => 404
  | conflict _ => 409
  | tooManyRequests _ _ => 429
  | internal _ | database _ | config _ => 500
  | serviceUnavailable => 503

/-- The error for a log, with all detail. -/
def message : ApiError → String
  | validation text => "Validation error: " ++ text
  | badRequest text => "Bad request: " ++ text
  | notFound text => "Not found: " ++ text
  | unauthorized text => "Unauthorized: " ++ text
  | forbidden text => "Forbidden: " ++ text
  | conflict text => "Conflict: " ++ text
  | tooManyRequests text _ => "Too many requests: " ++ text
  | internal text => "Internal server error: " ++ text
  | serviceUnavailable => "Service Unavailable"
  | database text => "Database error: " ++ text
  | config text => "Configuration error: " ++ text

/-- The error as the caller sees it. -/
def shown : ApiError → String
  | validation text => "Validation error: " ++ text
  | badRequest text | notFound text | unauthorized text | forbidden text | conflict text => text
  | tooManyRequests text _ => text
  | serviceUnavailable => "Service unavailable"
  | internal _ | database _ | config _ => "An unexpected error occurred"

/-- Seconds after which the caller may try again. -/
def retryAfter : ApiError → Option Nat
  | tooManyRequests _ retry => retry
  | _ => none

/-- The body of the answer. -/
def body (e : ApiError) : Json.Value := .object [("error", .text e.shown)]

/-- The answer to an operation that was refused. -/
def ofFailure (f : Failure) : ApiError :=
  match f with
  | .insufficientPermission _ | .notAMember _ => forbidden f.message
  | .workspaceNotFound | .userNotFound => notFound f.message
  | .activeMemberConflict | .ownerCannotLeave | .validationFailed _ => badRequest f.message
  | .duplicateIdentity | .conflict => conflict f.message
  | .invalidToken | .invalidCredential => unauthorized f.message
  | .internal detail => internal detail

end ApiError

end Roster
