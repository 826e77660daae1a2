/-
Roster.Store.Error — the three ways in which the store refuses a call.
-/
namespace Roster.Store

/-- Why a call on the store failed. -/
inductive Error where
  /-- A version check or a uniqueness rule lost a race; the caller may try again. -/
  | conflict (detail : String)
  | duplicate (detail : String)
  | backend (detail : String)
  deriving DecidableEq, Repr

namespace Error

/-- The kind of an error, as logs name it. -/
def name : Error → String
  | conflict _ => "Conflict"
  | duplicate _ => "Duplicate"
  | backend _ => "Backend"

def message : Error → String
  | conflict detail => "Concurrent modification: " ++ detail
  | duplicate detail => "Duplicate record: " ++ detail
  | backend detail => "Storage failure: " ++ detail

end Error

/-- What a database reports when a statement fails. -/
inductive DatabaseFault where
  /-- A uniqueness rule, with its name if the database gives one. -/
  | uniqueViolation (constraint : Option String) (text : String)
  /-- Any other complaint of the database, in its own words. -/
  | other (text : String)
  | rowNotFound
  | poolClosed
  | poolTimedOut
  /-- An address that names no database. -/
  | badAddress (reason : String)
  deriving DecidableEq, Repr

namespace DatabaseFault

def message : DatabaseFault → String
  | uniqueViolation _ text | other text => "error returned from database: " ++ text
  | rowNotFound => "no rows returned by a query that expected to return at least one row"
  | poolClosed => "attempted to acquire a connection on a closed pool"
  | poolTimedOut => "pool timed out while waiting for an open connection"
  | badAddress reason => "error with configuration: " ++ reason

/-- The name of the rule that keeps addresses distinct. -/
def emailKey : String := "users_email_lower_key"

end DatabaseFault

/-- Two users with one address. -/
def Error.emailTaken : Error := .duplicate "email already registered"

/--
A broken uniqueness rule is a conflict that names the rule, except the rule on
addresses, which is a duplicate; all other faults are failures of the backend.
-/
def Error.ofDatabase : DatabaseFault → Error
  | .uniqueViolation constraint _ =>
    let rule := constraint.getD "unknown"
    if rule = DatabaseFault.emailKey then .emailTaken else .conflict rule
  | fault => .backend fault.message

end Roster.Store
