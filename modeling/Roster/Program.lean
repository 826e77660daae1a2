/-
Roster.Program — operations as data, one request to their surroundings at a time.

An operation asks the store, the clock and the source of chance, and goes on
with each answer. Because it is data, the same operation can be run alone or
step by step among others. A unit of work begins with `begin`; what it writes
is published by `commit` and lost if the operation ends without it.
-/
import Roster.Store.State

namespace Roster

open Store (Filter)

/-- A call on the store. -/
inductive Call where
  | healthCheck
  | begin
  | findUserByEmail (email : String)
  | findUser (id : Uuid)
  | saveUser (user : User)
  | findWorkspace (id : Uuid) (filter : Filter)
  | saveWorkspace (workspace : Workspace)
  | findMembership (user workspace : Uuid) (filter : Filter)
  | saveMembership (membership : Membership)
  | countMembers (workspace : Uuid)
  | listDetails (user : Uuid) (only : Option Uuid)
  | commit

namespace Call

/-- What a call answers when it succeeds; a save answers the entity with its new version. -/
abbrev Result : Call → Type
  | healthCheck | begin | commit => Unit
  | findUserByEmail _ | findUser _ => Option User
  | saveUser _ => User
  | findWorkspace _ _ => Option Workspace
  | saveWorkspace _ => Workspace
  | findMembership _ _ _ => Option Membership
  | saveMembership _ => Membership
  | countMembers _ => Nat
  | listDetails _ _ => List WorkspaceDetails

/-- The name of a call. -/
def name : Call → String
  | healthCheck => "health_check"
  | begin => "begin"
  | findUserByEmail _ => "find_user_by_email"
  | findUser _ => "find_user_by_id"
  | saveUser _ => "save_user"
  | findWorkspace _ _ => "find_workspace_by_id"
  | saveWorkspace _ => "save_workspace"
  | findMembership _ _ _ => "find_membership"
  | saveMembership _ => "save_membership"
  | countMembers _ => "count_active_memberships"
  | listDetails _ _ => "list_workspace_details_for_user"
  | commit => "commit"

end Call

/-- What an operation may ask of its surroundings. -/
inductive Request where
  | store (call : Call)
  | drawId
  | drawSalt
  | readClock

/-- The type of the answer to a request. -/
abbrev Request.Answer : Request → Type
  | store call => Except Store.Error call.Result
  | drawId => Uuid
  | drawSalt => List UInt8
  | readClock => Reading

/-- An operation that ends with an `α`. -/
inductive Program (α : Type) where
  | done (a : α)
  | ask (r : Request) (next : r.Answer → Program α)

namespace Program

variable {α β γ : Type}

/-- Goes on with `f` where `p` ends. -/
def bind (p : Program α) (f : α → Program β) : Program β :=
  match p with
  | done a => f a
  | ask r next => ask r fun answer => (next answer).bind f

instance : Monad Program where
  pure := done
  bind := bind

theorem bind_done (p : Program α) : p.bind done = p := by
  induction p with
  | done a => rfl
  | ask r next ih => simp [bind, ih]

theorem bind_assoc (p : Program α) (f : α → Program β) (g : β → Program γ) :
    (p.bind f).bind g = p.bind fun a => (f a).bind g := by
  induction p with
  | done a => rfl
  | ask r next ih => simp [bind, ih]

instance : LawfulMonad Program :=
  LawfulMonad.mk' Program bind_done (fun _ _ => rfl) bind_assoc

/-- Asks one question. -/
def request (r : Request) : Program r.Answer := ask r done

def drawId : Program Uuid := request .drawId

def drawSalt : Program (List UInt8) := request .drawSalt

def readClock : Program Reading := request .readClock

end Program

end Roster
