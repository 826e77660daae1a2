/-
Roster.Role — the three ranks of a workspace and what each may do.

A rank is ordered by `privilege` for policy checks only; the order of the
constructors means nothing for display. `permits` is the whole policy: viewing
is open to every member, running the workspace needs OWNER or ADMIN, and the
three powers over ownership itself belong to the OWNER alone.
-/
namespace Roster

/-- The rank that a member holds inside a workspace. -/
inductive Role where
  | owner
  | admin
  | member
  deriving DecidableEq, Repr, Inhabited

/-- An action that a workspace rank may or may not allow. -/
inductive Permission where
  | viewWorkspace
  | updateWorkspace
  | deleteWorkspace
  /-- Add, remove or re-rank members below OWNER. -/
  | manageMembers
  /-- Hand the OWNER rank to someone by adding them or changing their rank. -/
  | grantOwnership
  | transferOwnership
  deriving DecidableEq, Repr, Inhabited

namespace Role

/-- The written name of a rank, in answers and in stored rows. -/
def name : Role → String
  | owner => "OWNER"
  | admin => "ADMIN"
  | member => "MEMBER"

/-- The ranks in the order in which messages list them. -/
def all : List Role := [owner, admin, member]

/-- The rank with the given written name; letter case matters. -/
def ofName? (text : String) : Option Role :=
  all.find? fun r => r.name == text

@[simp]
theorem ofName?_name (r : Role) : ofName? r.name = some r := by cases r <;> decide

/-- Height of a rank in the policy order. -/
def privilege : Role → Nat
  | owner => 3
  | admin => 2
  | member => 1

def isOwner : Role → Bool
  | owner => true
  | _ => false

def isOwnerOrAdmin : Role → Bool
  | owner | admin => true
  | member => false

/-- Strictly higher in the policy order. -/
def outranks (r s : Role) : Bool :=
  decide (s.privilege < r.privilege)

/-- The policy table. -/
def permits (r : Role) : Permission → Bool
  | .viewWorkspace => true
  | .updateWorkspace | .manageMembers => r.isOwnerOrAdmin
  | .deleteWorkspace | .grantOwnership | .transferOwnership => r.isOwner

/--
Whether a holder of `r` may remove a member who holds `target`. The OWNER is
never removable; otherwise the actor must manage members and strictly outrank
the target, so an ADMIN removes MEMBERs only.
-/
def canRemove (r target : Role) : Bool :=
  !target.isOwner && r.permits .manageMembers && r.outranks target

theorem isOwner_iff {r : Role} : r.isOwner = true ↔ r = owner := by cases r <;> decide

/-- Of two ranks, removal is possible exactly from above onto a non-owner. -/
theorem canRemove_iff {r target : Role} :
    r.canRemove target = true ↔
      (r = owner ∧ target ≠ owner) ∨ (r = admin ∧ target = member) := by
  cases r <;> cases target <;> decide

end Role

namespace Permission

def name : Permission → String
  | viewWorkspace => "ViewWorkspace"
  | updateWorkspace => "UpdateWorkspace"
  | deleteWorkspace => "DeleteWorkspace"
  | manageMembers => "ManageMembers"
  | grantOwnership => "GrantOwnership"
  | transferOwnership => "TransferOwnership"

def all : List Permission :=
  [viewWorkspace, updateWorkspace, deleteWorkspace, manageMembers, grantOwnership,
    transferOwnership]

/-- The permission with the given written name. -/
def ofName? (text : String) : Option Permission :=
  all.find? fun p => p.name == text

end Permission

end Roster
