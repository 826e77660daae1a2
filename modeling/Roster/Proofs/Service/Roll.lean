/-
Roster.Proofs.Service.Roll — the roll of members and its table of decisions.

A `Roll` forgets all that the rules on members do not look at: of a workspace it
keeps whether it exists and lives, of a user in a workspace whether they belong
to it and as what, and of an address the account behind it. `Roll.decide` is
the table of decisions on it. Each change is refused by the first check that
fails, or else moves one or two users to another standing.

`State.roll` is the roll of the stored tables, and `roll_put_membership` says
what one saved row does to it.
-/
import Roster.Failure
import Roster.Proofs.Service.Command
import Roster.Proofs.Store.Orders

namespace Roster

open Store (State Row)

namespace Service

/-! ## §1 The roll -/

/-- Whether a workspace exists, and lives. -/
inductive Status where
  | absent
  | deleted
  | active
  deriving DecidableEq, Repr

/-- How a user stands to a workspace; a tombstone keeps the rank that was held last. -/
inductive Standing where
  | none
  | active (role : Role)
  | gone (role : Role)
  deriving DecidableEq, Repr

def Standing.isActive : Standing → Bool
  | active _ => true
  | _ => false

/-- What the rules on members look at. -/
@[ext]
structure Roll where
  status : Uuid → Status
  /-- The standing of a user (first) in a workspace. -/
  standing : Uuid → Uuid → Standing
  /-- The account behind an address in normal form. -/
  account : String → Option Uuid

namespace Roll

/-- The roll with another standing of one user in one workspace. -/
def set (v : Roll) (user workspace : Uuid) (x : Standing) : Roll :=
  { v with standing := fun u w => if u = user ∧ w = workspace then x else v.standing u w }

/-- The roll once `actor` has made room for a new owner, if `role` is that rank. -/
def yield (v : Roll) (actor workspace : Uuid) (role : Role) : Roll :=
  if role = .owner then v.set actor workspace (.active .admin) else v

/-! ## §2 The table -/

/-- One check of the table. -/
def check (condition : Prop) [Decidable condition] (f : Failure) : Except Failure Unit :=
  if condition then .ok () else .error f

/-- The rank of an active member; to anyone else, the given refusal. -/
def rank (v : Roll) (user workspace : Uuid) (refusal : String) : Except Failure Role :=
  match v.standing user workspace with
  | .active role => .ok role
  | _ => .error (.notAMember refusal)

/-- The account behind an address. -/
def target (v : Roll) (email : String) : Except Failure Uuid :=
  match v.account (normalizeEmail email) with
  | some user => .ok user
  | none => .error .userNotFound

/-- The workspace lives and the actor belongs to it: their rank. -/
def enter (v : Roll) (workspace actor : Uuid) : Except Failure Role := do
  check (v.status workspace = .active) .workspaceNotFound
  v.rank actor workspace "You are not a member of this workspace"

/-- The table of decisions: a refusal, or the roll after the change. -/
def decide (v : Roll) (workspace actor : Uuid) : Change → Except Failure Roll
  | .add email role => do
    let rank ← v.enter workspace actor
    check (rank ≠ .member) (.insufficientPermission "Only owner or admin can add members")
    check (role = .owner → rank = .owner)
      (.insufficientPermission "Only the owner can grant the OWNER role")
    let target ← v.target email
    check (¬(v.standing target workspace).isActive) .activeMemberConflict
    return (v.yield actor workspace role).set target workspace (.active role)
  | .remove email => do
    let rank ← v.enter workspace actor
    check (rank ≠ .member) (.insufficientPermission "Only owner or admin can remove members")
    let target ← v.target email
    let held ← v.rank target workspace "Target user is not a member of this workspace"
    check (held ≠ .owner) (.insufficientPermission "The owner cannot be removed")
    check (¬(rank = .admin ∧ held = .admin))
      (.insufficientPermission "Admins cannot remove other admins")
    return v.set target workspace (.gone held)
  | .changeRole email role => do
    let rank ← v.enter workspace actor
    check (rank ≠ .member) (.insufficientPermission "Only owner or admin can change roles")
    check (role = .owner → rank = .owner)
      (.insufficientPermission "Only the owner can grant the OWNER role")
    let target ← v.target email
    let held ← v.rank target workspace "Target user is not a member of this workspace"
    check (held ≠ .owner)
      (.insufficientPermission "The owner's role can only change through an ownership transfer")
    return (v.yield actor workspace role).set target workspace (.active role)
  | .leave => do
    let rank ← v.enter workspace actor
    check (rank ≠ .owner) .ownerCannotLeave
    return v.set actor workspace (.gone rank)
  | .transferOwnership email => do
    let rank ← v.enter workspace actor
    check (rank = .owner) (.insufficientPermission "Only the owner can transfer ownership")
    let target ← v.target email
    check (target ≠ actor) (.validationFailed "Cannot transfer ownership to yourself")
    let _ ← v.rank target workspace "Target user is not a member of this workspace"
    return (v.set actor workspace (.active .admin)).set target workspace (.active .owner)

@[simp] theorem set_status (v : Roll) (u w : Uuid) (x : Standing) :
    (v.set u w x).status = v.status := rfl

@[simp] theorem set_account (v : Roll) (u w : Uuid) (x : Standing) :
    (v.set u w x).account = v.account := rfl

theorem set_standing (v : Roll) (u w a b : Uuid) (x : Standing) :
    (v.set u w x).standing a b = if a = u ∧ b = w then x else v.standing a b := rfl

end Roll

end Service

/-! ## §3 The roll of stored tables -/

open Service (Status Standing Roll)

/-- The standing that a row gives its user. -/
def Membership.standing (m : Membership) : Standing :=
  if m.isActive then .active m.role else .gone m.role

@[simp] theorem Membership.standing_saved (m : Membership) : m.saved.standing = m.standing := rfl

theorem Membership.standing_of_active {m : Membership} (h : m.isActive) :
    m.standing = .active m.role := by simp [standing, h]

theorem Membership.standing_isActive (m : Membership) : m.standing.isActive = m.isActive := by
  unfold standing
  cases h : m.isActive <;> simp [Standing.isActive]

namespace Store.State

/-- The status that the stored row gives a workspace. -/
def status (s : State) (workspace : Uuid) : Status :=
  match s.workspaces.find? workspace with
  | none => .absent
  | some w => if w.isActive then .active else .deleted

/-- The roll of the stored tables. -/
def roll (s : State) : Roll where
  status := s.status
  standing user workspace := ((s.pair? user workspace).map Membership.standing).getD .none
  account email := (s.userByEmail? email).map User.id

/-- The active workspace is found exactly if the roll has it as active. -/
theorem status_eq_active {s : State} {workspace : Uuid} :
    s.status workspace = .active ↔ ∃ w, s.workspace? workspace .active = some w := by
  unfold status workspace?
  cases s.workspaces.find? workspace with
  | none => simp
  | some w => cases h : w.isActive <;> simp [h, Filter.admits]

theorem membership?_active {s : State} {user workspace : Uuid} {m : Membership} :
    s.membership? user workspace .active = some m ↔
      s.pair? user workspace = some m ∧ m.isActive := by
  simp [membership?, Option.filter_eq_some_iff, Filter.admits]

theorem membership?_all (s : State) (user workspace : Uuid) :
    s.membership? user workspace .all = s.pair? user workspace := by
  unfold membership?
  cases s.pair? user workspace <;> simp [Filter.admits]

/-- Where pairs are unique, the row of a pair is any row of that pair. -/
theorem Sound.pair?_eq_some {s : State} (h : s.Sound) {user workspace : Uuid} {m : Membership} :
    s.pair? user workspace = some m ↔
      m ∈ s.memberships.rows ∧ m.user = user ∧ m.workspace = workspace :=
  h.unique.pair?_iff

/-- One saved row moves one user to another standing. -/
theorem Sound.roll_put_membership {s : State} (h : s.Sound) {m : Membership}
    (a : s.Admits (.membership m))
    (same : ∀ n ∈ s.memberships.rows, n.id = m.id → n.user = m.user ∧ n.workspace = m.workspace) :
    (s.put (.membership m)).roll = s.roll.set m.user m.workspace m.standing := by
  have h' := h.put_membership a
  have key : ∀ u w, (s.put (.membership m)).roll.standing u w =
      (s.roll.set m.user m.workspace m.standing).standing u w := by
    intro u w
    rw [Roll.set_standing]
    split
    · rename_i e
      have : (s.put (.membership m)).pair? u w = some m.saved :=
        h'.pair?_eq_some.2 ⟨mem_put_membership.2 (.inl rfl), e.1.symm, e.2.symm⟩
      simp [roll, this]
    · rename_i e
      have : (s.put (.membership m)).pair? u w = s.pair? u w := by
        apply Option.ext
        intro x
        rw [h'.pair?_eq_some, h.pair?_eq_some, mem_put_membership]
        constructor
        · rintro ⟨rfl | ⟨hx, -⟩, hu, hw⟩
          · exact absurd ⟨hu.symm, hw.symm⟩ e
          · exact ⟨hx, hu, hw⟩
        · rintro ⟨hx, rfl, rfl⟩
          exact ⟨.inr ⟨hx, fun hi => e (same x hx hi)⟩, rfl, rfl⟩
      simp [roll, this]
  exact Roll.ext rfl (funext fun u => funext fun w => key u w) rfl

end Store.State

end Roster
