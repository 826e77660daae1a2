/-
Roster.Proofs.Store.Saves — what a save does, and the invariant of every store.

`Admits` names the condition under which a row is written and `put` the tables
that result, so that a save is `put` where the row is admitted and a refusal
elsewhere (`saveUser_eq_ok`, `saveWorkspace_eq_ok`, `saveMembership_eq_ok`).
`Sound` collects what the rules of uniqueness and of versions add up to: it
holds of empty tables and survives the save of any row whatever
(`Sound.put`), be it one that no operation here would make. So it holds of all
that a store can come to hold (`Held`).
-/
import Roster.Store.State

namespace Roster

/-! ## §1 Rows -/

/-- The account as the next save leaves it. -/
def User.saved (u : User) : User := { u with version := u.version + 1 }

/-- The workspace as the next save leaves it. -/
def Workspace.saved (w : Workspace) : Workspace := { w with version := w.version + 1 }

/-- The membership as the next save leaves it. -/
def Membership.saved (m : Membership) : Membership := { m with version := m.version + 1 }

@[simp] theorem User.saved_id (u : User) : u.saved.id = u.id := rfl
@[simp] theorem User.saved_email (u : User) : u.saved.email = u.email := rfl
@[simp] theorem User.saved_emailKey (u : User) : u.saved.emailKey = u.emailKey := rfl
@[simp] theorem User.saved_refreshFingerprint (u : User) :
    u.saved.refreshFingerprint = u.refreshFingerprint := rfl
@[simp] theorem Workspace.saved_id (w : Workspace) : w.saved.id = w.id := rfl
@[simp] theorem Workspace.saved_isActive (w : Workspace) : w.saved.isActive = w.isActive := rfl
@[simp] theorem Membership.saved_id (m : Membership) : m.saved.id = m.id := rfl
@[simp] theorem Membership.saved_user (m : Membership) : m.saved.user = m.user := rfl
@[simp] theorem Membership.saved_workspace (m : Membership) :
    m.saved.workspace = m.workspace := rfl
@[simp] theorem Membership.saved_role (m : Membership) : m.saved.role = m.role := rfl
@[simp] theorem Membership.saved_isActive (m : Membership) :
    m.saved.isActive = m.isActive := rfl
@[simp] theorem Membership.saved_isActiveOwner (m : Membership) :
    m.saved.isActiveOwner = m.isActiveOwner := rfl

theorem Membership.isActiveOwner_iff {m : Membership} :
    m.isActiveOwner = true ↔ m.isActive = true ∧ m.role = .owner := by
  rw [isActiveOwner, Bool.and_eq_true, Role.isOwner_iff]

namespace Store

open Identified (key)

@[simp] theorem key_user (u : User) : key u = u.id := rfl
@[simp] theorem key_workspace (w : Workspace) : key w = w.id := rfl
@[simp] theorem key_membership (m : Membership) : key m = m.id := rfl

/-- A row of one of the three tables. -/
inductive Row where
  | user (u : User)
  | workspace (w : Workspace)
  | membership (m : Membership)

/-- The stored row of an identifier has the given version; zero stands for no row. -/
def Table.Carries {α : Type} [Identified α] (t : Table α) (version : α → Int) (id : Uuid)
    (v : Int) : Prop :=
  ((t.find? id).map version).getD 0 = v

/-- Rows of one identifier are one row. -/
theorem Table.eq_of_mem {α : Type} [Identified α] {t : Table α} {a b : α} (ha : a ∈ t.rows)
    (hb : b ∈ t.rows) (h : key a = key b) : a = b := by
  have h1 := Table.find?_eq_some.2 ⟨ha, rfl⟩
  have h2 := Table.find?_eq_some.2 ⟨hb, h.symm⟩
  exact Option.some.inj (h1.symm.trans h2)

/-- A row that is stored carries its own version. -/
theorem Table.carries_of_mem {α : Type} [Identified α] {t : Table α} {a : α} (ha : a ∈ t.rows)
    (version : α → Int) : t.Carries version (key a) (version a) := by
  rw [Carries, Table.find?_eq_some.2 ⟨ha, rfl⟩]
  rfl

/-- Where stored versions are positive, version zero means that there is no row. -/
theorem Table.carries_zero {α : Type} [Identified α] {t : Table α} {version : α → Int} {id : Uuid}
    (pos : ∀ a ∈ t.rows, 1 ≤ version a) :
    t.Carries version id 0 ↔ ∀ a ∈ t.rows, key a ≠ id := by
  rw [← Table.find?_eq_none, Carries]
  cases h : t.find? id with
  | none => simp
  | some a =>
    have := pos a (Table.find?_eq_some.1 h).1
    simp only [Option.map_some, Option.getD_some, reduceCtorEq, iff_false]
    omega

/-- The version that follows one that fits a table of positive versions is positive. -/
theorem Table.Carries.succ_pos {α : Type} [Identified α] {t : Table α} {version : α → Int}
    {id : Uuid} {v : Int} (h : t.Carries version id v) (pos : ∀ a ∈ t.rows, 1 ≤ version a) :
    1 ≤ v + 1 := by
  unfold Table.Carries at h
  cases hf : t.find? id with
  | none =>
    rw [hf] at h
    simp at h
    omega
  | some a =>
    have := pos a (Table.find?_eq_some.1 hf).1
    rw [hf] at h
    simp at h
    omega

namespace State

/-- When a save of the row succeeds. -/
def Admits (s : State) : Row → Prop
  | .user u =>
    s.users.Carries User.version u.id u.version ∧
      ∀ v ∈ s.users.rows, v.id ≠ u.id → v.emailKey ≠ u.emailKey
  | .workspace w => s.workspaces.Carries Workspace.version w.id w.version
  | .membership m =>
    s.memberships.Carries Membership.version m.id m.version ∧
      ∀ n ∈ s.memberships.rows, n.id ≠ m.id → n.workspace = m.workspace →
        n.user ≠ m.user ∧ ¬(m.isActiveOwner ∧ n.isActiveOwner)

/-- The tables after a save of the row. -/
def put (s : State) : Row → State
  | .user u => { s with users := s.users.insert u.saved }
  | .workspace w => { s with workspaces := s.workspaces.insert w.saved }
  | .membership m => { s with memberships := s.memberships.insert m.saved }

@[simp] theorem put_user_workspaces (s : State) (u : User) :
    (s.put (.user u)).workspaces = s.workspaces := rfl
@[simp] theorem put_user_memberships (s : State) (u : User) :
    (s.put (.user u)).memberships = s.memberships := rfl
@[simp] theorem put_workspace_users (s : State) (w : Workspace) :
    (s.put (.workspace w)).users = s.users := rfl
@[simp] theorem put_workspace_memberships (s : State) (w : Workspace) :
    (s.put (.workspace w)).memberships = s.memberships := rfl
@[simp] theorem put_membership_users (s : State) (m : Membership) :
    (s.put (.membership m)).users = s.users := rfl
@[simp] theorem put_membership_workspaces (s : State) (m : Membership) :
    (s.put (.membership m)).workspaces = s.workspaces := rfl

theorem mem_put_user {s : State} {u v : User} :
    v ∈ (s.put (.user u)).users.rows ↔ v = u.saved ∨ v ∈ s.users.rows ∧ v.id ≠ u.id :=
  Table.mem_insert

theorem mem_put_workspace {s : State} {w x : Workspace} :
    x ∈ (s.put (.workspace w)).workspaces.rows ↔
      x = w.saved ∨ x ∈ s.workspaces.rows ∧ x.id ≠ w.id :=
  Table.mem_insert

theorem mem_put_membership {s : State} {m n : Membership} :
    n ∈ (s.put (.membership m)).memberships.rows ↔
      n = m.saved ∨ n ∈ s.memberships.rows ∧ n.id ≠ m.id :=
  Table.mem_insert

/-! ## §2 Saves -/

theorem checkVersion_eq_ok {what : String} {stored : Option Int} {expected : Int} {x : Unit} :
    checkVersion what stored expected = .ok x ↔ stored.getD 0 = expected := by
  unfold checkVersion
  split <;> simp [*]

/-- A version that does not match is a conflict, never another error. -/
theorem checkVersion_eq_error {what : String} {stored : Option Int} {expected : Int} {e : Error}
    (h : checkVersion what stored expected = .error e) : ∃ detail, e = .conflict detail := by
  unfold checkVersion at h
  split at h
  · simp at h
  · exact ⟨_, (Except.error.inj h).symm⟩

theorem emailTaken_eq_false {s : State} {u : User} :
    s.emailTaken u = false ↔ ∀ v ∈ s.users.rows, v.id ≠ u.id → v.emailKey ≠ u.emailKey := by
  simp [emailTaken, List.any_eq_false]

theorem saveUser_of_admits {s : State} {u : User} (h : s.Admits (.user u)) :
    s.saveUser u = .ok (u.saved, s.put (.user u)) := by
  have hv : checkVersion "user" ((s.user? u.id).map User.version) u.version = .ok () :=
    checkVersion_eq_ok.2 h.1
  have he : s.emailTaken u = false := emailTaken_eq_false.2 h.2
  rw [saveUser, hv, he]
  rfl

/-- The version is checked before the address. -/
theorem saveUser_of_not_carries {s : State} {u : User}
    (h : ¬s.users.Carries User.version u.id u.version) :
    ∃ detail, s.saveUser u = .error (.conflict detail) := by
  unfold saveUser
  cases hv : checkVersion "user" ((s.user? u.id).map User.version) u.version with
  | error e =>
    obtain ⟨detail, rfl⟩ := checkVersion_eq_error hv
    exact ⟨detail, rfl⟩
  | ok x => exact absurd (checkVersion_eq_ok.1 hv) h

theorem saveUser_of_not_admits {s : State} {u : User} (h : ¬s.Admits (.user u)) :
    ∃ e, s.saveUser u = .error e := by
  by_cases hv : s.users.Carries User.version u.id u.version
  · have hc : checkVersion "user" ((s.user? u.id).map User.version) u.version = .ok () :=
      checkVersion_eq_ok.2 hv
    rw [saveUser, hc]
    cases he : s.emailTaken u with
    | true => exact ⟨.emailTaken, rfl⟩
    | false => exact absurd ⟨hv, emailTaken_eq_false.1 he⟩ h
  · obtain ⟨detail, he⟩ := saveUser_of_not_carries hv
    exact ⟨_, he⟩

theorem saveWorkspace_of_admits {s : State} {w : Workspace} (h : s.Admits (.workspace w)) :
    s.saveWorkspace w = .ok (w.saved, s.put (.workspace w)) := by
  have hv : checkVersion "workspace" ((s.workspaces.find? w.id).map Workspace.version)
      w.version = .ok () := checkVersion_eq_ok.2 h
  rw [saveWorkspace, hv]
  rfl

theorem clash?_eq_none {m n : Membership} :
    clash? m n = none ↔ n.user ≠ m.user ∧ ¬(m.isActiveOwner ∧ n.isActiveOwner) := by
  unfold clash?
  split
  · simp [*]
  · split <;> simp_all

theorem clash?_eq_some {m n : Membership} {e : Error} (h : clash? m n = some e) :
    ∃ detail, e = .conflict detail := by
  unfold clash? at h
  split at h
  · exact ⟨_, (Option.some.inj h).symm⟩
  · split at h
    · exact ⟨_, (Option.some.inj h).symm⟩
    · simp at h

/-- No neighbour breaks a rule, in the words of `Admits`. -/
theorem findSome?_clash_eq_none {s : State} {m : Membership} :
    (s.neighbours m).findSome? (clash? m) = none ↔
      ∀ n ∈ s.memberships.rows, n.id ≠ m.id → n.workspace = m.workspace →
        n.user ≠ m.user ∧ ¬(m.isActiveOwner ∧ n.isActiveOwner) := by
  rw [List.findSome?_eq_none_iff]
  constructor
  · intro h n hn hid hw
    exact clash?_eq_none.1 (h n (by simp [neighbours, hn, hid, hw]))
  · intro h n hn
    simp only [neighbours, List.mem_filter, decide_eq_true_eq] at hn
    exact clash?_eq_none.2 (h n hn.1 hn.2.1 hn.2.2)

theorem saveMembership_of_admits {s : State} {m : Membership} (h : s.Admits (.membership m)) :
    s.saveMembership m = .ok (m.saved, s.put (.membership m)) := by
  have hv : checkVersion "membership" ((s.memberships.find? m.id).map Membership.version)
      m.version = .ok () := checkVersion_eq_ok.2 h.1
  rw [saveMembership, hv, findSome?_clash_eq_none.2 h.2]
  rfl

theorem saveWorkspace_of_not_admits {s : State} {w : Workspace} (h : ¬s.Admits (.workspace w)) :
    ∃ detail, s.saveWorkspace w = .error (.conflict detail) := by
  unfold saveWorkspace
  cases hv : checkVersion "workspace" ((s.workspaces.find? w.id).map Workspace.version)
      w.version with
  | error e =>
    obtain ⟨detail, rfl⟩ := checkVersion_eq_error hv
    exact ⟨detail, rfl⟩
  | ok x => exact absurd (checkVersion_eq_ok.1 hv) h

theorem saveMembership_of_not_admits {s : State} {m : Membership}
    (h : ¬s.Admits (.membership m)) :
    ∃ detail, s.saveMembership m = .error (.conflict detail) := by
  unfold saveMembership
  cases hv : checkVersion "membership" ((s.memberships.find? m.id).map Membership.version)
      m.version with
  | error e =>
    obtain ⟨detail, rfl⟩ := checkVersion_eq_error hv
    exact ⟨detail, rfl⟩
  | ok x =>
    cases hc : (s.neighbours m).findSome? (clash? m) with
    | some e =>
      obtain ⟨n, -, hn⟩ := List.exists_of_findSome?_eq_some hc
      obtain ⟨detail, rfl⟩ := clash?_eq_some hn
      exact ⟨detail, rfl⟩
    | none => exact absurd ⟨checkVersion_eq_ok.1 hv, findSome?_clash_eq_none.1 hc⟩ h

/-- A row is admitted exactly if its save succeeds, and `put` is what it leaves. -/
theorem saveUser_eq_ok {s t : State} {u v : User} :
    s.saveUser u = .ok (v, t) ↔ s.Admits (.user u) ∧ v = u.saved ∧ t = s.put (.user u) := by
  by_cases h : s.Admits (.user u)
  · rw [saveUser_of_admits h]
    simp [h, eq_comm]
  · obtain ⟨e, he⟩ := saveUser_of_not_admits h
    simp [he, h]

theorem saveWorkspace_eq_ok {s t : State} {w v : Workspace} :
    s.saveWorkspace w = .ok (v, t) ↔
      s.Admits (.workspace w) ∧ v = w.saved ∧ t = s.put (.workspace w) := by
  by_cases h : s.Admits (.workspace w)
  · rw [saveWorkspace_of_admits h]
    simp [h, eq_comm]
  · obtain ⟨_, he⟩ := saveWorkspace_of_not_admits h
    simp [he, h]

theorem saveMembership_eq_ok {s t : State} {m v : Membership} :
    s.saveMembership m = .ok (v, t) ↔
      s.Admits (.membership m) ∧ v = m.saved ∧ t = s.put (.membership m) := by
  by_cases h : s.Admits (.membership m)
  · rw [saveMembership_of_admits h]
    simp [h, eq_comm]
  · obtain ⟨e, he⟩ := saveMembership_of_not_admits h
    simp [he, h]

/-! ## §3 The invariant of every store -/

/-- What the rules on writes add up to. -/
structure Sound (s : State) : Prop where
  /-- An address in lower case belongs to one account. -/
  emails : ∀ u ∈ s.users.rows, ∀ v ∈ s.users.rows, u.emailKey = v.emailKey → u = v
  /-- A pair of user and workspace has one row. -/
  pairs : ∀ m ∈ s.memberships.rows, ∀ n ∈ s.memberships.rows,
    m.user = n.user → m.workspace = n.workspace → m = n
  /-- A workspace has no two active owners. -/
  owners : ∀ m ∈ s.memberships.rows, ∀ n ∈ s.memberships.rows,
    m.workspace = n.workspace → m.isActiveOwner → n.isActiveOwner → m = n
  userVersions : ∀ u ∈ s.users.rows, 1 ≤ u.version
  workspaceVersions : ∀ w ∈ s.workspaces.rows, 1 ≤ w.version
  membershipVersions : ∀ m ∈ s.memberships.rows, 1 ≤ m.version

theorem Sound.empty : Sound State.empty := by
  constructor <;> intro x hx <;> cases hx

theorem Sound.put_user {s : State} (h : s.Sound) {u : User} (a : s.Admits (.user u)) :
    (s.put (.user u)).Sound where
  emails := by
    intro x hx y hy e
    rcases mem_put_user.1 hx with rfl | ⟨hx, hxu⟩ <;> rcases mem_put_user.1 hy with rfl | ⟨hy, hyu⟩
    · rfl
    · exact absurd e.symm (a.2 y hy hyu)
    · exact absurd e (a.2 x hx hxu)
    · exact h.emails x hx y hy e
  pairs := h.pairs
  owners := h.owners
  userVersions := by
    intro x hx
    rcases mem_put_user.1 hx with rfl | ⟨hx, -⟩
    · exact a.1.succ_pos h.userVersions
    · exact h.userVersions x hx
  workspaceVersions := h.workspaceVersions
  membershipVersions := h.membershipVersions

theorem Sound.put_workspace {s : State} (h : s.Sound) {w : Workspace}
    (a : s.Admits (.workspace w)) : (s.put (.workspace w)).Sound where
  emails := h.emails
  pairs := h.pairs
  owners := h.owners
  userVersions := h.userVersions
  workspaceVersions := by
    intro x hx
    rcases mem_put_workspace.1 hx with rfl | ⟨hx, -⟩
    · exact Table.Carries.succ_pos a h.workspaceVersions
    · exact h.workspaceVersions x hx
  membershipVersions := h.membershipVersions

theorem Sound.put_membership {s : State} (h : s.Sound) {m : Membership}
    (a : s.Admits (.membership m)) : (s.put (.membership m)).Sound where
  emails := h.emails
  pairs := by
    intro x hx y hy hu hw
    rcases mem_put_membership.1 hx with rfl | ⟨hx, hxm⟩ <;>
      rcases mem_put_membership.1 hy with rfl | ⟨hy, hym⟩
    · rfl
    · exact absurd hu.symm (a.2 y hy hym hw.symm).1
    · exact absurd hu (a.2 x hx hxm hw).1
    · exact h.pairs x hx y hy hu hw
  owners := by
    intro x hx y hy hw ox oy
    rcases mem_put_membership.1 hx with rfl | ⟨hx, hxm⟩ <;>
      rcases mem_put_membership.1 hy with rfl | ⟨hy, hym⟩
    · rfl
    · exact absurd ⟨ox, oy⟩ (a.2 y hy hym hw.symm).2
    · exact absurd ⟨oy, ox⟩ (a.2 x hx hxm hw).2
    · exact h.owners x hx y hy hw ox oy
  userVersions := h.userVersions
  workspaceVersions := h.workspaceVersions
  membershipVersions := by
    intro x hx
    rcases mem_put_membership.1 hx with rfl | ⟨hx, -⟩
    · exact a.1.succ_pos h.membershipVersions
    · exact h.membershipVersions x hx

/-- No admitted row, whatever it holds, breaks the invariant. -/
theorem Sound.put {s : State} (h : s.Sound) {r : Row} (a : s.Admits r) : (s.put r).Sound := by
  cases r with
  | user u => exact h.put_user a
  | workspace w => exact h.put_workspace a
  | membership m => exact h.put_membership a

/-- The tables that a store can hold: saves lead to them from none. -/
inductive Held : State → Prop
  | empty : Held .empty
  | put {s : State} {r : Row} : Held s → s.Admits r → Held (s.put r)

theorem Held.sound {s : State} (h : s.Held) : s.Sound := by
  induction h with
  | empty => exact .empty
  | put _ a ih => exact ih.put a

/-! ## §4 Memberships that are admitted -/

/-- Nobody but the given user is the active owner of the workspace. -/
def HasRoom (s : State) (workspace user : Uuid) : Prop :=
  ∀ n ∈ s.memberships.rows, n.workspace = workspace → n.isActiveOwner → n.user = user

/-- A row of the same identifier, pair and version as another. -/
structure Revises (m old : Membership) : Prop where
  id : m.id = old.id
  user : m.user = old.user
  workspace : m.workspace = old.workspace
  version : m.version = old.version

theorem Sound.admits_revision {s : State} (h : s.Sound) {m old : Membership}
    (ho : old ∈ s.memberships.rows) (r : Revises m old)
    (room : m.isActiveOwner → s.HasRoom m.workspace m.user) : s.Admits (.membership m) := by
  refine ⟨?_, ?_⟩
  · rw [r.id, r.version]
    exact Table.carries_of_mem ho Membership.version
  · intro n hn hid hw
    have other : n.user ≠ m.user := by
      intro e
      have := h.pairs n hn old ho (e.trans r.user) (hw.trans r.workspace)
      exact hid (this ▸ r.id.symm)
    exact ⟨other, fun o => other (room o.1 n hn hw o.2)⟩

theorem Sound.admits_fresh {s : State} (h : s.Sound) {m : Membership} (hv : m.version = 0)
    (hid : ∀ n ∈ s.memberships.rows, n.id ≠ m.id)
    (pair : ∀ n ∈ s.memberships.rows, n.workspace = m.workspace → n.user ≠ m.user)
    (room : m.isActiveOwner → s.HasRoom m.workspace m.user) : s.Admits (.membership m) := by
  refine ⟨?_, ?_⟩
  · rw [hv]
    exact (Table.carries_zero h.membershipVersions).2 hid
  · intro n hn _ hw
    exact ⟨pair n hn hw, fun o => pair n hn hw (room o.1 n hn hw o.2)⟩

/-- A row of version zero is not admitted over a stored one. -/
theorem Sound.not_admits_taken {s : State} (h : s.Sound) {m n : Membership} (hv : m.version = 0)
    (hn : n ∈ s.memberships.rows) (hid : n.id = m.id) : ¬s.Admits (.membership m) := by
  intro a
  have := a.1
  rw [hv] at this
  exact (Table.carries_zero h.membershipVersions).1 this n hn hid

end State

end Store

end Roster
