/-
Roster.Proofs.Store.Orders — nothing depends on the order of the rows.

An unordered map enumerates its rows in any order, and most lookups answer with
the first row that fits. Two stores with the same rows (`Reordered`) answer
alike, because at most one row fits: by identifier in every table, and by
address, by pair and by ownership where the rules of uniqueness hold (`Unique`,
§2): there a lookup finds a row exactly if the row is stored and fits
(`userByEmail?_iff`, `pair?_iff`, `find?_owner_iff`). A save is admitted in both
or in neither, and leaves the same rows again (§3). Only the list of a user's
workspaces has an order of its own, that of their creation; what was created at
one time stands in any order (§4).
-/
import Mathlib.Data.List.Nodup
import Roster.Proofs.Store.Saves

namespace Roster

namespace Store

/-! ## §1 Lists and tables -/

section Lists

variable {α β : Type} {p : α → Bool} {l m : List α}

/-- The first row that fits, where only one does. -/
theorem find?_eq_some_of_unique
    (unique : ∀ a ∈ l, ∀ b ∈ l, p a = true → p b = true → a = b) {a : α} :
    l.find? p = some a ↔ a ∈ l ∧ p a = true := by
  constructor
  · intro found
    exact ⟨List.mem_of_find?_eq_some found, List.find?_some found⟩
  · rintro ⟨ha, fits⟩
    obtain ⟨b, found⟩ := Option.isSome_iff_exists.1 (List.find?_isSome.2 ⟨a, ha, fits⟩)
    rw [found, unique b (List.mem_of_find?_eq_some found) a ha (List.find?_some found) fits]

theorem find?_of_perm (h : l.Perm m)
    (unique : ∀ a ∈ l, ∀ b ∈ l, p a = true → p b = true → a = b) : l.find? p = m.find? p := by
  have unique' : ∀ a ∈ m, ∀ b ∈ m, p a = true → p b = true → a = b := fun a ha b hb =>
    unique a (h.mem_iff.2 ha) b (h.mem_iff.2 hb)
  apply Option.ext
  intro a
  rw [find?_eq_some_of_unique unique, find?_eq_some_of_unique unique', h.mem_iff]

/-- Lists that look the same from place to place are the same, where looks tell all. -/
theorem eq_of_map_eq {f : α → β} (looks : l.map f = m.map f)
    (told : ∀ a ∈ l, ∀ b ∈ m, f a = f b → a = b) : l = m := by
  induction l generalizing m with
  | nil => exact (List.map_eq_nil_iff.1 looks.symm).symm
  | cons a l ih =>
    obtain ⟨b, m, rfl, first, rest⟩ := List.map_eq_cons_iff.1 looks.symm
    have same : a = b := told a List.mem_cons_self b List.mem_cons_self first.symm
    rw [same, ih rest.symm fun c hc d hd =>
      told c (List.mem_cons_of_mem _ hc) d (List.mem_cons_of_mem _ hd)]

end Lists

namespace Table

variable {α : Type} [Identified α] {t u : Table α}

theorem find?_of_perm (h : t.rows.Perm u.rows) (id : Uuid) : t.find? id = u.find? id := by
  apply Option.ext
  intro a
  rw [find?_eq_some, find?_eq_some, h.mem_iff]

theorem insert_perm (h : t.rows.Perm u.rows) (a : α) :
    (t.insert a).rows.Perm (u.insert a).rows := by
  have first : (t.insert a).rows.Nodup := List.Nodup.of_map _ (t.insert a).nodup
  have second : (u.insert a).rows.Nodup := List.Nodup.of_map _ (u.insert a).nodup
  refine (List.perm_ext_iff_of_nodup first second).2 fun x => ?_
  rw [mem_insert, mem_insert, h.mem_iff]

end Table

namespace State

/-! ## §2 Lookups -/

/-- The rules of uniqueness. -/
structure Unique (s : State) : Prop where
  /-- An address in lower case belongs to one account. -/
  emails : ∀ u ∈ s.users.rows, ∀ v ∈ s.users.rows, u.emailKey = v.emailKey → u = v
  /-- A pair of user and workspace has one row. -/
  pairs : ∀ m ∈ s.memberships.rows, ∀ n ∈ s.memberships.rows,
    m.user = n.user → m.workspace = n.workspace → m = n
  /-- A workspace has no two active owners. -/
  owners : ∀ m ∈ s.memberships.rows, ∀ n ∈ s.memberships.rows,
    m.workspace = n.workspace → m.isActiveOwner → n.isActiveOwner → m = n

/-- So do all stores that saves lead to. -/
theorem Sound.unique {s : State} (h : s.Sound) : s.Unique := ⟨h.emails, h.pairs, h.owners⟩

theorem mem_activeMembers_owner {s : State} {workspace : Uuid} {m : Membership} :
    m ∈ s.activeMembers workspace ∧ m.role.isOwner = true ↔
      m ∈ s.memberships.rows ∧ m.workspace = workspace ∧ m.isActiveOwner = true := by
  simp [activeMembers, Membership.isActiveOwner, and_assoc]

namespace Unique

variable {s : State} (unique : s.Unique) {user workspace : Uuid} {m : Membership}
include unique

theorem one_user {email : String} : ∀ u ∈ s.users.rows, ∀ v ∈ s.users.rows,
    decide (u.emailKey = Text.lowercase email) = true →
      decide (v.emailKey = Text.lowercase email) = true → u = v := by
  intro u hu v hv first second
  exact unique.emails u hu v hv ((of_decide_eq_true first).trans (of_decide_eq_true second).symm)

theorem one_pair : ∀ m ∈ s.memberships.rows, ∀ n ∈ s.memberships.rows,
    decide (m.user = user ∧ m.workspace = workspace) = true →
      decide (n.user = user ∧ n.workspace = workspace) = true → m = n := by
  intro m hm n hn first second
  obtain ⟨mu, mw⟩ := of_decide_eq_true first
  obtain ⟨nu, nw⟩ := of_decide_eq_true second
  exact unique.pairs m hm n hn (mu.trans nu.symm) (mw.trans nw.symm)

theorem one_owner : ∀ m ∈ s.activeMembers workspace, ∀ n ∈ s.activeMembers workspace,
    m.role.isOwner = true → n.role.isOwner = true → m = n := by
  intro m hm n hn first second
  obtain ⟨hm, mw, owns⟩ := mem_activeMembers_owner.1 ⟨hm, first⟩
  obtain ⟨hn, nw, owns'⟩ := mem_activeMembers_owner.1 ⟨hn, second⟩
  exact unique.owners m hm n hn (mw.trans nw.symm) owns owns'

/-- A lookup by address finds the account with the key of the address. -/
theorem userByEmail?_iff {email : String} {u : User} :
    s.userByEmail? email = some u ↔ u ∈ s.users.rows ∧ u.emailKey = Text.lowercase email := by
  rw [← decide_eq_true_eq (p := u.emailKey = _)]
  exact find?_eq_some_of_unique unique.one_user

/-- A lookup by pair finds the row of the pair. -/
theorem pair?_iff : s.pair? user workspace = some m ↔
    m ∈ s.memberships.rows ∧ m.user = user ∧ m.workspace = workspace := by
  rw [← decide_eq_true_eq (p := m.user = user ∧ m.workspace = workspace)]
  exact find?_eq_some_of_unique unique.one_pair

/-- A lookup by ownership finds the row of the owner. -/
theorem find?_owner_iff : (s.activeMembers workspace).find? (fun m => m.role.isOwner) = some m ↔
    m ∈ s.memberships.rows ∧ m.workspace = workspace ∧ m.isActiveOwner = true := by
  rw [← mem_activeMembers_owner]
  exact find?_eq_some_of_unique unique.one_owner

end Unique

/-- The same rows in each table, in any order. -/
structure Reordered (s t : State) : Prop where
  users : s.users.rows.Perm t.users.rows
  workspaces : s.workspaces.rows.Perm t.workspaces.rows
  memberships : s.memberships.rows.Perm t.memberships.rows

variable {s t : State} {r : Row}

namespace Reordered

theorem user? (h : s.Reordered t) (id : Uuid) : s.user? id = t.user? id :=
  Table.find?_of_perm h.users id

theorem find?_workspaces (h : s.Reordered t) (id : Uuid) :
    s.workspaces.find? id = t.workspaces.find? id :=
  Table.find?_of_perm h.workspaces id

theorem workspace? (h : s.Reordered t) (id : Uuid) (filter : Filter) :
    s.workspace? id filter = t.workspace? id filter := by
  rw [State.workspace?, State.workspace?, h.find?_workspaces]

theorem activeMembers (h : s.Reordered t) (workspace : Uuid) :
    (s.activeMembers workspace).Perm (t.activeMembers workspace) :=
  h.memberships.filter _

theorem memberCount (h : s.Reordered t) (workspace : Uuid) :
    s.memberCount workspace = t.memberCount workspace :=
  (h.activeMembers workspace).length_eq

theorem userByEmail? (h : s.Reordered t) (unique : s.Unique) (email : String) :
    s.userByEmail? email = t.userByEmail? email :=
  find?_of_perm h.users unique.one_user

theorem pair? (h : s.Reordered t) (unique : s.Unique) (user workspace : Uuid) :
    s.pair? user workspace = t.pair? user workspace :=
  find?_of_perm h.memberships unique.one_pair

theorem membership? (h : s.Reordered t) (unique : s.Unique) (user workspace : Uuid)
    (filter : Filter) :
    s.membership? user workspace filter = t.membership? user workspace filter := by
  rw [State.membership?, State.membership?, h.pair? unique]

theorem owner? (h : s.Reordered t) (unique : s.Unique) (workspace : Uuid) :
    s.owner? workspace = t.owner? workspace := by
  have same := find?_of_perm (h.activeMembers workspace) unique.one_owner
  rw [State.owner?, State.owner?, same]
  exact congrArg _ (funext fun m => h.user? m.user)

theorem details? (h : s.Reordered t) (unique : s.Unique) : s.details? = t.details? := by
  funext m
  unfold State.details?
  rw [h.workspace?]
  refine congrArg _ (funext fun w => ?_)
  rw [h.owner? unique, h.memberCount]

/-! ## §3 Saves -/

/-- A row is admitted whatever the order of those that are there. -/
theorem admits (h : s.Reordered t) : s.Admits r ↔ t.Admits r := by
  cases r with
  | user u =>
    simp only [Admits, Table.Carries, Table.find?_of_perm h.users, h.users.mem_iff]
  | workspace w => simp only [Admits, Table.Carries, Table.find?_of_perm h.workspaces]
  | membership m =>
    simp only [Admits, Table.Carries, Table.find?_of_perm h.memberships, h.memberships.mem_iff]

theorem put (h : s.Reordered t) (r : Row) : (s.put r).Reordered (t.put r) := by
  cases r with
  | user u => exact ⟨Table.insert_perm h.users _, h.workspaces, h.memberships⟩
  | workspace w => exact ⟨h.users, Table.insert_perm h.workspaces _, h.memberships⟩
  | membership m => exact ⟨h.users, h.workspaces, Table.insert_perm h.memberships _⟩

end Reordered

/-- Two outcomes of a save in stores with the same rows: the same row is saved and the same rows
are left, or both fail with errors of one kind. -/
inductive SameOutcome {α : Type} :
    Except Error (α × State) → Except Error (α × State) → Prop
  | saved {a : α} {s t : State} : s.Reordered t → SameOutcome (.ok (a, s)) (.ok (a, t))
  | failed {e f : Error} : e.name = f.name → SameOutcome (.error e) (.error f)

namespace Reordered

theorem saveUser (h : s.Reordered t) (u : User) :
    SameOutcome (s.saveUser u) (t.saveUser u) := by
  have taken : s.emailTaken u = t.emailTaken u := h.users.any_eq
  rw [State.saveUser, State.saveUser, ← h.user?, ← taken]
  cases checkVersion "user" ((s.user? u.id).map User.version) u.version with
  | error e => exact .failed rfl
  | ok _ =>
    cases s.emailTaken u with
    | true => exact .failed rfl
    | false => exact .saved (h.put (.user u))

theorem saveWorkspace (h : s.Reordered t) (w : Workspace) :
    SameOutcome (s.saveWorkspace w) (t.saveWorkspace w) := by
  rw [State.saveWorkspace, State.saveWorkspace, ← h.find?_workspaces]
  cases checkVersion "workspace" ((s.workspaces.find? w.id).map Workspace.version) w.version with
  | error e => exact .failed rfl
  | ok _ => exact .saved (h.put (.workspace w))

/-- Which rule a refused membership breaks first may depend on the order, but not that it is one. -/
theorem saveMembership (h : s.Reordered t) (m : Membership) :
    SameOutcome (s.saveMembership m) (t.saveMembership m) := by
  by_cases a : s.Admits (.membership m)
  · rw [saveMembership_of_admits a, saveMembership_of_admits (h.admits.1 a)]
    exact .saved (h.put (.membership m))
  · obtain ⟨_, first⟩ := saveMembership_of_not_admits a
    obtain ⟨_, second⟩ := saveMembership_of_not_admits fun b => a (h.admits.2 b)
    rw [first, second]
    exact .failed rfl

end Reordered

/-! ## §4 The workspaces of a user -/

/-- When the workspace of an entry was created. -/
def createdOf (s : State) (d : WorkspaceDetails) : Option Moment :=
  (s.workspaces.find? d.workspace).map Workspace.created

/-- The entries of a user with the times of creation that they are sorted by. -/
def timeline (s : State) (user : Uuid) (only : Option Uuid) : List (Moment × WorkspaceDetails) :=
  ((s.callerRows user only).filterMap s.details?).mergeSort fun a b => a.1.nanos ≤ b.1.nanos

theorem detailsFor_eq (s : State) (user : Uuid) (only : Option Uuid) :
    s.detailsFor user only = (s.timeline user only).map Prod.snd := rfl

theorem createdOf_of_details? {m : Membership} {entry : Moment × WorkspaceDetails}
    (h : s.details? m = some entry) : s.createdOf entry.2 = some entry.1 := by
  simp only [details?, bind, Option.bind_eq_some_iff, pure, Option.some.injEq] at h
  obtain ⟨w, found, u, -, rfl⟩ := h
  have stored := Table.find?_eq_some.1 (Option.filter_eq_some_iff.1 found).1
  have same : s.workspaces.find? w.id = some w := Table.find?_eq_some.2 ⟨stored.1, rfl⟩
  simp [createdOf, same]

theorem createdOf_of_mem_timeline {user : Uuid} {only : Option Uuid}
    {entry : Moment × WorkspaceDetails} (h : entry ∈ s.timeline user only) :
    s.createdOf entry.2 = some entry.1 := by
  obtain ⟨m, -, joined⟩ := List.mem_filterMap.1 (List.mem_mergeSort.1 h)
  exact createdOf_of_details? joined

theorem pairwise_timeline (s : State) (user : Uuid) (only : Option Uuid) :
    ((s.timeline user only).map Prod.fst).Pairwise fun a b => a.nanos ≤ b.nanos := by
  have sorted : (s.timeline user only).Pairwise
      fun a b => decide (a.1.nanos ≤ b.1.nanos) = true :=
    List.pairwise_mergeSort (fun a b c => by simpa using Int.le_trans)
      (fun a b => by simpa using Int.le_total ..) _
  exact List.pairwise_map.2 (sorted.imp of_decide_eq_true)

theorem map_createdOf_detailsFor (s : State) (user : Uuid) (only : Option Uuid) :
    (s.detailsFor user only).map s.createdOf =
      ((s.timeline user only).map Prod.fst).map some := by
  rw [detailsFor_eq, List.map_map, List.map_map]
  exact List.map_congr_left fun entry h => createdOf_of_mem_timeline h

namespace Reordered

theorem createdOf (h : s.Reordered t) : s.createdOf = t.createdOf := by
  funext d
  rw [State.createdOf, State.createdOf, h.find?_workspaces]

theorem timeline (h : s.Reordered t) (unique : s.Unique) (user : Uuid) (only : Option Uuid) :
    (s.timeline user only).Perm (t.timeline user only) := by
  have rows : (s.callerRows user only).Perm (t.callerRows user only) := h.memberships.filter _
  have joined := rows.filterMap s.details?
  rw [h.details? unique] at joined
  rw [State.timeline, State.timeline, h.details? unique]
  exact (List.mergeSort_perm ..).trans (joined.trans (List.mergeSort_perm ..).symm)

/-- The times of creation stand in one order, which is all that sorting can fix. -/
theorem times (h : s.Reordered t) (unique : s.Unique) (user : Uuid) (only : Option Uuid) :
    (s.timeline user only).map Prod.fst = (t.timeline user only).map Prod.fst := by
  have antisymm (a b : Moment) (ab : a.nanos ≤ b.nanos) (ba : b.nanos ≤ a.nanos) : a = b := by
    cases a
    cases b
    exact congrArg Moment.mk (Int.le_antisymm ab ba)
  exact ((h.timeline unique user only).map Prod.fst).eq_of_pairwise (fun a b _ _ => antisymm a b)
    (s.pairwise_timeline user only) (t.pairwise_timeline user only)

end Reordered

/-! ## §5 Any order -/

/--
Whatever the order in which the rows of the three tables are enumerated, as long
as they keep to the rules of uniqueness: lookups and counts answer the same;
saves succeed and leave the same rows, or fail with an error of the same kind;
and a user is shown the same workspaces in the same order, but for those that
were created at the same time.
-/
theorem order_immaterial {s t : State} (unique : s.Unique) (h : s.Reordered t) :
    (∀ email, s.userByEmail? email = t.userByEmail? email) ∧
    (∀ user workspace filter,
      s.membership? user workspace filter = t.membership? user workspace filter) ∧
    (∀ workspace, s.memberCount workspace = t.memberCount workspace) ∧
    (∀ u, SameOutcome (s.saveUser u) (t.saveUser u)) ∧
    (∀ w, SameOutcome (s.saveWorkspace w) (t.saveWorkspace w)) ∧
    (∀ m, SameOutcome (s.saveMembership m) (t.saveMembership m)) ∧
    ∀ user only,
      let shown := s.detailsFor user only
      let shown' := t.detailsFor user only
      shown.Perm shown' ∧ shown.map s.createdOf = shown'.map s.createdOf ∧
        ((∀ a ∈ shown, ∀ b ∈ shown, s.createdOf a = s.createdOf b → a = b) →
          shown = shown') := by
  refine ⟨h.userByEmail? unique, h.membership? unique, h.memberCount, h.saveUser,
    h.saveWorkspace, h.saveMembership, ?_⟩
  intro user only shown shown'
  have entries : shown.Perm shown' := (h.timeline unique user only).map Prod.snd
  have times : shown.map s.createdOf = shown'.map s.createdOf := by
    rw [map_createdOf_detailsFor, h.times unique, h.createdOf, map_createdOf_detailsFor]
  refine ⟨entries, times, fun told => eq_of_map_eq times fun a ha b hb => ?_⟩
  exact told a ha b (entries.mem_iff.2 hb)

/-- Two workspaces of one age: a user is shown them in the order of the rows. -/
theorem order_immaterial_twins :
    let ann : User := ⟨.ofNat 1, "Ann", "a@b", "hash", none, ⟨0⟩, 1⟩
    let one : Workspace := ⟨.ofNat 2, "One", .team, ⟨5⟩, none, 1⟩
    let two : Workspace := ⟨.ofNat 3, "Two", .team, ⟨5⟩, none, 1⟩
    let first : Membership := ⟨.ofNat 4, one.id, ann.id, .owner, ⟨5⟩, none, 1⟩
    let second : Membership := ⟨.ofNat 5, two.id, ann.id, .owner, ⟨5⟩, none, 1⟩
    let s : State :=
      ⟨⟨[ann], by decide⟩, ⟨[one, two], by decide⟩, ⟨[first, second], by decide⟩⟩
    let t : State :=
      ⟨⟨[ann], by decide⟩, ⟨[two, one], by decide⟩, ⟨[second, first], by decide⟩⟩
    s.Unique ∧ s.Reordered t ∧
      (s.detailsFor ann.id none).map WorkspaceDetails.name = ["One", "Two"] ∧
      (t.detailsFor ann.id none).map WorkspaceDetails.name = ["Two", "One"] ∧
      (s.detailsFor ann.id none).Perm (t.detailsFor ann.id none) := by
  intro ann one two first second s t
  have unique : s.Unique := ⟨by decide +kernel, by decide +kernel, by decide +kernel⟩
  have same : s.Reordered t := ⟨.refl _, .swap .., .swap ..⟩
  have shown := (order_immaterial unique same).2.2.2.2.2.2 ann.id none
  -- Sorting is stuck where it would be run, but there is nothing to sort.
  have unsorted (x : State)
      (sorted : ((x.callerRows ann.id none).filterMap x.details?).Pairwise
        fun a b => decide (a.1.nanos ≤ b.1.nanos) = true) :
      x.detailsFor ann.id none = ((x.callerRows ann.id none).filterMap x.details?).map Prod.snd :=
    congrArg (List.map Prod.snd) (List.mergeSort_of_pairwise sorted)
  refine ⟨unique, same, ?_, ?_, shown.1⟩
  · rw [unsorted s (by decide +kernel)]
    decide +kernel
  · rw [unsorted t (by decide +kernel)]
    decide +kernel

end State

end Store

end Roster
