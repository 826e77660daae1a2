/-
Roster.Proofs.Store.Growth — rows stay, and their versions count the saves.

A save adds a row or replaces the one at its place. As long as the rows that are
saved say what the stored ones do wherever a row must not change (`Continues`),
nothing that is stored is lost (`Preserved`). `Becomes` lists the places at
which tables were written, one admitted save after another, so that a version is
higher by the number of times its place is in the list (`Becomes.stamp`).
-/
import Roster.Proofs.Store.Versions

namespace Roster.Store.State

variable {s t u : State} {r : Row} {p : Place} {places : List Place}

/-! ## §1 What a row keeps -/

/-- Where a row is stored already, the new one says the same of what never changes. -/
def Continues (s : State) : Row → Prop
  | .user u => ∀ v ∈ s.users.rows, v.id = u.id →
    u.name = v.name ∧ u.email = v.email ∧ u.passwordHash = v.passwordHash ∧ u.created = v.created
  | .workspace w => ∀ x ∈ s.workspaces.rows, x.id = w.id → w.created = x.created
  | .membership m => ∀ n ∈ s.memberships.rows, n.id = m.id →
    m.user = n.user ∧ m.workspace = n.workspace

/-- All rows are still there, and of each what never changes. -/
structure Preserved (s t : State) : Prop where
  users : ∀ u ∈ s.users.rows, ∃ v ∈ t.users.rows, v.id = u.id ∧ v.name = u.name ∧
    v.email = u.email ∧ v.passwordHash = u.passwordHash ∧ v.created = u.created
  workspaces : ∀ w ∈ s.workspaces.rows, ∃ x ∈ t.workspaces.rows,
    x.id = w.id ∧ x.created = w.created
  memberships : ∀ m ∈ s.memberships.rows, ∃ n ∈ t.memberships.rows,
    n.id = m.id ∧ n.user = m.user ∧ n.workspace = m.workspace

theorem Preserved.refl (s : State) : Preserved s s :=
  ⟨fun u hu => ⟨u, hu, rfl, rfl, rfl, rfl, rfl⟩, fun w hw => ⟨w, hw, rfl, rfl⟩,
    fun m hm => ⟨m, hm, rfl, rfl, rfl⟩⟩

theorem Preserved.trans (h : Preserved s t) (k : Preserved t u) : Preserved s u where
  users x hx := by
    obtain ⟨y, hy, a⟩ := h.users x hx
    obtain ⟨z, hz, b⟩ := k.users y hy
    grind
  workspaces x hx := by
    obtain ⟨y, hy, a⟩ := h.workspaces x hx
    obtain ⟨z, hz, b⟩ := k.workspaces y hy
    grind
  memberships x hx := by
    obtain ⟨y, hy, a⟩ := h.memberships x hx
    obtain ⟨z, hz, b⟩ := k.memberships y hy
    grind

theorem Preserved.put (c : s.Continues r) : Preserved s (s.put r) := by
  cases r with
  | user x =>
    refine { Preserved.refl s with users := fun v hv => ?_ }
    by_cases e : v.id = x.id
    · exact ⟨_, mem_put_user.2 (.inl rfl), e.symm, c v hv e⟩
    · exact ⟨v, mem_put_user.2 (.inr ⟨hv, e⟩), rfl, rfl, rfl, rfl, rfl⟩
  | workspace x =>
    refine { Preserved.refl s with workspaces := fun v hv => ?_ }
    by_cases e : v.id = x.id
    · exact ⟨_, mem_put_workspace.2 (.inl rfl), e.symm, c v hv e⟩
    · exact ⟨v, mem_put_workspace.2 (.inr ⟨hv, e⟩), rfl, rfl⟩
  | membership x =>
    refine { Preserved.refl s with memberships := fun v hv => ?_ }
    by_cases e : v.id = x.id
    · exact ⟨_, mem_put_membership.2 (.inl rfl), e.symm, c v hv e⟩
    · exact ⟨v, mem_put_membership.2 (.inr ⟨hv, e⟩), rfl, rfl, rfl⟩

/-- A row whose place is free keeps all there is to keep. -/
theorem continues_of_free (free : s.row? r.place = none) : s.Continues r := by
  cases r with
  | user x =>
    intro v hv e
    have := row?_user hv
    rw [e] at this
    exact absurd (this.symm.trans free) nofun
  | workspace x =>
    intro v hv e
    have := row?_workspace hv
    rw [e] at this
    exact absurd (this.symm.trans free) nofun
  | membership x =>
    intro v hv e
    have := row?_membership hv
    rw [e] at this
    exact absurd (this.symm.trans free) nofun

/-- A place for which version zero is admitted is free. -/
theorem Sound.free_of_admits (h : s.Sound) (a : s.Admits r) (version : r.version = 0) :
    s.row? r.place = none := by
  have expected := a.version
  rw [version] at expected
  cases stored : s.row? r.place with
  | none => rfl
  | some x =>
    have := h.versions stored
    rw [stored, Option.map_some, Option.getD_some] at expected
    omega

/-! ## §2 One save after another -/

/-- The version at the place of an admitted row is one higher; all others are as they were. -/
theorem stamp_put (a : s.Admits r) (p : Place) :
    (s.put r).stamp p = s.stamp p + if r.place = p then 1 else 0 := by
  split
  · rename_i e
    have expected : s.stamp r.place = r.version := a.version
    rw [← e, stamp_of_row? (s.row?_put_self r), expected, Row.version_saved]
  · rename_i e
    rw [stamp, s.row?_put_of_ne (Ne.symm e), stamp, Int.add_zero]

/-- The tables become others by saves at the given places, in their order. -/
inductive Becomes : State → List Place → State → Prop
  | done (s : State) : Becomes s [] s
  | save {s t : State} {r : Row} {places : List Place} :
    s.Admits r → s.Continues r → Becomes (s.put r) places t → Becomes s (r.place :: places) t

theorem Becomes.single (a : s.Admits r) (c : s.Continues r) : s.Becomes [r.place] (s.put r) :=
  .save a c (.done _)

theorem Becomes.preserved (h : s.Becomes places t) : Preserved s t := by
  induction h with
  | done s => exact .refl s
  | save _ c _ ih => exact (Preserved.put c).trans ih

theorem Becomes.stamp (h : s.Becomes places t) (p : Place) :
    t.stamp p = s.stamp p + places.count p := by
  induction h with
  | done s => simp
  | save a _ _ ih =>
    rw [ih, stamp_put a p, List.count_cons]
    simp only [beq_iff_eq]
    split <;> push_cast <;> omega

end Roster.Store.State
