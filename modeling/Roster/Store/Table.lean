/-
Roster.Store.Table — rows with an identifier of their own.

A table holds at most one row for an identifier and keeps the order in which
the identifiers first came. `insert` replaces the row of its identifier or adds
one at the end; `find?` and `insert` meet the laws of a map.
-/
import Roster.Uuid

namespace Roster.Store

/-- Things with an identifier. -/
class Identified (α : Type) where
  key : α → Uuid

/-- Rows of which no two have the same identifier. -/
structure Table (α : Type) [Identified α] where
  rows : List α
  nodup : (rows.map Identified.key).Nodup

namespace Table

variable {α : Type} [Identified α]

open Identified (key)

def empty : Table α := ⟨[], List.nodup_nil⟩

instance : Inhabited (Table α) := ⟨empty⟩

/-- The row with an identifier. -/
def find? (t : Table α) (id : Uuid) : Option α := t.rows.find? fun a => key a = id

/-- Replaces the row of the same identifier, or adds the row at the end. -/
def insertRow (a : α) : List α → List α
  | [] => [a]
  | b :: rest => if key b = key a then a :: rest else b :: insertRow a rest

theorem mem_insertRow {a x : α} {rows : List α} (nodup : (rows.map key).Nodup) :
    x ∈ insertRow a rows ↔ x = a ∨ x ∈ rows ∧ key x ≠ key a := by
  induction rows with
  | nil => simp [insertRow]
  | cons b rest ih =>
    rw [List.map_cons, List.nodup_cons] at nodup
    rw [insertRow]
    split
    · rename_i h
      have other : ∀ y ∈ rest, key y ≠ key a := by
        intro y hy e
        exact nodup.1 (h ▸ e ▸ List.mem_map_of_mem hy)
      constructor
      · intro hx
        rcases List.mem_cons.1 hx with rfl | hx
        · exact .inl rfl
        · exact .inr ⟨List.mem_cons_of_mem _ hx, other x hx⟩
      · rintro (rfl | ⟨hx, hk⟩)
        · exact List.mem_cons_self
        · rcases List.mem_cons.1 hx with rfl | hx
          · exact absurd h hk
          · exact List.mem_cons_of_mem _ hx
    · rename_i h
      rw [List.mem_cons, ih nodup.2, List.mem_cons]
      constructor
      · rintro (rfl | rfl | hx)
        · exact .inr ⟨.inl rfl, h⟩
        · exact .inl rfl
        · exact .inr ⟨.inr hx.1, hx.2⟩
      · rintro (rfl | ⟨rfl | hx, hk⟩)
        · exact .inr (.inl rfl)
        · exact .inl rfl
        · exact .inr (.inr ⟨hx, hk⟩)

theorem nodup_insertRow {a : α} {rows : List α} (nodup : (rows.map key).Nodup) :
    ((insertRow a rows).map key).Nodup := by
  induction rows with
  | nil => simp [insertRow]
  | cons b rest ih =>
    have h := nodup
    rw [List.map_cons, List.nodup_cons] at h
    rw [insertRow]
    split
    · rename_i e
      rw [List.map_cons, ← e, ← List.map_cons]
      exact nodup
    · rename_i e
      rw [List.map_cons, List.nodup_cons]
      refine ⟨?_, ih h.2⟩
      intro m
      obtain ⟨x, hx, hk⟩ := List.mem_map.1 m
      rcases (mem_insertRow h.2).1 hx with rfl | ⟨hx, -⟩
      · exact e hk.symm
      · exact h.1 (hk ▸ List.mem_map_of_mem hx)

/-- The table with a row put in. -/
def insert (t : Table α) (a : α) : Table α := ⟨insertRow a t.rows, nodup_insertRow t.nodup⟩

theorem mem_insert {t : Table α} {a x : α} :
    x ∈ (t.insert a).rows ↔ x = a ∨ x ∈ t.rows ∧ key x ≠ key a :=
  mem_insertRow t.nodup

theorem find?_rows_eq_some {rows : List α} (nodup : (rows.map key).Nodup) {id : Uuid} {a : α} :
    (rows.find? fun a => key a = id) = some a ↔ a ∈ rows ∧ key a = id := by
  induction rows with
  | nil => simp
  | cons b rest ih =>
    rw [List.map_cons, List.nodup_cons] at nodup
    rw [List.find?_cons]
    by_cases h : key b = id
    · simp only [h, decide_true, Option.some.injEq, List.mem_cons]
      constructor
      · rintro rfl
        exact ⟨.inl rfl, h⟩
      · rintro ⟨rfl | ha, hk⟩
        · rfl
        · exact absurd (hk.trans h.symm ▸ List.mem_map_of_mem ha) nodup.1
    · simp only [h, decide_false, List.mem_cons]
      rw [ih nodup.2]
      constructor
      · rintro ⟨ha, hk⟩
        exact ⟨.inr ha, hk⟩
      · rintro ⟨rfl | ha, hk⟩
        · exact absurd hk h
        · exact ⟨ha, hk⟩

/-- Finding by identifier is membership. -/
theorem find?_eq_some {t : Table α} {id : Uuid} {a : α} :
    t.find? id = some a ↔ a ∈ t.rows ∧ key a = id :=
  find?_rows_eq_some t.nodup

theorem find?_eq_none {t : Table α} {id : Uuid} :
    t.find? id = none ↔ ∀ a ∈ t.rows, key a ≠ id := by
  simp [find?, List.find?_eq_none]

@[simp]
theorem find?_insert_self (t : Table α) (a : α) : (t.insert a).find? (key a) = some a :=
  find?_eq_some.2 ⟨mem_insert.2 (.inl rfl), rfl⟩

theorem find?_insert_of_ne {t : Table α} {a : α} {id : Uuid} (h : id ≠ key a) :
    (t.insert a).find? id = t.find? id := by
  apply Option.ext
  intro x
  rw [find?_eq_some, find?_eq_some, mem_insert]
  constructor
  · rintro ⟨rfl | ⟨hx, -⟩, hk⟩
    · exact absurd hk.symm h
    · exact ⟨hx, hk⟩
  · rintro ⟨hx, hk⟩
    exact ⟨.inr ⟨hx, hk ▸ h⟩, hk⟩

end Table

end Roster.Store
