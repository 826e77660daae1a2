/-
Roster.Proofs.Text.NormalForm — one pass brings a text to its normal form.

An address is trimmed and put in lower case on signing up, again when the account
is made, and its lower case is taken once more at every look-up. All passes after
the first one change nothing. For that the image of a character under the mapping
must be its own image (§1), which is read off the table run by run; no final sigma
is left to decide, since no capital one is. And no image is white space, so that
the ends of a trimmed text stay as they are (§2).
-/
import Mathlib.Data.List.DropRight
import Roster.User

namespace Roster.Text

/-! ## §1 Lower case -/

namespace LowerRun

/-- All images lie on one side of the code points from `low` to `high`. -/
def misses (r : LowerRun) (low high : Nat) : Bool :=
  (r.image r.last).blt low || high.blt (r.image r.first)

/-- The other run holds every second code point, and the images are among those between. -/
def alternates (r q : LowerRun) : Bool :=
  (0).blt (r.image r.first) && q.stride == 2 && (r.stride == 2 || r.first == r.last) &&
    (r.image r.first + q.first) % 2 == 1

/-- No image of the run is in the other one. -/
def avoids (r q : LowerRun) : Bool := r.misses q.first q.last || r.alternates q

variable {r q : LowerRun} {n : Nat}

theorem covers_iff :
    r.covers n = true ↔ r.first ≤ n ∧ n ≤ r.last ∧ (n - r.first) % r.stride = 0 := by
  simp [covers, and_assoc]

theorem image_of_misses {low high : Nat} (a : r.misses low high = true)
    (h : r.covers n = true) : r.image n < low ∨ high < r.image n := by
  obtain ⟨first, last, -⟩ := covers_iff.1 h
  simp only [misses, image, Int.ofNat_eq_natCast, Bool.or_eq_true, Nat.blt_eq] at a ⊢
  omega

/-- An image has the parity of the first one. -/
theorem not_covers_of_alternates (a : r.alternates q = true) (h : r.covers n = true) :
    ¬q.covers (r.image n) = true := by
  simp only [alternates, image, Int.ofNat_eq_natCast, Bool.and_eq_true, Bool.or_eq_true,
    Nat.blt_eq, beq_iff_eq] at a
  obtain ⟨⟨⟨positive, stride⟩, step⟩, odd⟩ := a
  obtain ⟨first, last, place⟩ := covers_iff.1 h
  rw [covers_iff, stride, image, Int.ofNat_eq_natCast]
  rcases step with step | single
  · rw [step] at place
    omega
  · omega

theorem not_covers_of_avoids (a : r.avoids q = true) (h : r.covers n = true) :
    ¬q.covers (r.image n) = true := by
  rcases Bool.or_eq_true_iff.1 a with a | a
  · have := image_of_misses a h
    rw [covers_iff]
    omega
  · exact not_covers_of_alternates a h

end LowerRun

-- Each run is compared with each: a run of images meets no other run, or only between its members.
theorem lowerRuns_avoid : (lowerRuns.all fun r => lowerRuns.all r.avoids) = true := by
  decide +kernel

/-- No image is the dotted capital I or white space. -/
theorem lowerRuns_miss :
    (lowerRuns.all fun r => ((0x130, 0x130) :: blankRanges).all fun range =>
      r.misses range.1 range.2) = true := by
  decide +kernel

/-- No run has the character, nor has it an image of its own. -/
def Settled (c : Char) : Prop := c ≠ 'İ' ∧ ∀ r ∈ lowerRuns, ¬r.covers c.toNat = true

variable {c d : Char} {cs before : List Char}

theorem Settled.ne_capitalSigma (h : Settled c) : c ≠ capitalSigma := by
  rintro rfl
  exact h.2 ⟨0x3A3, 0x3AB, 1, 32⟩ (by decide +kernel) (by decide)

/-- The run of the capital letters of ASCII. -/
def capitals : LowerRun := ⟨0x41, 0x5A, 1, 32⟩

theorem capitals_mem : capitals ∈ lowerRuns := List.mem_cons_self

theorem Settled.toLower (h : Settled c) : c.toLower = c := by
  have := h.2 capitals capitals_mem
  refine dif_neg fun upper => this (LowerRun.covers_iff.2 ⟨?_, ?_, Nat.mod_one _⟩)
  · exact upper.1
  · exact upper.2

/-- Such a character is the whole of its lower case. -/
theorem Settled.lowerChar (h : Settled c) : lowerChar c = [c] := by
  have missing : lowerRuns.find? (fun r => r.covers c.toNat) = none :=
    List.find?_eq_none.2 h.2
  rw [Text.lowerChar, h.toLower, if_neg h.1, missing]
  exact ite_self _

/-- An image is settled, and it is not white space. -/
theorem settled_image {r : LowerRun} (hr : r ∈ lowerRuns) {n : Nat} (h : r.covers n = true) :
    Settled (Char.ofNat (r.image n)) ∧ isBlank (Char.ofNat (r.image n)) = false := by
  by_cases valid : (r.image n).isValidChar
  · have value : (Char.ofNat (r.image n)).toNat = r.image n := by
      rw [Char.ofNat, dif_pos valid]
      rfl
    have misses := List.all_eq_true.1 (List.all_eq_true.1 lowerRuns_miss r hr)
    refine ⟨⟨fun e => ?_, fun q hq => ?_⟩, ?_⟩
    · have := LowerRun.image_of_misses (misses (0x130, 0x130) (by simp)) h
      rw [← value, e] at this
      revert this
      decide
    · rw [value]
      exact LowerRun.not_covers_of_avoids
        (List.all_eq_true.1 (List.all_eq_true.1 lowerRuns_avoid r hr) q hq) h
    · rw [isBlank, inRanges, List.any_eq_false]
      intro range hrange
      have := LowerRun.image_of_misses (misses range (List.mem_cons_of_mem _ hrange)) h
      rw [value, Bool.and_eq_true, decide_eq_true_eq, decide_eq_true_eq]
      omega
  · rw [Char.ofNat, dif_neg valid]
    refine ⟨⟨by decide, ?_⟩, by decide⟩
    decide +kernel

theorem settled_lowerSigma (before after : List Char) :
    Settled (lowerSigma before after) ∧ isBlank (lowerSigma before after) = false := by
  unfold lowerSigma
  split <;> exact ⟨⟨by decide, by decide +kernel⟩, by decide⟩

/-- All other runs start behind ASCII. -/
theorem capitals_or_behind :
    (lowerRuns.all fun r => r == capitals || Nat.ble 0x80 r.first) = true := by
  decide +kernel

theorem toLower_of_capitals (n : Fin 26) :
    (Char.ofNat (0x41 + n)).toLower = Char.ofNat (capitals.image (0x41 + n)) := by
  revert n
  decide

theorem settled_toLower (ascii : c.toNat < 0x80) :
    Settled c.toLower ∧ (isBlank c = false → isBlank c.toLower = false) := by
  by_cases upper : capitals.covers c.toNat = true
  · obtain ⟨first, last, -⟩ := LowerRun.covers_iff.1 upper
    simp only [capitals] at first last
    have image := toLower_of_capitals ⟨c.toNat - 0x41, by omega⟩
    simp only [Nat.add_sub_cancel' first, Char.ofNat_toNat] at image
    have settled := settled_image capitals_mem upper
    rw [image]
    exact ⟨settled.1, fun _ => settled.2⟩
  · have settled : Settled c := by
      refine ⟨by rintro rfl; revert ascii; decide, fun r hr covers => ?_⟩
      have place := List.all_eq_true.1 capitals_or_behind r hr
      rcases Bool.or_eq_true_iff.1 place with e | behind
      · exact upper (eq_of_beq e ▸ covers)
      · have := (LowerRun.covers_iff.1 covers).1
        have := Nat.le_of_ble_eq_true behind
        omega
    rw [settled.toLower]
    exact ⟨settled, id⟩

/-- What a character becomes is settled, and white space only if the character was. -/
theorem settled_of_mem_lowerChar (h : d ∈ lowerChar c) :
    Settled d ∧ (isBlank c = false → isBlank d = false) := by
  unfold lowerChar at h
  split at h
  · rename_i ascii
    obtain rfl := List.mem_singleton.1 h
    exact settled_toLower ascii
  · split at h
    · rcases List.mem_pair.1 h with rfl | rfl <;>
        exact ⟨⟨by decide, by decide +kernel⟩, fun _ => by decide⟩
    · split at h
      · rename_i r found
        obtain rfl := List.mem_singleton.1 h
        have image := settled_image (List.mem_of_find?_eq_some found)
          (List.find?_some (p := fun r : LowerRun => r.covers c.toNat) found)
        exact ⟨image.1, fun _ => image.2⟩
      · rename_i none
        obtain rfl := List.mem_singleton.1 h
        exact ⟨⟨by assumption, List.find?_eq_none.1 none⟩, id⟩

theorem lowerChar_ne_nil (c : Char) : lowerChar c ≠ [] := by
  unfold lowerChar
  split
  · exact List.cons_ne_nil _ _
  · split
    · exact List.cons_ne_nil _ _
    · split <;> exact List.cons_ne_nil _ _

/-- Every character of a text becomes a piece of its own, wherever it stands. -/
theorem exists_lowerFrom_cons (before : List Char) (c : Char) (rest : List Char) :
    ∃ piece, piece ≠ [] ∧
      (∀ d ∈ piece, Settled d ∧ (isBlank c = false → isBlank d = false)) ∧
      lowerFrom before (c :: rest) = piece ++ lowerFrom (c :: before) rest := by
  by_cases sigma : c = capitalSigma
  · refine ⟨[lowerSigma before rest], List.cons_ne_nil _ _, fun d hd => ?_, ?_⟩
    · obtain rfl := List.mem_singleton.1 hd
      have image := settled_lowerSigma before rest
      exact ⟨image.1, fun _ => image.2⟩
    · rw [lowerFrom, if_pos sigma]
  · refine ⟨lowerChar c, lowerChar_ne_nil c, fun d => settled_of_mem_lowerChar, ?_⟩
    rw [lowerFrom, if_neg sigma]

/-- What a text becomes is settled. -/
theorem settled_of_mem_lowerFrom (h : d ∈ lowerFrom before cs) : Settled d := by
  induction cs generalizing before with
  | nil => cases h
  | cons c rest ih =>
    obtain ⟨piece, -, settled, e⟩ := exists_lowerFrom_cons before c rest
    rcases List.mem_append.1 (e ▸ h) with h | h
    · exact (settled d h).1
    · exact ih h

theorem lowerFrom_of_settled (h : ∀ c ∈ cs, Settled c) : lowerFrom before cs = cs := by
  induction cs generalizing before with
  | nil => rfl
  | cons c rest ih =>
    obtain ⟨first, others⟩ := List.forall_mem_cons.1 h
    rw [lowerFrom, if_neg first.ne_capitalSigma, first.lowerChar, ih others]
    rfl

theorem lowerChars_lowerChars (cs : List Char) : lowerChars (lowerChars cs) = lowerChars cs :=
  lowerFrom_of_settled fun _ => settled_of_mem_lowerFrom

/-- Lower case is taken once. -/
theorem lowercase_lowercase (s : String) : lowercase (lowercase s) = lowercase s := by
  rw [lowercase, lowercase, String.toList_ofList, lowerChars_lowerChars]

/-! ## §2 Trimming -/

/-- No white space at the two ends. -/
structure Trimmed (cs : List Char) : Prop where
  front : ∀ c ∈ cs.head?, isBlank c = false
  back : ∀ c ∈ cs.getLast?, isBlank c = false

theorem trimFront_eq_self (h : ∀ c ∈ cs.head?, isBlank c = false) : trimFront cs = cs := by
  cases cs with
  | nil => rfl
  | cons c rest => exact List.dropWhile_cons_of_neg (by simp [h c rfl])

theorem trimChars_eq_self (h : Trimmed cs) : trimChars cs = cs := by
  have back : trimFront cs.reverse = cs.reverse :=
    trimFront_eq_self (List.head?_reverse ▸ h.back)
  rw [trimChars, trimFront_eq_self h.front, trimBack, ← trimFront, back, List.reverse_reverse]

/-- Dropping a front leaves the last character, if any. -/
theorem getLast?_trimFront (h : d ∈ (trimFront cs).getLast?) : d ∈ cs.getLast? := by
  obtain ⟨front, e⟩ := List.dropWhile_suffix (p := isBlank) (l := cs)
  rw [← e, List.getLast?_append, ← trimFront, Option.mem_def.1 h]
  rfl

theorem front_trimFront (h : d ∈ (trimFront cs).head?) : isBlank d = false := by
  have := List.head?_dropWhile_not isBlank cs
  rw [← trimFront, Option.mem_def.1 h] at this
  exact this

theorem trimmed_trimChars (cs : List Char) : Trimmed (trimChars cs) where
  front c hc := by
    rw [trimChars, trimBack, List.head?_reverse] at hc
    have := getLast?_trimFront hc
    rw [List.getLast?_reverse] at this
    exact front_trimFront this
  back c hc := by
    rw [trimChars, trimBack, List.getLast?_reverse] at hc
    exact front_trimFront hc

/-- A text is trimmed once. -/
theorem trim_trim (s : String) : trim (trim s) = trim s := by
  rw [trim, trim, String.toList_ofList, trimChars_eq_self (trimmed_trimChars _)]

theorem length_trimChars_le (cs : List Char) : (trimChars cs).length ≤ cs.length := by
  rw [trimChars, trimBack, List.length_reverse]
  calc _ ≤ (trimFront cs).reverse.length := (List.dropWhile_sublist _).length_le
    _ = (trimFront cs).length := List.length_reverse
    _ ≤ cs.length := (List.dropWhile_sublist _).length_le

theorem front_lowerFrom (h : ∀ c ∈ cs.head?, isBlank c = false)
    (hd : d ∈ (lowerFrom before cs).head?) : isBlank d = false := by
  cases cs with
  | nil => cases hd
  | cons c rest =>
    obtain ⟨piece, nonempty, image, e⟩ := exists_lowerFrom_cons before c rest
    rw [e, List.head?_append_of_ne_nil _ nonempty] at hd
    exact (image d (List.mem_of_head? hd)).2 (h c rfl)

theorem back_lowerFrom (h : ∀ c ∈ cs.getLast?, isBlank c = false)
    (hd : d ∈ (lowerFrom before cs).getLast?) : isBlank d = false := by
  induction cs generalizing before with
  | nil => cases hd
  | cons c rest ih =>
    obtain ⟨piece, -, image, e⟩ := exists_lowerFrom_cons before c rest
    rw [e] at hd
    cases rest with
    | nil =>
      rw [lowerFrom, List.append_nil] at hd
      exact (image d (List.mem_of_getLast? hd)).2 (h c rfl)
    | cons next rest =>
      obtain ⟨later, nonempty, -, e⟩ := exists_lowerFrom_cons (c :: before) next rest
      rw [List.getLast?_append_of_ne_nil] at hd
      · exact ih (by simpa using h) hd
      · simp [e, nonempty]

/-- Lower case leaves no white space at an end where there was none. -/
theorem Trimmed.lowerChars (h : Trimmed cs) : Trimmed (lowerChars cs) :=
  ⟨fun _ => front_lowerFrom h.front, fun _ => back_lowerFrom h.back⟩

theorem trim_lowercase_trim (s : String) :
    trim (lowercase (trim s)) = lowercase (trim s) := by
  rw [trim, lowercase, trim, String.toList_ofList, String.toList_ofList,
    trimChars_eq_self (trimmed_trimChars _).lowerChars]

end Roster.Text

namespace Roster

/-- The lower case of an address in normal form is the address. -/
theorem lowercase_normalizeEmail (email : String) :
    Text.lowercase (normalizeEmail email) = normalizeEmail email :=
  Text.lowercase_lowercase _

/-- An address has one normal form, however often it is taken. -/
theorem normalizeEmail_normalizeEmail (email : String) :
    normalizeEmail (normalizeEmail email) = normalizeEmail email := by
  rw [normalizeEmail, normalizeEmail, Text.trim_lowercase_trim, Text.lowercase_lowercase]

end Roster
