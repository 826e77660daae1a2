/-
Roster.Proofs.Uuid — an identifier is read back from its text.
-/
import Roster.Uuid

namespace Roster.Uuid

/-- The five groups of 32 digits. -/
theorem groups {ds : List Char} (h : ds.length = 32) :
    ∃ a b c d e : List Char, (a.length = 8 ∧ b.length = 4 ∧ c.length = 4 ∧ d.length = 4 ∧
      e.length = 12) ∧ ds = a ++ (b ++ (c ++ (d ++ e))) := by
  refine ⟨ds.take 8, (ds.drop 8).take 4, (ds.drop 12).take 4, (ds.drop 16).take 4, ds.drop 20,
    ?_, ?_⟩
  · simp only [List.length_take, List.length_drop]
    omega
  · have join (n k : Nat) : (ds.drop n).take k ++ ds.drop (n + k) = ds.drop n := by
      rw [← List.drop_drop, List.take_append_drop]
    rw [join 16 4, join 12 4, join 8 4, List.take_append_drop]

theorem drop_of_length {cs : List Char} {n : Nat} (h : cs.length = n) {k : Nat} (hk : n ≤ k) :
    cs.drop k = [] :=
  List.drop_eq_nil_of_le (h ▸ hk)

theorem hyphenate_groups {a b c d e : List Char}
    (h : a.length = 8 ∧ b.length = 4 ∧ c.length = 4 ∧ d.length = 4 ∧ e.length = 12) :
    hyphenate (a ++ (b ++ (c ++ (d ++ e)))) =
      a ++ '-' :: (b ++ '-' :: (c ++ '-' :: (d ++ '-' :: e))) := by
  obtain ⟨ha, hb, hc, hd, -⟩ := h
  simp [hyphenate, List.drop_append, ha, hb, hc, hd, drop_of_length ha,
    drop_of_length hb, drop_of_length hc]

theorem ofHyphenated?_groups {a b c d e : List Char}
    (h : a.length = 8 ∧ b.length = 4 ∧ c.length = 4 ∧ d.length = 4 ∧ e.length = 12) :
    ofHyphenated? (a ++ '-' :: (b ++ '-' :: (c ++ '-' :: (d ++ '-' :: e)))) =
      ofDigits? (a ++ (b ++ (c ++ (d ++ e)))) := by
  obtain ⟨ha, hb, hc, hd, he⟩ := h
  have form : (a ++ '-' :: (b ++ '-' :: (c ++ '-' :: (d ++ '-' :: e)))).length = 36 := by
    simp [ha, hb, hc, hd, he]
  rw [ofHyphenated?, if_pos]
  · simp [List.drop_append, ha, hb, hc, hd, drop_of_length ha,
      drop_of_length hb, drop_of_length hc, drop_of_length hd]
  · refine ⟨form, ?_, ?_, ?_, ?_⟩ <;> simp [List.getElem?_append, ha, hb, hc, hd]

/-- Hyphens do not matter where they belong. -/
theorem ofHyphenated?_hyphenate {ds : List Char} (h : ds.length = 32) :
    (hyphenate ds).length = 36 ∧ ofHyphenated? (hyphenate ds) = ofDigits? ds := by
  obtain ⟨a, b, c, d, e, lengths, rfl⟩ := groups h
  rw [hyphenate_groups lengths]
  refine ⟨?_, ofHyphenated?_groups lengths⟩
  obtain ⟨ha, hb, hc, hd, he⟩ := lengths
  simp [ha, hb, hc, hd, he]

/-- Reading the text of an identifier gives the identifier. -/
theorem ofText?_text (u : Uuid) : ofText? u.text = some u := by
  have digits : u.digits.length = 32 := Digits.length_hexField 32 _
  obtain ⟨length, same⟩ := ofHyphenated?_hyphenate digits
  rw [ofText?, text, String.toList_ofList, ofChars?, chars, if_neg (by omega), if_pos length, same]
  exact ofDigits?_digits u

theorem parse_text (u : Uuid) : parse u.text = .ok u := by
  rw [parse, ofText?_text]

end Roster.Uuid
