/-
Roster.Proofs.Text.Splitting — a text in pieces.

Paths, lists of origins and lists of addresses are read in the pieces between
two occurrences of one character. `String.splitOn` looks for a separator of any
length and is stuck where a proof would run it; for a single character it goes
the same way as `String.splitToList` (`splitOnAux_singleton`), so the pieces are
those of the list of characters (`splitOn_singleton`), which can be computed.
-/
import Mathlib.Data.String.Basic

namespace Roster.Text

open String

theorem splitOnAux_singleton (s : String) (c : Char) (b i : Pos.Raw) (acc : List String) :
    s.splitOnAux (singleton c) b i 0 acc = s.splitAux (· == c) b i acc := by
  have first : Pos.Raw.get (singleton c) 0 = c := get_of_valid [] [c]
  have past : Pos.Raw.next (singleton c) 0 = ⟨c.utf8Size⟩ := by
    show (0 : Pos.Raw) + Pos.Raw.get (singleton c) 0 = _
    rw [first]
    exact Pos.Raw.ext (Nat.zero_add _)
  have last : Pos.Raw.atEnd (singleton c) ⟨c.utf8Size⟩ = true := by
    simpa using atEnd_of_valid [c] []
  fun_induction s.splitAux (· == c) b i acc with
  | case1 b i acc done =>
    unfold splitOnAux
    rw [if_pos done]
  | case2 b i acc more _ found _ ih =>
    -- The piece ends where the separator starts.
    have back : (i.next s).unoffsetBy ⟨c.utf8Size⟩ = i := by
      rw [← beq_iff_eq.1 found]
      exact Pos.Raw.ext (Nat.add_sub_cancel ..)
    unfold splitOnAux
    rw [if_neg more, first, if_pos found]
    simp only [past, last, back]
    exact ih
  | case3 b i acc more _ other ih =>
    have back : i.unoffsetBy 0 = i := rfl
    unfold splitOnAux
    rw [if_neg more, first, if_neg other, back]
    exact ih

theorem splitOn_singleton (s : String) (c : Char) :
    s.splitOn (singleton c) = (s.toList.splitOnP (· == c)).map ofList := by
  have some : (singleton c == "") = false := by
    simp
  rw [splitOn, some, ← splitToList_of_valid, splitToList, ← splitOnAux_singleton]
  rfl

end Roster.Text
