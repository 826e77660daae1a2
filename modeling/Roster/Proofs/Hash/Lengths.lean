/-
Roster.Proofs.Hash.Lengths — a digest has the length that was asked for.

The state of BLAKE2b is eight words at all times: mixing writes to places of an array
that are there (`size_mixAll`), and what is folded back has the length of the state
(`length_compress`). So 64 bytes can be taken from it, and a longer digest is
put together from front halves (`length_longTail`).
-/
import Roster.Hash.Argon2

namespace Roster.Hash

namespace Blake2b

theorem size_mix (v : Array UInt64) (at4 : Nat × Nat × Nat × Nat) (x y : UInt64) :
    (mix v at4 x y).size = v.size := by
  simp [mix]

theorem size_mixAll (words v : Array UInt64) (places : List (Nat × Nat × Nat × Nat))
    (order : List Nat) : (mixAll words v places order).size = v.size := by
  fun_induction mixAll words v places order with
  | case1 v at4 rest x y order ih => rw [ih, size_mix]
  | case2 => rfl

theorem size_rounds (words v : Array UInt64) (orders : List (List Nat)) :
    (orders.foldl (fun v order => mixAll words v quarters order) v).size = v.size := by
  induction orders generalizing v with
  | nil => rfl
  | cons order orders ih => rw [List.foldl_cons, ih, size_mixAll]

theorem length_start : start.length = 8 := rfl

variable {h : List UInt64}

/-- A block leaves a state of eight words. -/
theorem length_compress (eight : h.length = 8) (block : List UInt8) (count : Nat) (final : Bool) :
    (compress h block count final).length = 8 := by
  simp [compress, size_rounds, eight, length_start]

theorem length_absorb (eight : h.length = 8) (count : Nat) (blocks : List (List UInt8)) :
    (absorb h count blocks).length = 8 := by
  fun_induction absorb h count blocks with
  | case1 h count => exact length_compress eight ..
  | case2 h count last => exact length_compress eight ..
  | case3 h count block next rest ih => exact ih (length_compress eight ..)

/-- The bytes of words, eight for each. -/
theorem length_bytes (words : List UInt64) :
    (words.flatMap fun w => littleBytes 8 w.toNat).length = 8 * words.length := by
  induction words with
  | nil => rfl
  | cons w words ih =>
    rw [List.flatMap_cons, List.length_append, ih, length_littleBytes, List.length_cons]
    omega

theorem length_digest {size : Nat} (h : size ≤ 64) (message : List UInt8) :
    (digest size message).length = size := by
  have eight (parameters : UInt64) :
      (List.zipWith (· ^^^ ·) start (parameters :: List.replicate 7 0)).length = 8 := rfl
  rw [digest, List.length_take, length_bytes, length_absorb (eight _)]
  omega

end Blake2b

namespace Argon2

theorem length_longTail (size : Nat) (v : List UInt8) : (longTail size v).length = size := by
  fun_induction longTail size v with
  | case1 left v short => exact Blake2b.length_digest short v
  | case2 left v long next ih =>
    rw [List.length_append, List.length_take, ih, Blake2b.length_digest (Nat.le_refl 64)]
    omega

/-- A hash has the size that its settings ask for. -/
theorem length_digest (s : Settings) (password salt : List UInt8) :
    (digest s password salt).length = s.size :=
  length_longTail ..

end Argon2

end Roster.Hash
