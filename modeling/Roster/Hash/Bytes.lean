/-
Roster.Hash.Bytes — words and byte strings for the hash functions.

A word is loaded from and stored to its bytes in either order; a byte string is
cut into pieces of equal length, of which only the last may be shorter.
-/
namespace Roster.Hash

/-- The number whose base-256 digits are the bytes, most significant first. -/
def bigEndian (bytes : List UInt8) : Nat :=
  bytes.foldl (fun n b => n * 256 + b.toNat) 0

/-- The number whose base-256 digits are the bytes, least significant first. -/
def littleEndian (bytes : List UInt8) : Nat :=
  bytes.foldr (fun b n => b.toNat + 256 * n) 0

/-- The lowest `width` bytes of a number, least significant first. -/
def littleBytes : Nat → Nat → List UInt8
  | 0, _ => []
  | width + 1, n => UInt8.ofNat n :: littleBytes width (n / 256)

/-- The lowest `width` bytes of a number, most significant first. -/
def bigBytes (width n : Nat) : List UInt8 := (littleBytes width n).reverse

theorem length_littleBytes (width n : Nat) : (littleBytes width n).length = width := by
  induction width generalizing n with
  | zero => rfl
  | succ width ih => simp [littleBytes, ih]

/-- Cuts a byte string into pieces of `size + 1` bytes; the last one may be shorter. -/
def pieces (size : Nat) : List UInt8 → List (List UInt8)
  | [] => []
  | b :: rest => (b :: rest.take size) :: pieces size (rest.drop size)
termination_by bytes => bytes.length
decreasing_by simp only [List.length_drop, List.length_cons]; omega

/-- The bytes of a text in UTF-8. -/
def textBytes (s : String) : List UInt8 := s.toUTF8.data.toList

end Roster.Hash
