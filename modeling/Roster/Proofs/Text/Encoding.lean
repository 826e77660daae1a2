/-
Roster.Proofs.Text.Encoding — texts as their UTF-8 bytes.

`utf8` is the byte list of a list of characters. Strings enter and leave the
proofs about bytes here only: their bytes are `utf8` (`textBytes_eq`), and
`utf8` is what a strict decoder gives back (`fromUTF8?_utf8`). An ASCII
character is one byte and all bytes of any other are 128 and more, which is all
that the JSON grammar asks of a character.
-/
import Roster.Hash.Bytes
import Roster.Json.Reader

namespace Roster.Text

/-- The bytes of a list of characters. -/
def utf8 (cs : List Char) : List UInt8 := cs.flatMap String.utf8EncodeChar

@[simp] theorem utf8_nil : utf8 [] = [] := rfl

@[simp] theorem utf8_cons (c : Char) (cs : List Char) :
    utf8 (c :: cs) = String.utf8EncodeChar c ++ utf8 cs := by
  simp [utf8]

@[simp] theorem utf8_append (cs ds : List Char) : utf8 (cs ++ ds) = utf8 cs ++ utf8 ds := by
  simp [utf8]

theorem textBytes_ofList (cs : List Char) : Hash.textBytes (String.ofList cs) = utf8 cs := by
  show (cs.flatMap String.utf8EncodeChar).toByteArray.data.toList = utf8 cs
  rw [List.toList_data_toByteArray, utf8]

theorem textBytes_eq (s : String) : Hash.textBytes s = utf8 s.toList := by
  rw [← textBytes_ofList, String.ofList_toList]

/-- Decoding the bytes of characters gives their string. -/
theorem fromUTF8?_utf8 (cs : List Char) :
    String.fromUTF8? ⟨(utf8 cs).toArray⟩ = some (String.ofList cs) := by
  have e : (⟨(utf8 cs).toArray⟩ : ByteArray) = cs.utf8Encode := by
    apply ByteArray.ext
    apply Array.ext'
    simp [List.utf8Encode, utf8]
  have valid : cs.utf8Encode.IsValidUTF8 := .intro cs rfl
  rw [e, String.fromUTF8?, dif_pos valid]
  rfl

/-- Different characters have different bytes. -/
theorem utf8_injective {cs ds : List Char} (h : utf8 cs = utf8 ds) : cs = ds := by
  have hc := fromUTF8?_utf8 cs
  rw [h, fromUTF8?_utf8 ds] at hc
  exact (String.ofList_injective (Option.some.inj hc)).symm

/-! ## ASCII -/

theorem utf8EncodeChar_of_lt {c : Char} (h : c.toNat < 0x80) :
    String.utf8EncodeChar c = [UInt8.ofNat c.toNat] := by
  have : c.val.toNat ≤ 0x7F := by
    show c.toNat ≤ 0x7F
    omega
  rw [String.utf8EncodeChar, if_pos this]
  rfl

theorem le_toNat_ofNat {k base : Nat} (hk : 0 < k) (low : 0x80 ≤ base) (high : base + k ≤ 0x100)
    (x : Nat) : 0x80 ≤ (UInt8.ofNat (x % k + base)).toNat := by
  have := Nat.mod_lt x hk
  rw [UInt8.toNat_ofNat', Nat.mod_eq_of_lt (by omega)]
  omega

/-- Beyond ASCII every byte has its high bit set. -/
theorem le_of_mem_utf8EncodeChar {c : Char} (h : 0x80 ≤ c.toNat) {b : UInt8}
    (hb : b ∈ String.utf8EncodeChar c) : 0x80 ≤ b.toNat := by
  have high : ¬c.val.toNat ≤ 0x7F := by
    show ¬c.toNat ≤ 0x7F
    omega
  rw [String.utf8EncodeChar, if_neg high] at hb
  split at hb
  · simp only [List.mem_cons, List.not_mem_nil, or_false] at hb
    rcases hb with rfl | rfl <;> exact le_toNat_ofNat (by decide) (by decide) (by decide) _
  · split at hb
    · simp only [List.mem_cons, List.not_mem_nil, or_false] at hb
      rcases hb with rfl | rfl | rfl <;> exact le_toNat_ofNat (by decide) (by decide) (by decide) _
    · simp only [List.mem_cons, List.not_mem_nil, or_false] at hb
      rcases hb with rfl | rfl | rfl | rfl <;>
        exact le_toNat_ofNat (by decide) (by decide) (by decide) _

/-- Characters below 128 as bytes, one each. -/
theorem utf8_of_ascii {cs : List Char} (h : ∀ c ∈ cs, c.toNat < 0x80) :
    utf8 cs = cs.map fun c => UInt8.ofNat c.toNat := by
  induction cs with
  | nil => rfl
  | cons c cs ih =>
    rw [utf8_cons, utf8EncodeChar_of_lt (h c List.mem_cons_self),
      ih fun d hd => h d (List.mem_cons_of_mem _ hd)]
    rfl

/-! ## Byte arrays -/

theorem toList_loop (bytes : ByteArray) (i : Nat) (acc : List UInt8) :
    ByteArray.toList.loop bytes i acc = acc.reverse ++ bytes.data.toList.drop i := by
  fun_induction ByteArray.toList.loop bytes i acc with
  | case1 i acc h ih =>
    have inside : i < bytes.data.toList.length := by simpa using h
    have byte : bytes.get! i = bytes.data.toList[i] := by
      simp [ByteArray.get!, h]
    rw [ih, List.drop_eq_getElem_cons inside, byte]
    simp
  | case2 i acc h =>
    have outside : bytes.data.toList.length ≤ i := by simpa using h
    simp [List.drop_eq_nil_of_le outside]

theorem bytesOf_eq (s : String) : Json.Reader.bytesOf s = utf8 s.toList := by
  rw [← textBytes_eq]
  show ByteArray.toList.loop s.toUTF8 0 [] = s.toUTF8.data.toList
  rw [toList_loop]
  rfl

end Roster.Text
