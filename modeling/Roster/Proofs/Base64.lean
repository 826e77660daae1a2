/-
Roster.Proofs.Base64 — byte strings survive base64.

`sextets` are the six-bit numbers that a text spells: the text is their digits
(`encodeChars_eq`) and packing them gives the bytes back (`pack?_sextets`), so
that decoding undoes encoding in either alphabet. Reading is strict, so that a
byte string has one text only (`encode_decode`). No text of this form holds a
point, which is what tokens join their parts with.
-/
import Roster.Base64

namespace Roster.Base64

/-- The six-bit numbers of a byte string. -/
def sextets : List UInt8 → List Nat
  | [] => []
  | [x] => [x.toNat / 4, x.toNat % 4 * 16]
  | [x, y] => [x.toNat / 4, x.toNat % 4 * 16 + y.toNat / 16, y.toNat % 16 * 4]
  | x :: y :: z :: rest =>
    x.toNat / 4 :: (x.toNat % 4 * 16 + y.toNat / 16) :: (y.toNat % 16 * 4 + z.toNat / 64) ::
      z.toNat % 64 :: sextets rest

theorem encodeChars_eq (a : Base64) (bytes : List UInt8) :
    a.encodeChars bytes = (sextets bytes).map a.digit := by
  induction bytes using sextets.induct with
  | case1 | case2 x | case3 x y => rfl
  | case4 x y z rest ih => simp [encodeChars, sextets, ih]

theorem sextets_lt {bytes : List UInt8} : ∀ n ∈ sextets bytes, n < 64 := by
  induction bytes using sextets.induct with
  | case1 => exact nofun
  | case2 x =>
    have := x.toNat_lt
    simp only [sextets, List.mem_cons, List.not_mem_nil, or_false]
    omega
  | case3 x y =>
    have := x.toNat_lt
    have := y.toNat_lt
    simp only [sextets, List.mem_cons, List.not_mem_nil, or_false]
    omega
  | case4 x y z rest ih =>
    have := x.toNat_lt
    have := y.toNat_lt
    have := z.toNat_lt
    intro n hn
    simp only [sextets, List.mem_cons] at hn
    rcases hn with hn | hn | hn | hn | hn
    · omega
    · omega
    · omega
    · omega
    · exact ih n hn

/-- A number that is the value of a byte makes that byte. -/
theorem ofNat_eq {n : Nat} {x : UInt8} (h : n = x.toNat) : UInt8.ofNat n = x := by
  rw [h, UInt8.ofNat_toNat]

theorem pack?_sextets (bytes : List UInt8) : pack? (sextets bytes) = some bytes := by
  induction bytes using sextets.induct with
  | case1 => rfl
  | case2 x =>
    have hx : x.toNat / 4 * 4 + x.toNat % 4 * 16 / 16 = x.toNat := by omega
    simp only [sextets, pack?, ofNat_eq hx]
    rw [if_pos (Nat.mul_mod_left _ _)]
  | case3 x y =>
    have := y.toNat_lt
    have hx : x.toNat / 4 * 4 + (x.toNat % 4 * 16 + y.toNat / 16) / 16 = x.toNat := by omega
    have hy : (x.toNat % 4 * 16 + y.toNat / 16) % 16 * 16 + y.toNat % 16 * 4 / 4 = y.toNat := by
      omega
    simp only [sextets, pack?, ofNat_eq hx, ofNat_eq hy]
    rw [if_pos (Nat.mul_mod_left _ _)]
  | case4 x y z rest ih =>
    have := y.toNat_lt
    have := z.toNat_lt
    have hx : x.toNat / 4 * 4 + (x.toNat % 4 * 16 + y.toNat / 16) / 16 = x.toNat := by omega
    have hy : (x.toNat % 4 * 16 + y.toNat / 16) % 16 * 16 +
        (y.toNat % 16 * 4 + z.toNat / 64) / 4 = y.toNat := by omega
    have hz : (y.toNat % 16 * 4 + z.toNat / 64) % 4 * 64 + z.toNat % 64 = z.toNat := by omega
    simp only [sextets, pack?, ih, Option.map_some, ofNat_eq hx, ofNat_eq hy, ofNat_eq hz]

theorem mapM_value?_digit (a : Base64) {ns : List Nat} (h : ∀ n ∈ ns, n < 64) :
    (ns.map a.digit).mapM a.value? = some ns := by
  induction ns with
  | nil => rfl
  | cons n ns ih =>
    rw [List.map_cons, List.mapM_cons, value?_digit a (h n List.mem_cons_self),
      ih fun m hm => h m (List.mem_cons_of_mem _ hm)]
    rfl

/-- Decoding undoes encoding. -/
theorem decode?_encode (a : Base64) (bytes : List UInt8) :
    a.decode? (a.encode bytes) = some bytes := by
  rw [decode?, encode, String.toList_ofList, decodeChars?, encodeChars_eq,
    mapM_value?_digit a sextets_lt]
  exact pack?_sextets bytes

theorem decode_encode (a : Base64) (bytes : List UInt8) :
    a.decode (a.encode bytes) = .ok bytes := by
  rw [decode, decode?_encode]

theorem encode_injective (a : Base64) {bytes other : List UInt8}
    (h : a.encode bytes = a.encode other) : bytes = other := by
  have e := decode?_encode a bytes
  rw [h, decode?_encode a other] at e
  exact (Option.some.inj e).symm

/-- A character of the alphabet is the digit of its value. -/
theorem digit_of_value? (a : Base64) {c : Char} {n : Nat} (h : a.value? c = some n) :
    n < 64 ∧ a.digit n = c := by
  have char {k : Nat} (e : k = c.toNat) : Char.ofNat k = c := by rw [e, Char.ofNat_toNat]
  dsimp only [value?] at h
  split at h
  next upper =>
    cases h
    exact ⟨by omega, by
      rw [digit, if_pos (by omega)]
      exact char (by omega)⟩
  split at h
  next lower =>
    cases h
    exact ⟨by omega, by
      rw [digit, if_neg (by omega), if_pos (by omega)]
      exact char (by omega)⟩
  split at h
  next decimal =>
    cases h
    exact ⟨by omega, by
      rw [digit, if_neg (by omega), if_neg (by omega), if_pos (by omega)]
      exact char (by omega)⟩
  split at h
  next first =>
    cases h
    exact ⟨by omega, first.symm⟩
  split at h
  next second =>
    cases h
    exact ⟨by omega, second.symm⟩
  · cases h

theorem mapM_value?_eq_some (a : Base64) {cs : List Char} {ns : List Nat}
    (h : cs.mapM a.value? = some ns) : (∀ n ∈ ns, n < 64) ∧ ns.map a.digit = cs := by
  induction cs generalizing ns with
  | nil =>
    cases h
    exact ⟨nofun, rfl⟩
  | cons c cs ih =>
    rw [List.mapM_cons] at h
    obtain ⟨n, value, h⟩ := Option.bind_eq_some_iff.1 h
    obtain ⟨rest, values, h⟩ := Option.bind_eq_some_iff.1 h
    cases h
    obtain ⟨lt, digit⟩ := digit_of_value? a value
    obtain ⟨lts, digits⟩ := ih values
    exact ⟨List.forall_mem_cons.2 ⟨lt, lts⟩, by rw [List.map_cons, digit, digits]⟩

/-- Numbers that pack into bytes are those that the bytes spell. -/
theorem sextets_of_pack? {ns : List Nat} {bytes : List UInt8} (lt : ∀ n ∈ ns, n < 64)
    (h : pack? ns = some bytes) : sextets bytes = ns := by
  have byte {n : Nat} (h : n < 256) : (UInt8.ofNat n).toNat = n := by
    rw [UInt8.toNat_ofNat', Nat.mod_eq_of_lt h]
  induction ns using pack?.induct generalizing bytes with
  | case1 =>
    cases h
    rfl
  | case2 p => cases h
  | case3 p q zero =>
    simp only [pack?, zero, if_true] at h
    cases h
    have := lt p (by simp)
    have := lt q (by simp)
    simp only [sextets, byte (by omega : p * 4 + q / 16 < 256)]
    congr 2 <;> omega
  | case4 p q nonzero => simp [pack?, nonzero] at h
  | case5 p q r zero =>
    simp only [pack?, zero, if_true] at h
    cases h
    have := lt p (by simp)
    have := lt q (by simp)
    have := lt r (by simp)
    simp only [sextets, byte (by omega : p * 4 + q / 16 < 256),
      byte (by omega : q % 16 * 16 + r / 4 < 256)]
    congr 3 <;> omega
  | case6 p q r nonzero => simp [pack?, nonzero] at h
  | case7 p q r s rest ih =>
    obtain ⟨more, packed, h⟩ := Option.map_eq_some_iff.1 h
    cases h
    have := lt p (by simp)
    have := lt q (by simp)
    have := lt r (by simp)
    have := lt s (by simp)
    have tail := ih (fun n hn => lt n (by simp [hn])) packed
    simp only [sextets, tail, byte (by omega : p * 4 + q / 16 < 256),
      byte (by omega : q % 16 * 16 + r / 4 < 256), byte (by omega : r % 4 * 64 + s < 256)]
    congr 1
    · omega
    congr 1
    · omega
    congr 1
    · omega
    congr 1
    omega

/-- A text that can be read is the text of its bytes. -/
theorem encode_of_decode? (a : Base64) {s : String} {bytes : List UInt8}
    (h : a.decode? s = some bytes) : a.encode bytes = s := by
  obtain ⟨ns, values, packed⟩ := Option.bind_eq_some_iff.1 h
  obtain ⟨lt, digits⟩ := mapM_value?_eq_some a values
  rw [encode, encodeChars_eq, sextets_of_pack? lt packed, digits, String.ofList_toList]

theorem encode_decode (a : Base64) {s : String} {bytes : List UInt8}
    (h : a.decode s = .ok bytes) : a.encode bytes = s := by
  rw [decode] at h
  split at h
  next read =>
    cases h
    exact encode_of_decode? a read
  next => cases h

/-- The characters that can be read are those of the bytes. -/
theorem decodeChars?_eq_some (a : Base64) {cs : List Char} {bytes : List UInt8} :
    a.decodeChars? cs = some bytes ↔ cs = a.encodeChars bytes := by
  constructor
  · intro h
    have text : a.decode? (String.ofList cs) = some bytes := by
      rw [decode?, String.toList_ofList, h]
    have := congrArg String.toList (encode_of_decode? a text)
    rw [encode, String.toList_ofList, String.toList_ofList] at this
    exact this.symm
  · rintro rfl
    have := decode?_encode a bytes
    rwa [decode?, encode, String.toList_ofList] at this

/-- Four characters for three bytes, and no padding. -/
theorem length_encodeChars (a : Base64) (bytes : List UInt8) :
    (a.encodeChars bytes).length = (bytes.length * 4 + 2) / 3 := by
  induction bytes using sextets.induct with
  | case1 | case2 x | case3 x y => simp [encodeChars]
  | case4 x y z rest ih =>
    simp only [encodeChars, List.length_cons, ih]
    omega

theorem digit_ne_point (a : Base64) {n : Nat} (h : n < 64) : a.digit n ≠ '.' := by
  have all : ∀ (a : Base64) (k : Fin 64), a.digit k.val ≠ '.' := by
    intro a
    cases a <;> decide
  exact all a ⟨n, h⟩

/-- No point stands in the text of a byte string. -/
theorem point_not_mem (a : Base64) (bytes : List UInt8) : '.' ∉ (a.encode bytes).toList := by
  rw [encode, String.toList_ofList, encodeChars_eq, List.mem_map]
  rintro ⟨n, hn, e⟩
  exact digit_ne_point a (sextets_lt n hn) e

end Roster.Base64
