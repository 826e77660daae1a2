/-
Roster.Proofs.Password.Grammar — which texts are stored hashes, and of what.

A `Form` is a stored hash field by field, as it may be written: with or without its
version, with settings in any order and number. `Form.chars` writes it down and
`Form.stored?` says what it means. Reading is the inverse of that, for all texts:
what is read from a text is what some form means that the text writes down, and there is nothing to
read in other texts (`ofText?_eq_some`). Fields, settings, and names and values are
told apart by three characters that stand in none of them (§1); a number and
a byte string have one text each (§2).
-/
import Roster.Password.Stored
import Roster.Proofs.Base64
import Roster.Proofs.Digits

namespace Roster.Password

open Hash.Argon2 (Cost Kind Settings Version)

namespace Stored

/-! ## §1 Pieces -/

variable {c : Char} {cs field : List Char} {pieces : List (List Char)}

theorem splitAt_eq_splitOn (c : Char) (cs : List Char) : splitAt c cs = cs.splitOn c := by
  induction cs with
  | nil => rfl
  | cons d cs ih =>
    rw [splitAt, List.splitOn_cons_eq_if_modifyHead, ih]
    by_cases e : d = c
    · simp [e]
    · simp only [e, beq_iff_eq, if_false]
      cases pieces : cs.splitOn c with
      | nil => exact absurd pieces (List.splitOn_ne_nil c cs)
      | cons piece pieces => rfl

theorem splitAt_intercalate (apart : ∀ piece ∈ pieces, c ∉ piece) (some : pieces ≠ []) :
    splitAt c ([c].intercalate pieces) = pieces := by
  rw [splitAt_eq_splitOn, List.splitOn_intercalate c apart some]

theorem intercalate_splitAt (h : splitAt c cs = pieces) : cs = [c].intercalate pieces := by
  rw [← h, splitAt_eq_splitOn, List.intercalate_splitOn]

/-- None of the three separators is part of a value. -/
theorem not_mem_of_values (h : ∀ d ∈ cs, isValueChar d = true) :
    '$' ∉ cs ∧ ',' ∉ cs ∧ '=' ∉ cs := by
  refine ⟨fun m => ?_, fun m => ?_, fun m => ?_⟩ <;>
  · have := h _ m
    revert this
    decide

/-! ## §2 Values -/

theorem isValueChar_of_isDigit (h : c.isDigit = true) : isValueChar c = true := by
  simp [isValueChar, Char.isAlphanum, h]

theorem values_decimal (n : Nat) : ∀ d ∈ Digits.decimal n, isValueChar d = true :=
  fun _ hd => isValueChar_of_isDigit (Digits.isDigit_of_mem_decimal hd)

theorem values_encodeChars (bytes : List UInt8) :
    ∀ d ∈ Base64.standard.encodeChars bytes, isValueChar d = true := by
  have all : ∀ k : Fin 64, isValueChar (Base64.standard.digit k.val) = true := by decide
  intro d hd
  rw [Base64.encodeChars_eq, List.mem_map] at hd
  obtain ⟨k, hk, rfl⟩ := hd
  exact all ⟨k, Base64.sextets_lt k hk⟩

/-- A number has one text, without leading zeros. -/
theorem number?_eq_some {n : Nat} :
    number? cs = some n ↔ cs = Digits.decimal n ∧ n < 0x100000000 := by
  constructor
  · intro h
    unfold number? at h
    split at h
    · cases h
    · cases h
      exact ⟨by rw [Digits.decimal, Digits.decimalOnto]; rfl, by decide⟩
    · cases h
    · rename_i empty _ zero
      obtain ⟨spelled, small⟩ := Option.filter_eq_some_iff.1 h
      refine ⟨?_, by simpa using small⟩
      cases cs with
      | nil => exact absurd rfl empty
      | cons d cs =>
        exact (Digits.decimal_of_decimalFold? (fun e => zero cs (e ▸ rfl)) spelled).symm
  · rintro ⟨rfl, small⟩
    by_cases zero : n = 0
    · subst zero
      rw [Digits.decimal, Digits.decimalOnto]
      rfl
    · obtain ⟨d, rest, first, e⟩ :=
        Digits.exists_decimalOnto_cons (Nat.pos_of_ne_zero zero) []
      have spelled := Digits.decimalFold?_decimal n
      unfold number?
      rw [Digits.decimal, e] at spelled ⊢
      split
      · rename_i nil
        cases nil
      · rename_i single
        cases single
        exact absurd rfl first
      · rename_i leading
        cases leading
        exact absurd rfl first
      · rw [spelled, Option.filter_eq_some_iff]
        exact ⟨rfl, by simpa using small⟩

theorem shortBytes?_eq_some {most : Nat} {bytes : List UInt8} :
    shortBytes? most cs = some bytes ↔
      cs = Base64.standard.encodeChars bytes ∧ bytes.length ≤ most := by
  simp [shortBytes?, Option.filter_eq_some_iff, Base64.decodeChars?_eq_some]

theorem length_decimal_le {n : Nat} (small : n < 0x100000000) : (Digits.decimal n).length ≤ 10 := by
  have width : n < Nat.pow 10 (9 + 1) := show n < 10000000000 by omega
  exact Digits.length_decimalOnto_le width []

theorem isValue_decimal {n : Nat} (small : n < 0x100000000) :
    isValue (Digits.decimal n) = true := by
  have short : (Digits.decimal n).length ≤ 64 := Nat.le_trans (length_decimal_le small) (by decide)
  simp [isValue, short, List.all_eq_true.2 (values_decimal n)]

theorem isValue_encodeChars {bytes : List UInt8} (short : bytes.length ≤ 48) :
    isValue (Base64.standard.encodeChars bytes) = true := by
  have : (Base64.standard.encodeChars bytes).length ≤ 64 := by
    rw [Base64.length_encodeChars]
    omega
  simp [isValue, this, List.all_eq_true.2 (values_encodeChars bytes)]

end Stored

/-! ## §3 Settings -/

open Stored (Parameters)

/-- A setting as it may be written. -/
inductive Setting where
  | memory (n : Nat)
  | passes (n : Nat)
  | lanes (n : Nat)
  /-- Names a key, which is not looked at. -/
  | keyId (bytes : List UInt8)
  | data (bytes : List UInt8)

namespace Setting

def name : Setting → List Char
  | memory _ => ['m']
  | passes _ => ['t']
  | lanes _ => ['p']
  | keyId _ => ['k', 'e', 'y', 'i', 'd']
  | data _ => ['d', 'a', 't', 'a']

def value : Setting → List Char
  | memory n | passes n | lanes n => Digits.decimal n
  | keyId bytes | data bytes => Base64.standard.encodeChars bytes

def chars (x : Setting) : List Char := x.name ++ '=' :: x.value

/-- The bounds of a setting. -/
def Legal : Setting → Prop
  | memory n | passes n | lanes n => n < 0x100000000
  | keyId bytes => bytes.length ≤ 8
  | data bytes => bytes.length ≤ 32

/-- What a setting sets. -/
def apply (s : Parameters) : Setting → Parameters
  | memory n => { s with memory := n }
  | passes n => { s with passes := n }
  | lanes n => { s with lanes := n }
  | keyId _ => s
  | data bytes => { s with data := bytes }

variable {x : Setting} {s s' : Parameters} {field : List Char}

theorem values_value (x : Setting) : ∀ c ∈ x.value, Stored.isValueChar c = true := by
  cases x with
  | memory n | passes n | lanes n => exact Stored.values_decimal n
  | keyId bytes | data bytes => exact Stored.values_encodeChars bytes

theorem isValue_value (h : x.Legal) : Stored.isValue x.value = true := by
  cases x with
  | memory n | passes n | lanes n => exact Stored.isValue_decimal h
  | keyId bytes | data bytes =>
    simp only [Legal] at h
    exact Stored.isValue_encodeChars (by omega)

/-- The name and the value of a setting are found on the two sides of its one equals sign. -/
theorem parameter?_chars (h : x.Legal) : Stored.parameter? x.chars = some (x.name, x.value) := by
  have apart : ∀ piece ∈ [x.name, x.value], '=' ∉ piece := by
    intro piece hpiece
    simp only [List.mem_cons, List.not_mem_nil, or_false] at hpiece
    rcases hpiece with rfl | rfl
    · cases x <;> simp [name]
    · exact (Stored.not_mem_of_values x.values_value).2.2
  have split : Stored.splitAt '=' x.chars = [x.name, x.value] := by
    simpa [chars, List.intercalate] using Stored.splitAt_intercalate apart (by simp)
  have named : Stored.isName x.name = true := by cases x <;> rfl
  rw [Stored.parameter?, split]
  simp [named, isValue_value h]

theorem chars_of_parameter? {name value : List Char}
    (h : Stored.parameter? field = some (name, value)) : field = name ++ '=' :: value := by
  unfold Stored.parameter? at h
  split at h
  · rename_i split
    split at h
    · cases h
      simpa [List.intercalate] using Stored.intercalate_splitAt split
    · cases h
  · cases h

theorem setParameter?_eq_some {name value : List Char} :
    Stored.setParameter? s (name, value) = some s' ↔
      ∃ x : Setting, x.Legal ∧ x.name = name ∧ x.value = value ∧ x.apply s = s' := by
  constructor
  · intro h
    unfold Stored.setParameter? at h
    split at h
    case h_1 e =>
      cases e
      obtain ⟨n, read, rfl⟩ := Option.map_eq_some_iff.1 h
      obtain ⟨rfl, small⟩ := Stored.number?_eq_some.1 read
      exact ⟨.memory n, small, rfl, rfl, rfl⟩
    case h_2 e =>
      cases e
      obtain ⟨n, read, rfl⟩ := Option.map_eq_some_iff.1 h
      obtain ⟨rfl, small⟩ := Stored.number?_eq_some.1 read
      exact ⟨.passes n, small, rfl, rfl, rfl⟩
    case h_3 e =>
      cases e
      obtain ⟨n, read, rfl⟩ := Option.map_eq_some_iff.1 h
      obtain ⟨rfl, small⟩ := Stored.number?_eq_some.1 read
      exact ⟨.lanes n, small, rfl, rfl, rfl⟩
    case h_4 e =>
      cases e
      split at h
      · rename_i keyId
        obtain ⟨bytes, read, rfl⟩ := Option.map_eq_some_iff.1 h
        obtain ⟨rfl, short⟩ := Stored.shortBytes?_eq_some.1 read
        exact ⟨.keyId bytes, short, keyId.symm, rfl, rfl⟩
      · split at h
        · rename_i data
          obtain ⟨bytes, read, rfl⟩ := Option.map_eq_some_iff.1 h
          obtain ⟨rfl, short⟩ := Stored.shortBytes?_eq_some.1 read
          exact ⟨.data bytes, short, data.symm, rfl, rfl⟩
        · cases h
  · rintro ⟨x, legal, rfl, rfl, rfl⟩
    cases x with
    | memory n | passes n | lanes n =>
      have read := Stored.number?_eq_some.2 ⟨rfl, legal⟩
      simp only [name, value, Stored.setParameter?, read]
      rfl
    | keyId bytes | data bytes =>
      have read := Stored.shortBytes?_eq_some.2 ⟨rfl, legal⟩
      simp [name, value, Stored.setParameter?, read, apply]

/-- Reading settings one after another, each over those before. -/
theorem foldlM_setParameter? {xs : List Setting} (legal : ∀ x ∈ xs, x.Legal) (s : Parameters) :
    (xs.map fun x => (x.name, x.value)).foldlM Stored.setParameter? s =
      some (xs.foldl apply s) := by
  induction xs generalizing s with
  | nil => rfl
  | cons x xs ih =>
    obtain ⟨first, others⟩ := List.forall_mem_cons.1 legal
    have read : Stored.setParameter? s (x.name, x.value) = some (x.apply s) :=
      setParameter?_eq_some.2 ⟨x, first, rfl, rfl, rfl⟩
    rw [List.map_cons, List.foldlM_cons, read]
    exact ih others (x.apply s)

theorem mapM_parameter? {xs : List Setting} (legal : ∀ x ∈ xs, x.Legal) :
    (xs.map chars).mapM Stored.parameter? = some (xs.map fun x => (x.name, x.value)) := by
  induction xs with
  | nil => rfl
  | cons x xs ih =>
    obtain ⟨first, others⟩ := List.forall_mem_cons.1 legal
    rw [List.map_cons, List.mapM_cons, parameter?_chars first, ih others]
    rfl

/-- Pieces that can be read are settings in writing. -/
theorem exists_settings {pieces : List (List Char)} {pairs : List (List Char × List Char)}
    (read : pieces.mapM Stored.parameter? = some pairs)
    (set : pairs.foldlM Stored.setParameter? s = some s') :
    ∃ xs : List Setting, (∀ x ∈ xs, x.Legal) ∧ xs.map chars = pieces ∧ xs.foldl apply s = s' := by
  induction pieces generalizing s pairs with
  | nil =>
    cases read
    cases set
    exact ⟨[], nofun, rfl, rfl⟩
  | cons piece pieces ih =>
    rw [List.mapM_cons] at read
    obtain ⟨⟨name, value⟩, first, read⟩ := Option.bind_eq_some_iff.1 read
    obtain ⟨others, rest, read⟩ := Option.bind_eq_some_iff.1 read
    cases read
    rw [List.foldlM_cons] at set
    obtain ⟨between, one, set⟩ := Option.bind_eq_some_iff.1 set
    obtain ⟨x, legal, rfl, rfl, rfl⟩ := setParameter?_eq_some.1 one
    obtain ⟨xs, legals, written, rfl⟩ := ih rest set
    refine ⟨x :: xs, List.forall_mem_cons.2 ⟨legal, legals⟩, ?_, rfl⟩
    rw [List.map_cons, written, chars_of_parameter? first, chars]

/-- Settings in one field. -/
def joined (xs : List Setting) : List Char := [','].intercalate (xs.map chars)

theorem not_mem_chars (x : Setting) : '$' ∉ x.chars ∧ ',' ∉ x.chars := by
  obtain ⟨dollar, comma, -⟩ := Stored.not_mem_of_values x.values_value
  cases x <;> exact ⟨by simpa [chars, name] using dollar, by simpa [chars, name] using comma⟩

theorem dollar_not_mem_joined (xs : List Setting) : '$' ∉ joined xs := by
  induction xs with
  | nil => exact List.not_mem_nil
  | cons x xs ih =>
    cases xs with
    | nil => simpa [joined] using x.not_mem_chars.1
    | cons y ys =>
      simp only [joined, List.map_cons] at ih ⊢
      rw [List.intercalate_cons_cons]
      simp [x.not_mem_chars.1, ih]

theorem parameters?_eq_some {field : List Char} :
    Stored.parameters? field = some s' ↔ ∃ xs : List Setting, xs ≠ [] ∧ (∀ x ∈ xs, x.Legal) ∧
      field = Setting.joined xs ∧ field.length ≤ 127 ∧ xs.foldl apply {} = s' := by
  have unfolded : Stored.parameters? field = if field.length > 127 then none else
      ((Stored.splitAt ',' field).mapM Stored.parameter?).bind
        fun pairs => pairs.foldlM Stored.setParameter? {} := by
    unfold Stored.parameters?
    split <;> rfl
  rw [unfolded]
  constructor
  · intro h
    split at h
    · cases h
    · rename_i short
      obtain ⟨pairs, read, set⟩ := Option.bind_eq_some_iff.1 h
      obtain ⟨xs, legal, written, sets⟩ := exists_settings read set
      refine ⟨xs, ?_, legal, ?_, by omega, sets⟩
      · rintro rfl
        rw [Stored.splitAt_eq_splitOn] at written
        exact List.splitOn_ne_nil _ _ written.symm
      · exact Stored.intercalate_splitAt written.symm
  · rintro ⟨xs, some, legal, rfl, short, rfl⟩
    have apart : ∀ piece ∈ xs.map chars, ',' ∉ piece := by
      intro piece hpiece
      obtain ⟨x, -, rfl⟩ := List.mem_map.1 hpiece
      exact x.not_mem_chars.2
    rw [if_neg (by omega), Setting.joined, Stored.splitAt_intercalate apart (by simpa using some),
      mapM_parameter? legal]
    exact foldlM_setParameter? legal {}

end Setting

/-! ## §4 Texts -/

namespace Stored

variable {field : List Char} {bytes : List UInt8} {s : Stored} {kind : Kind} {version : Version}

theorem salt?_eq_some :
    salt? field = some bytes ↔
      field = Base64.standard.encodeChars bytes ∧ 8 ≤ bytes.length ∧ bytes.length ≤ 48 := by
  have unfolded : salt? field = if field.length < 4 ∨ field.length > 64 then none else
      (Base64.standard.decodeChars? field).filter fun bytes => 8 ≤ bytes.length := by
    unfold salt?
    split
    · rfl
    · cases Base64.standard.decodeChars? field with
      | none => rfl
      | some bytes =>
        by_cases short : bytes.length < 8 <;> simp [Option.filter, short]
  rw [unfolded]
  constructor
  · intro h
    split at h
    · cases h
    · rename_i within
      obtain ⟨read, least⟩ := Option.filter_eq_some_iff.1 h
      obtain rfl := (Base64.decodeChars?_eq_some _).1 read
      rw [Base64.length_encodeChars] at within
      exact ⟨rfl, by simpa using least, by omega⟩
  · rintro ⟨rfl, least, most⟩
    have within := Base64.standard.length_encodeChars bytes
    rw [if_neg (by omega), Option.filter_eq_some_iff]
    exact ⟨(Base64.decodeChars?_eq_some _).2 rfl, by simpa using least⟩

theorem digest?_eq_some :
    digest? field = some bytes ↔
      field = Base64.standard.encodeChars bytes ∧ 10 ≤ bytes.length ∧ bytes.length ≤ 64 := by
  have unfolded : digest? field = (Base64.standard.decodeChars? field).filter fun bytes =>
      10 ≤ bytes.length ∧ bytes.length ≤ 64 := by
    unfold digest?
    cases Base64.standard.decodeChars? field with
    | none => rfl
    | some bytes =>
      by_cases out : bytes.length < 10 ∨ bytes.length > 64
      · have : ¬(10 ≤ bytes.length ∧ bytes.length ≤ 64) := by omega
        simp [Option.filter, out, this]
      · have : 10 ≤ bytes.length ∧ bytes.length ≤ 64 := by omega
        simp [Option.filter, out, this]
  rw [unfolded, Option.filter_eq_some_iff, Base64.decodeChars?_eq_some]
  simp

/-- A version has one field. -/
def versionField (v : Version) : List Char := 'v' :: '=' :: Digits.decimal v.code

theorem code_of_ofCode? {n : Nat} (h : Version.ofCode? n = some version) : version.code = n := by
  unfold Version.ofCode? at h
  split at h
  · rename_i e
    cases h
    exact e.symm
  · split at h
    · rename_i e
      cases h
      exact e.symm
    · cases h

theorem version?_eq_some : version? field = some (some version) ↔ field = versionField version := by
  constructor
  · intro h
    unfold version? at h
    split at h
    · rename_i value
      split at h
      · cases h
      · split at h
        · obtain ⟨n, read, code⟩ := Option.bind_eq_some_iff.1 (Option.some.inj h)
          obtain ⟨rfl, -⟩ := number?_eq_some.1 read
          rw [versionField, code_of_ofCode? code]
        · cases h
    · cases h
  · rintro rfl
    have small : version.code < 0x100000000 := by cases version <;> decide
    have comma := (not_mem_of_values (values_decimal version.code)).2.1
    have read := number?_eq_some.2 ⟨rfl, small⟩
    have apart : (versionField version).contains ',' = false := by
      simpa [versionField] using comma
    show (if (versionField version).contains ',' then none else
      some (if isValue (Digits.decimal version.code) then
        (number? (Digits.decimal version.code)).bind Version.ofCode? else none)) = _
    rw [if_neg (Bool.eq_false_iff.1 apart), if_pos (isValue_decimal small), read]
    simp

/-- What does not begin like a version is none. -/
theorem version?_eq_none (h : ∀ value, field ≠ 'v' :: '=' :: value) : version? field = none := by
  unfold version?
  split
  · rename_i value
    exact absurd rfl (h value)
  · rfl

end Stored

/-- The end of a stored hash as it may be written; without settings, their field is left out. -/
structure Body where
  settings : List Setting
  salt : List UInt8
  digest : List UInt8

namespace Body

def fields (b : Body) : List (List Char) :=
  (if b.settings.isEmpty then [] else [Setting.joined b.settings]) ++
    [Base64.standard.encodeChars b.salt, Base64.standard.encodeChars b.digest]

/-- The bounds on what is written. -/
structure Legal (b : Body) : Prop where
  settings : ∀ x ∈ b.settings, x.Legal
  width : (Setting.joined b.settings).length ≤ 127
  salt : 8 ≤ b.salt.length ∧ b.salt.length ≤ 48
  digest : 10 ≤ b.digest.length ∧ b.digest.length ≤ 64

/-- What the settings set, over the defaults. -/
def parameters (b : Body) : Parameters := b.settings.foldl Setting.apply {}

/-- What is stored, if the cost is one that can be paid. -/
def stored? (b : Body) (kind : Kind) (version : Version) : Option Stored :=
  let p := b.parameters
  (makeCost p.memory p.passes p.lanes).toOption.map fun cost =>
    ⟨⟨kind, version, cost, b.digest.length, p.data⟩, b.salt, b.digest⟩

variable {b : Body} {kind : Kind} {version : Version} {p : Parameters} {s : Stored}
  {fields : List (List Char)}

theorem ok_of_toOption {ε α : Type} {r : Except ε α} {a : α} (h : r.toOption = some a) :
    r = .ok a := by
  cases r with
  | error e => cases h
  | ok b => exact congrArg Except.ok (Option.some.inj h)

theorem ofEnd?_eq_some :
    Stored.ofEnd? kind version p fields = some s ↔ ∃ salt digest cost,
      (8 ≤ salt.length ∧ salt.length ≤ 48) ∧ (10 ≤ digest.length ∧ digest.length ≤ 64) ∧
      makeCost p.memory p.passes p.lanes = .ok cost ∧
      fields = [Base64.standard.encodeChars salt, Base64.standard.encodeChars digest] ∧
      s = ⟨⟨kind, version, cost, digest.length, p.data⟩, salt, digest⟩ := by
  constructor
  · intro h
    unfold Stored.ofEnd? at h
    split at h
    · obtain ⟨salt, first, rest⟩ := Option.bind_eq_some_iff.1 h
      obtain ⟨digest, second, rest⟩ := Option.bind_eq_some_iff.1 rest
      obtain ⟨cost, made, rest⟩ := Option.bind_eq_some_iff.1 rest
      cases rest
      obtain ⟨rfl, saltBounds⟩ := Stored.salt?_eq_some.1 first
      obtain ⟨rfl, digestBounds⟩ := Stored.digest?_eq_some.1 second
      exact ⟨salt, digest, cost, saltBounds, digestBounds, ok_of_toOption made, rfl, rfl⟩
    · cases h
  · rintro ⟨salt, digest, cost, saltBounds, digestBounds, made, rfl, rfl⟩
    rw [Stored.ofEnd?, Stored.salt?_eq_some.2 ⟨rfl, saltBounds⟩,
      Stored.digest?_eq_some.2 ⟨rfl, digestBounds⟩, made]
    rfl

/-- An equals sign tells the settings from the salt. -/
theorem contains_joined {xs : List Setting} (some : xs ≠ []) :
    (Setting.joined xs).contains '=' = true := by
  cases xs with
  | nil => exact absurd rfl some
  | cons x xs => cases xs <;> simp [Setting.joined, List.intercalate, Setting.chars]

theorem contains_encodeChars (bytes : List UInt8) :
    (Base64.standard.encodeChars bytes).contains '=' = false := by
  simpa using (Stored.not_mem_of_values (Stored.values_encodeChars bytes)).2.2

theorem afterVersion?_eq_some :
    Stored.afterVersion? kind version fields = some s ↔
      ∃ b : Body, b.Legal ∧ fields = b.fields ∧ b.stored? kind version = some s := by
  constructor
  · intro h
    unfold Stored.afterVersion? at h
    split at h
    · rename_i field rest
      split at h
      · obtain ⟨p, read, h⟩ := Option.bind_eq_some_iff.1 h
        obtain ⟨xs, some, legal, rfl, width, rfl⟩ := Setting.parameters?_eq_some.1 read
        obtain ⟨salt, digest, cost, saltBounds, digestBounds, made, rfl, rfl⟩ :=
          ofEnd?_eq_some.1 h
        refine ⟨⟨xs, salt, digest⟩, ⟨legal, width, saltBounds, digestBounds⟩, ?_, ?_⟩
        · simp [Body.fields, some]
        · simp [stored?, parameters, made, Except.toOption]
      · obtain ⟨salt, digest, cost, saltBounds, digestBounds, made, e, rfl⟩ :=
          ofEnd?_eq_some.1 h
        refine ⟨⟨[], salt, digest⟩, ⟨nofun, Nat.zero_le _, saltBounds, digestBounds⟩, e, ?_⟩
        simp [stored?, parameters, made, Except.toOption]
    · cases h
  · rintro ⟨b, legal, rfl, means⟩
    obtain ⟨cost, made, rfl⟩ := Option.map_eq_some_iff.1 means
    have last : Stored.ofEnd? kind version b.parameters
        [Base64.standard.encodeChars b.salt, Base64.standard.encodeChars b.digest] = some _ :=
      ofEnd?_eq_some.2
        ⟨b.salt, b.digest, cost, legal.salt, legal.digest, ok_of_toOption made, rfl, rfl⟩
    by_cases none : b.settings = []
    · have defaults : b.parameters = {} := by rw [parameters, none]; rfl
      rw [defaults] at last ⊢
      simp only [Body.fields, none, List.isEmpty_nil, if_true, List.nil_append,
        Stored.afterVersion?, contains_encodeChars, Bool.false_eq_true, if_false]
      exact last
    · have read := Setting.parameters?_eq_some.2
        ⟨b.settings, none, legal.settings, rfl, legal.width, rfl⟩
      simp only [Body.fields, List.isEmpty_iff, none, if_false, List.singleton_append,
        Stored.afterVersion?, contains_joined none, if_true, read, Option.bind_some]
      exact last

/-- No end of a stored hash begins like a version. -/
theorem version?_head (b : Body) {field : List Char} {rest : List (List Char)}
    (h : b.fields = field :: rest) : Stored.version? field = none := by
  refine Stored.version?_eq_none ?_
  rintro value rfl
  by_cases none : b.settings = []
  · simp only [Body.fields, none, List.isEmpty_nil, if_true, List.nil_append] at h
    have := contains_encodeChars b.salt
    rw [(List.cons.inj h).1] at this
    simp at this
  · simp only [Body.fields, List.isEmpty_iff, none, if_false, List.singleton_append] at h
    cases xs : b.settings with
    | nil => exact none xs
    | cons x xs' =>
      rw [xs] at h
      cases x <;> cases xs' <;>
        simp [Setting.joined, List.intercalate, Setting.chars, Setting.name] at h

end Body

/-- A stored hash as it may be written. -/
structure Form extends Body where
  kind : Kind
  version : Option Version

namespace Form

def fields (f : Form) : List (List Char) :=
  [] :: f.kind.name.toList ::
    ((f.version.map Stored.versionField).toList ++ f.toBody.fields)

/-- The text of a form: each field stands behind a dollar sign. -/
def chars (f : Form) : List Char := ['$'].intercalate f.fields

/-- What is stored; without a version, the later one is meant. -/
def stored? (f : Form) : Option Stored := f.toBody.stored? f.kind (f.version.getD .v19)

variable {s : Stored} {kind : Kind} {fields : List (List Char)}

theorem afterKind?_eq_some :
    Stored.afterKind? kind fields = some s ↔ ∃ (version : Option Version) (b : Body), b.Legal ∧
      fields = (version.map Stored.versionField).toList ++ b.fields ∧
      b.stored? kind (version.getD .v19) = some s := by
  constructor
  · intro h
    unfold Stored.afterKind? at h
    split at h
    · rename_i field rest
      split at h
      · rename_i version read
        cases version with
        | none => cases h
        | some v =>
          obtain ⟨b, legal, rfl, means⟩ := Body.afterVersion?_eq_some.1 h
          rw [Stored.version?_eq_some.1 read]
          exact ⟨some v, b, legal, rfl, means⟩
      · obtain ⟨b, legal, e, means⟩ := Body.afterVersion?_eq_some.1 h
        exact ⟨none, b, legal, e, means⟩
    · cases h
  · rintro ⟨version, b, legal, rfl, means⟩
    have read := Body.afterVersion?_eq_some.2 ⟨b, legal, rfl, means⟩
    cases version with
    | some v =>
      have written : Stored.version? (Stored.versionField v) = some (some v) :=
        Stored.version?_eq_some.2 rfl
      simp only [Option.map_some, Option.toList_some, List.singleton_append, Stored.afterKind?,
        written, Option.bind_some]
      exact read
    | none =>
      cases e : b.fields with
      | nil => simp [Body.fields] at e
      | cons field rest =>
        simp only [Option.map_none, Option.toList_none, List.nil_append, Stored.afterKind?,
          b.version?_head e]
        exact e ▸ read

/-- No dollar sign stands in a field. -/
theorem dollar_not_mem (f : Form) : ∀ field ∈ f.fields, '$' ∉ field := by
  have values {cs : List Char} (h : ∀ c ∈ cs, Stored.isValueChar c = true) : '$' ∉ cs :=
    (Stored.not_mem_of_values h).1
  intro field hfield
  simp only [fields, Body.fields, List.mem_cons, List.mem_append, Option.mem_toList,
    Option.map_eq_some_iff, List.not_mem_nil, or_false] at hfield
  rcases hfield with rfl | rfl | ⟨v, -, rfl⟩ | joined | rfl | rfl
  · exact List.not_mem_nil
  · cases f.kind <;> decide
  · have := values (Stored.values_decimal v.code)
    simpa [Stored.versionField] using this
  · split at joined
    · cases joined
    · obtain rfl := List.mem_singleton.1 joined
      exact Setting.dollar_not_mem_joined f.settings
  · exact values (Stored.values_encodeChars f.salt)
  · exact values (Stored.values_encodeChars f.digest)

end Form

namespace Stored

/-- What is read from a text is what some form means that the text writes down. -/
theorem ofText?_eq_some {t : String} {s : Stored} :
    ofText? t = some s ↔ ∃ f : Form, f.Legal ∧ t.toList = f.chars ∧ f.stored? = some s := by
  constructor
  · intro h
    unfold ofText? at h
    split at h
    · rename_i name rest split
      obtain ⟨kind, named, h⟩ := Option.bind_eq_some_iff.1 h
      obtain ⟨version, b, legal, rfl, means⟩ := Form.afterKind?_eq_some.1 h
      have name : kind.name.toList = name := by
        have := List.find?_some named
        rw [beq_iff_eq.1 this, String.toList_ofList]
      refine ⟨⟨b, kind, version⟩, legal, ?_, means⟩
      rw [intercalate_splitAt split, Form.chars, Form.fields, name]
    · cases h
  · rintro ⟨f, legal, written, means⟩
    rw [ofText?, written, Form.chars, splitAt_intercalate f.dollar_not_mem (List.cons_ne_nil _ _),
      Form.fields]
    dsimp only
    rw [String.ofList_toList, Kind.ofName?_name, Option.bind_some]
    exact Form.afterKind?_eq_some.2 ⟨f.version, f.toBody, legal, rfl, means⟩

end Stored

end Roster.Password
