/-
Roster.Proofs.Password.Verification — a hash is good for its password, whoever checks it.

The cost of a hash is kept nowhere but in its text. So a hasher with another cost
has to read it there, and all that it reads must be what was written, or
nobody could log in once the cost has been changed. A hash is written as one of the forms of
the grammar (`text_eq`), within its bounds for every cost that a hasher can have and every
salt that can be written (`form_legal`). What is read is then the hash itself
(`ofText?_hash`), and a password is checked under its settings and salt.
-/
import Roster.Password.Hasher
import Roster.Proofs.Hash.Lengths
import Roster.Proofs.Password.Grammar

namespace Roster.Password

open Hash (textBytes)
open Hash.Argon2 (Cost)

/-! ## §1 Costs -/

/-- The costs of hashers: the default, and three numbers of 32 bits where they are accepted. -/
inductive Accepted : Cost → Prop
  | default : Accepted defaultCost
  | custom {memory passes lanes : Nat} {cost : Cost} :
    memory < 0x100000000 → passes < 0x100000000 → lanes < 0x100000000 →
      makeCost memory passes lanes = .ok cost → Accepted cost

theorem eq_of_makeCost {memory passes lanes : Nat} {cost : Cost}
    (h : makeCost memory passes lanes = .ok cost) : cost = ⟨memory, passes, lanes⟩ := by
  unfold makeCost at h
  repeat' split at h
  all_goals cases h
  rfl

/-- An accepted cost is accepted again when it is read. -/
theorem Accepted.again {cost : Cost} (h : Accepted cost) :
    makeCost cost.memory cost.passes cost.lanes = .ok cost := by
  cases h with
  | default => rfl
  | custom _ _ _ made =>
    obtain rfl := eq_of_makeCost made
    exact made

theorem Accepted.small {cost : Cost} (h : Accepted cost) :
    cost.memory < 0x100000000 ∧ cost.passes < 0x100000000 ∧ cost.lanes < 0x100000000 := by
  cases h with
  | default => decide
  | custom memory passes lanes made =>
    obtain rfl := eq_of_makeCost made
    exact ⟨memory, passes, lanes⟩

/-! ## §2 Hashes in writing -/

/-- A hash with version and cost in writing, and without data. -/
def Stored.form (s : Stored) : Form where
  kind := s.settings.kind
  version := some s.settings.version
  settings := [.memory s.settings.cost.memory, .passes s.settings.cost.passes,
    .lanes s.settings.cost.lanes]
  salt := s.salt
  digest := s.digest

theorem Stored.text_eq (s : Stored) : s.text.toList = s.form.chars := by
  simp [Stored.text, Stored.costText, Stored.form, Form.chars, Form.fields, Body.fields,
    Stored.versionField, Setting.joined, Setting.chars, Setting.name, Setting.value,
    Digits.natText, Base64.encode, List.intercalate_cons_cons]

/-- A salt that a stored hash can hold. A new one has 16 bytes. -/
def IsSalt (salt : List UInt8) : Prop := 8 ≤ salt.length ∧ salt.length ≤ 48

variable {cost : Cost} {salt : List UInt8}

theorem length_digest (cost : Cost) (salt : List UInt8) (password : String) :
    (hash cost salt password).digest.length = 32 :=
  Hash.Argon2.length_digest ..

theorem form_legal (accepted : Accepted cost) (hs : IsSalt salt) (password : String) :
    (hash cost salt password).form.Legal := by
  obtain ⟨memory, passes, lanes⟩ := accepted.small
  have digest := length_digest cost salt password
  refine ⟨?_, ?_, hs, ?_⟩
  · intro x hx
    simp only [Stored.form, List.mem_cons, List.not_mem_nil, or_false] at hx
    rcases hx with rfl | rfl | rfl
    · exact memory
    · exact passes
    · exact lanes
  · have := Stored.length_decimal_le memory
    have := Stored.length_decimal_le passes
    have := Stored.length_decimal_le lanes
    simp only [Stored.form, hash, settings, Setting.joined, List.map_cons, List.map_nil,
      List.intercalate_cons_cons, List.intercalate_singleton, Setting.chars, Setting.name,
      Setting.value, List.length_append, List.length_cons, List.length_nil]
    omega
  · simp only [Stored.form, digest]
    decide

/-- What is read from the text of a hash is the hash. -/
theorem ofText?_hash (accepted : Accepted cost) (hs : IsSalt salt) (password : String) :
    Stored.ofText? (hash cost salt password).text = some (hash cost salt password) := by
  refine Stored.ofText?_eq_some.2 ⟨_, form_legal accepted hs password, Stored.text_eq _, ?_⟩
  show (makeCost cost.memory cost.passes cost.lanes).toOption.map _ = _
  rw [accepted.again]
  -- The size that is read is the length of the digest, which is the size that was asked for.
  exact congrArg (fun size =>
    some (⟨⟨.id, .v19, cost, size, []⟩, salt, (hash cost salt password).digest⟩ : Stored))
    (length_digest cost salt password)

/-- A text that holds all that is needed to check a password, each field within its bounds. -/
def IsStored (text : String) : Prop := ∃ f : Form, f.Legal ∧ text.toList = f.chars

theorem isStored_of_ofText? {text : String} {s : Stored} (h : Stored.ofText? text = some s) :
    IsStored text := by
  obtain ⟨f, legal, written, -⟩ := Stored.ofText?_eq_some.1 h
  exact ⟨f, legal, written⟩

/-- Every stored hash begins with a dollar sign. -/
theorem IsStored.head? {text : String} (h : IsStored text) : text.toList.head? = some '$' := by
  obtain ⟨f, -, written⟩ := h
  rw [written]
  simp [Form.chars, Form.fields, List.intercalate_cons_cons]

/-! ## §3 Passwords -/

theorem verify_of_ofText? {text : String} {s : Stored} (h : Stored.ofText? text = some s)
    (other : Cost) (password : String) :
    (hasher other).verify password text = true ↔
      Hash.Argon2.digest s.settings (textBytes password) s.salt = s.digest := by
  simp [hasher, h, Stored.fits]

theorem verify_of_not_isStored {text : String} (h : ¬IsStored text) (other : Cost)
    (password : String) : (hasher other).verify password text = false := by
  cases read : Stored.ofText? text with
  | none => simp [hasher, read]
  | some s => exact absurd (isStored_of_ofText? read) h

/--
The text of a new hash reads back as the kind, the version, the cost, the salt and the
digest of 32 bytes that it was made with. Whatever the cost of the hasher that
checks it, the password fits it, and another one fits exactly if it has the same
digest under the cost and the salt that were read. Nothing fits a text that is no
stored hash.
-/
theorem hash_round_trip {cost : Cost} (accepted : Accepted cost) {salt : List UInt8}
    (hs : IsSalt salt) (other : Cost) (password : String) :
    let digest (q : String) := Hash.Argon2.digest (settings cost) (textBytes q) salt
    ∃ text, (hasher cost).hash salt password = .ok text ∧
      Stored.ofText? text = some ⟨⟨.id, .v19, cost, 32, []⟩, salt, digest password⟩ ∧
      (digest password).length = 32 ∧
      (hasher other).verify password text = true ∧
      (∀ q, (hasher other).verify q text = true ↔ digest q = digest password) ∧
      ∀ q text, ¬IsStored text → (hasher other).verify q text = false := by
  intro digest
  have read := ofText?_hash accepted hs password
  have verify := verify_of_ofText? read other
  exact ⟨(hash cost salt password).text, rfl, read, length_digest cost salt password,
    (verify password).2 rfl, verify, fun q _ h => verify_of_not_isStored h other q⟩

/-- A hash of the least cost, checked by a hasher of the default cost. -/
theorem hash_round_trip_light :
    let light : Cost := ⟨8, 1, 1⟩
    let salt := List.replicate 16 0
    Accepted light ∧ IsSalt salt ∧ ∃ text, (hasher light).hash salt "pw1" = .ok text ∧
      (hasher defaultCost).verify "pw1" text = true ∧
      (hasher defaultCost).verify "pw1" "not-a-phc-string" = false := by
  intro light salt
  have made : makeCost 8 1 1 = .ok light := rfl
  have accepted : Accepted light := .custom (by decide) (by decide) (by decide) made
  have hs : IsSalt salt := ⟨by decide, by decide⟩
  have garbage : ¬IsStored "not-a-phc-string" := by
    intro h
    have := h.head?
    revert this
    decide
  obtain ⟨text, made, -, -, fits, -, nothing⟩ := hash_round_trip accepted hs defaultCost "pw1"
  exact ⟨accepted, hs, text, made, fits, nothing _ _ garbage⟩

end Roster.Password
