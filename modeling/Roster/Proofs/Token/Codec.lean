/-
Roster.Proofs.Token.Codec — a signed token is taken apart as it was put together.

`Parts.signed` are the parts that claims are written in. A token is their text
(`encode_eq`), and since no base64 text holds a point it falls into the same
parts again (`parts_encode`). With the readings of header and claims this gives
the equations for all that is done with a token: `verify_encode`,
`subject_encode` and `validate_sign`.
-/
import Roster.Proofs.Base64
import Roster.Proofs.Token.Claims
import Roster.Token.Issuer

namespace Roster.Token

variable {ε ε' α β : Type}

theorem ok_bind (a : α) (f : α → Except ε β) : (Except.ok a >>= f) = f a := rfl

/-! ## §1 Points -/

theorem splitLast?_append (before : List Char) {after : List Char} (h : '.' ∉ after) :
    splitLast? (before ++ '.' :: after) = some (before, after) := by
  have plain : ∀ c ∈ after.reverse, (decide (c ≠ '.')) = true := by
    intro c hc
    have : c ≠ '.' := fun e => h (e ▸ List.mem_reverse.1 hc)
    simpa using this
  have e : (before ++ '.' :: after).reverse = after.reverse ++ '.' :: before.reverse := by simp
  have drop : (after.reverse ++ '.' :: before.reverse).dropWhile (· ≠ '.') =
      '.' :: before.reverse := by
    rw [List.dropWhile_append_of_pos plain]
    rfl
  have take : (after.reverse ++ '.' :: before.reverse).takeWhile (· ≠ '.') = after.reverse := by
    rw [List.takeWhile_append_of_pos plain]
    simp
  simp only [splitLast?, e]
  rw [drop, take]
  simp

/-- The text of parts. -/
def Parts.text (p : Parts) : String := p.message ++ "." ++ p.signature

theorem parts_text {p : Parts} (claims : '.' ∉ p.claims.toList)
    (signature : '.' ∉ p.signature.toList) : parts p.text = .ok p := by
  have e : p.text.toList = p.header.toList ++ '.' :: p.claims.toList ++
      '.' :: p.signature.toList := by
    simp [Parts.text, Parts.message]
  have found : Parts.ofText? p.text = some p := by
    rw [Parts.ofText?, e, splitLast?_append _ signature]
    show (splitLast? _).bind _ = _
    rw [splitLast?_append _ claims]
    simp
  rw [parts, found]

/-! ## §2 Signed claims -/

/-- The base64 text of JSON. -/
def part (json : String) : String := Base64.urlSafe.encode (Hash.textBytes json)

theorem bytesOf_part (json : String) : bytesOf (part json) = .ok (Hash.textBytes json) := by
  rw [bytesOf, part, Base64.decode_encode]
  rfl

/-- The text of the signature over a message. -/
def signatureOf (secret message : String) : String :=
  Base64.urlSafe.encode (Hash.hmacSha512 (Hash.textBytes secret) (Hash.textBytes message))

/-- The parts of a token with the given claims. -/
def Parts.signed (secret : String) (c : Claims) : Parts :=
  let header := part (Header.text signing)
  let claims := part c.toJson.render
  ⟨header, claims, signatureOf secret (header ++ "." ++ claims)⟩

theorem encode_eq (secret : String) (c : Claims) :
    encode signing secret c = (Parts.signed secret c).text := rfl

theorem parts_encode (secret : String) (c : Claims) :
    parts (encode signing secret c) = .ok (Parts.signed secret c) := by
  rw [encode_eq]
  exact parts_text (Base64.point_not_mem _ _) (Base64.point_not_mem _ _)

/-- The header names the algorithm, after a field that is only checked. -/
theorem run_reader_header (a : Algorithm) :
    Header.reader.run (Hash.textBytes (Header.text a)) = .ok ⟨a⟩ := by
  have named : Json.Reads Algorithm.reader (0x22 :: Json.quoted a.name) a :=
    Json.reads_named (by cases a <;> decide) (Algorithm.ofName?_name a)
  rw [Header.text, Json.textBytes_object]
  simp only [List.map_cons, List.map_nil, Json.Value.chars, Json.utf8_literal]
  exact Json.run_shape
    (.known (Header.checked "typ" Header.anyText) rfl rfl
      ((Json.reads_optional (Json.reads_text _ _)).bind fun _ => rfl)
      (takes_field rfl rfl named (.nil _))) rfl

/-- Claims that a token can carry: issued after 1970, to expire later and in 64 bits. -/
structure Claims.Proper (c : Claims) : Prop where
  issued : 0 ≤ c.iat
  order : c.iat ≤ c.exp
  bound : c.exp < 2 ^ 63

theorem readHeader_signed (secret : String) (c : Claims) :
    readHeader (Parts.signed secret c) = .ok ⟨signing⟩ := by
  simp only [readHeader, Parts.signed, bytesOf_part, ok_bind, readPart, run_reader_header]
  rfl

theorem readClaims_signed (secret : String) {c : Claims} (h : c.Proper) :
    readClaims (Parts.signed secret c) = .ok (c, ⟨some c.exp.toNat, false⟩) := by
  simp only [readClaims, Parts.signed, bytesOf_part, ok_bind, readPart,
    run_reader_toJson h.issued h.order h.bound, run_registered_toJson h.issued h.order h.bound]
  rfl

/-! ## §3 Good tokens -/

theorem bind_eq_ok {x : Except ε α} {f : α → Except ε β} {b : β} :
    (x >>= f) = .ok b ↔ ∃ a, x = .ok a ∧ f a = .ok b := by
  cases x with
  | ok a => simp [ok_bind]
  | error e => exact ⟨nofun, nofun⟩

theorem mapError_eq_ok {x : Except ε α} {f : ε → ε'} {a : α} :
    x.mapError f = .ok a ↔ x = .ok a := by
  cases x with
  | ok b =>
    have kept : (Except.ok b).mapError f = .ok b := rfl
    rw [kept, Except.ok.injEq, Except.ok.injEq]
  | error e => exact ⟨nofun, nofun⟩

/-- A check that throws goes on with `k` when it is passed. -/
theorem check_eq_ok {p : Prop} [Decidable p] {e : ε} {k : PUnit → Except ε α} {a : α} :
    (if p then throw e >>= k else k ⟨⟩) = .ok a ↔ ¬p ∧ k ⟨⟩ = .ok a := by
  by_cases h : p
  · rw [if_pos h]
    constructor
    · intro thrown
      cases thrown
    · exact fun passed => absurd h passed.1
  · rw [if_neg h]
    simp [h]

/-- A token is good if each of the checks is passed, and what it says is what its claims say. -/
theorem verify_eq_ok {secret : String} {now : Moment} {token : String} {c : Claims} :
    verify secret now token = .ok c ↔ ∃ p header registered exp,
      parts token = .ok p ∧ readHeader p = .ok header ∧ header.algorithm = signing ∧
        signing.signature? secret p.message = some p.signature ∧
        readClaims p = .ok (c, registered) ∧ registered.exp = some exp ∧
        (leeway ≤ now.seconds ∧ now.seconds - leeway ≤ (exp : Int)) ∧
        registered.hasAudience = false := by
  simp only [verify, bind_eq_ok, check_eq_ok, ne_eq, Decidable.not_not]
  constructor
  · rintro ⟨p, hp, header, hh, ha, hs, ⟨claims, registered⟩, hc, h⟩
    dsimp only at h
    cases hx : registered.exp with
    | none =>
      rw [hx] at h
      cases h
    | some exp =>
      rw [hx] at h
      obtain ⟨current, h⟩ := check_eq_ok.1 h
      obtain ⟨audience, h⟩ := check_eq_ok.1 h
      cases h
      exact ⟨p, header, registered, exp, hp, hh, ha, hs, hc, hx, by omega,
        Bool.not_eq_true _ ▸ audience⟩
  · rintro ⟨p, header, registered, exp, hp, hh, ha, hs, hc, hx, current, audience⟩
    refine ⟨p, hp, header, hh, ha, hs, ⟨c, registered⟩, hc, ?_⟩
    dsimp only
    rw [hx]
    exact check_eq_ok.2 ⟨by omega, check_eq_ok.2 ⟨by rw [audience]; decide, rfl⟩⟩

/-- What a good token says does not depend on when it is looked at. -/
theorem verify_unique {secret : String} {now later : Moment} {token : String} {c d : Claims}
    (hc : verify secret now token = .ok c) (hd : verify secret later token = .ok d) : c = d := by
  obtain ⟨p, _, _, _, hp, -, -, -, hc, -⟩ := verify_eq_ok.1 hc
  obtain ⟨q, _, _, _, hq, -, -, -, hd, -⟩ := verify_eq_ok.1 hd
  rw [hp] at hq
  cases hq
  rw [hc] at hd
  cases hd
  rfl

/-- Signed claims are found in their token until its leeway has passed. -/
theorem verify_encode {secret : String} {now : Moment} {c d : Claims} (h : c.Proper) :
    verify secret now (encode signing secret c) = .ok d ↔
      d = c ∧ 60 ≤ now.seconds ∧ now.seconds ≤ c.exp + 60 := by
  have expiry : (c.exp.toNat : Int) = c.exp := Int.toNat_of_nonneg (Int.le_trans h.issued h.order)
  have sixty : leeway = 60 := rfl
  rw [verify_eq_ok]
  constructor
  · rintro ⟨p, header, registered, exp, hp, -, -, -, hc, hx, current, -⟩
    cases (parts_encode secret c).symm.trans hp
    cases (readClaims_signed secret h).symm.trans hc
    cases hx
    exact ⟨rfl, by omega, by omega⟩
  · rintro ⟨rfl, late, current⟩
    exact ⟨_, _, _, _, parts_encode secret d, readHeader_signed secret d, rfl, rfl,
      readClaims_signed secret h, rfl, ⟨by omega, by omega⟩, rfl⟩

theorem subject_encode (secret : String) {c : Claims} (h : c.Proper) :
    subject (encode signing secret c) = .ok c.identity := by
  simp only [subject, parts_encode, ok_bind, readHeader_signed, readClaims_signed secret h]
  rfl

theorem part_injective {json other : String} (h : part json = part other) : json = other := by
  have bytes := Base64.encode_injective _ h
  rw [Text.textBytes_eq, Text.textBytes_eq] at bytes
  exact String.toList_injective (Text.utf8_injective bytes)

/-- Tokens with different identifiers are different. -/
theorem jti_eq_of_encode_eq {secret : String} {c d : Claims}
    (h : encode signing secret c = encode signing secret d) : c.jti = d.jti := by
  have e := parts_encode secret c
  rw [h, parts_encode secret d] at e
  have claims : (Parts.signed secret d).claims = (Parts.signed secret c).claims := by
    rw [Except.ok.inj e]
  exact (jti_eq_of_render_eq (part_injective claims)).symm

namespace Issuer

variable {i : Issuer} {now later : Moment} {token : String} {use : Use} {c d : Claims}

theorem validate_eq_some :
    i.validate now token use = some c ↔ verify i.secret now token = .ok c ∧ c.use = use := by
  unfold validate
  cases verify i.secret now token with
  | error e => exact ⟨nofun, nofun⟩
  | ok d =>
    constructor
    · intro h
      obtain ⟨same, e⟩ := Option.ite_none_right_eq_some.1 h
      cases e
      exact ⟨rfl, same⟩
    · rintro ⟨e, same⟩
      cases e
      exact if_pos same

theorem validate_unique {other : Use} (hc : i.validate now token use = some c)
    (hd : i.validate later token other = some d) : c = d :=
  verify_unique (validate_eq_some.1 hc).1 (validate_eq_some.1 hd).1

/-- A signed token is good for its own use, after the first minute and until its leeway is over. -/
theorem validate_sign (h : c.Proper) :
    i.validate now (i.sign c) use =
      if use = c.use ∧ 60 ≤ now.seconds ∧ now.seconds ≤ c.exp + 60 then some c else none := by
  refine Option.ext fun d => ?_
  rw [validate_eq_some, sign, verify_encode h, Option.ite_none_right_eq_some]
  constructor
  · rintro ⟨⟨rfl, current⟩, rfl⟩
    exact ⟨⟨rfl, current⟩, rfl⟩
  · rintro ⟨⟨rfl, current⟩, e⟩
    cases e
    exact ⟨⟨rfl, current⟩, rfl⟩

end Issuer

end Roster.Token
