/-
Roster.Proofs.Token.Soundness — what a token is that passes every check.

A text that is taken apart is put together from its parts (`of_parts`), and a
part that is read as base64 is the base64 text of its bytes. A good token is
therefore three such texts with points between them, the last of which is
determined by the first two. Its expiry is checked in the second reading of the
claims; `exp_agrees` carries the check over to the claims that are answered.
-/
import Roster.Proofs.Token.Agreement

namespace Roster.Token

/-! ## §1 Taking apart -/

theorem splitLast?_eq_some {cs before after : List Char}
    (h : splitLast? cs = some (before, after)) : cs = before ++ '.' :: after ∧ '.' ∉ after := by
  have whole := List.takeWhile_append_dropWhile (p := (· ≠ '.')) (l := cs.reverse)
  rw [splitLast?] at h
  cases rest : cs.reverse.dropWhile (· ≠ '.') with
  | nil =>
    rw [rest] at h
    cases h
  | cons c front =>
    have point : c = '.' := by
      have := List.head?_dropWhile_not (· ≠ '.') cs.reverse
      rw [rest] at this
      simpa using this
    rw [rest] at h whole
    cases h
    constructor
    · calc
        cs = (cs.reverse.takeWhile (· ≠ '.') ++ c :: front).reverse := by
          rw [whole, List.reverse_reverse]
        _ = front.reverse ++ '.' :: (cs.reverse.takeWhile (· ≠ '.')).reverse := by
          rw [List.reverse_append, List.reverse_cons, point, List.append_assoc]
          rfl
    · intro mem
      have other := List.all_eq_true.1 List.all_takeWhile _ (List.mem_reverse.1 mem)
      simp at other

/-- A token that has parts is their text. -/
theorem of_parts {token : String} {p : Parts} (h : parts token = .ok p) : token = p.text := by
  rw [parts] at h
  cases found : Parts.ofText? token with
  | none =>
    rw [found] at h
    cases h
  | some q =>
    rw [found] at h
    cases h
    obtain ⟨⟨message, signature⟩, last, found⟩ := Option.bind_eq_some_iff.1 found
    obtain ⟨⟨header, claims⟩, first, found⟩ := Option.bind_eq_some_iff.1 found
    cases found
    obtain ⟨outer, -⟩ := splitLast?_eq_some last
    obtain ⟨inner, -⟩ := splitLast?_eq_some first
    rw [inner] at outer
    apply String.toList_injective
    simpa [Parts.text, Parts.message] using outer

/-- A part that has bytes is their text. -/
theorem of_bytesOf {part : String} {bytes : List UInt8} (h : bytesOf part = .ok bytes) :
    part = Base64.urlSafe.encode bytes :=
  (Base64.encode_decode _ (mapError_eq_ok.1 h)).symm

theorem of_readHeader {p : Parts} {header : Header} (h : readHeader p = .ok header) :
    ∃ bytes, p.header = Base64.urlSafe.encode bytes ∧ Header.reader.run bytes = .ok header := by
  obtain ⟨bytes, decoded, read⟩ := bind_eq_ok.1 h
  exact ⟨bytes, of_bytesOf decoded, mapError_eq_ok.1 read⟩

theorem of_readClaims {p : Parts} {c : Claims} {registered : Registered}
    (h : readClaims p = .ok (c, registered)) :
    ∃ bytes, p.claims = Base64.urlSafe.encode bytes ∧ Claims.reader.run bytes = .ok c ∧
      Registered.reader.run bytes = .ok registered := by
  obtain ⟨bytes, decoded, h⟩ := bind_eq_ok.1 h
  obtain ⟨_, claims, h⟩ := bind_eq_ok.1 h
  obtain ⟨_, again, h⟩ := bind_eq_ok.1 h
  cases h
  exact ⟨bytes, of_bytesOf decoded, mapError_eq_ok.1 claims, mapError_eq_ok.1 again⟩

/-! ## §2 Good tokens -/

/-- The text of a header and claims with their signature. -/
def signedText (secret : String) (header claims : List UInt8) : String :=
  let message := Base64.urlSafe.encode header ++ "." ++ Base64.urlSafe.encode claims
  message ++ "." ++ signatureOf secret message

theorem signature?_signing (secret message : String) :
    signing.signature? secret message = some (signatureOf secret message) := rfl

/-- A token that passes every check is signed text, and is current by its own claims. -/
theorem of_verify {secret : String} {now : Moment} {token : String} {c : Claims}
    (h : verify secret now token = .ok c) :
    (∃ header claims, token = signedText secret header claims ∧
        Header.reader.run header = .ok ⟨signing⟩ ∧ Claims.reader.run claims = .ok c) ∧
      now.seconds - leeway ≤ c.exp ∧ subject token = .ok c.identity := by
  obtain ⟨p, ⟨algorithm⟩, registered, exp, taken, header, rfl, signed, claims, found, ⟨-, current⟩,
    audience⟩ := verify_eq_ok.1 h
  obtain ⟨headerBytes, headerText, headerRead⟩ := of_readHeader header
  obtain ⟨bytes, claimsText, claimsRead, registeredRead⟩ := of_readClaims claims
  refine ⟨⟨headerBytes, bytes, ?_, headerRead, claimsRead⟩, ?_, ?_⟩
  · rw [signature?_signing] at signed
    rw [of_parts taken, Parts.text, ← Option.some.inj signed, Parts.message, headerText, claimsText]
    rfl
  · rw [exp_agrees claimsRead registeredRead found]
    exact current
  · simp only [subject, taken, header, claims, ok_bind, audience]
    rfl

theorem count_points {h p s : String} : (h ++ "." ++ p ++ "." ++ s).toList.count '.' =
    2 + h.toList.count '.' + p.toList.count '.' + s.toList.count '.' := by
  simp [List.count_append]
  omega

/-- A good token has two points. -/
theorem count_of_verify {secret : String} {now : Moment} {token : String} {c : Claims}
    (h : verify secret now token = .ok c) : token.toList.count '.' = 2 := by
  obtain ⟨⟨header, claims, rfl, -⟩, -⟩ := of_verify h
  have none (bytes : List UInt8) : (Base64.urlSafe.encode bytes).toList.count '.' = 0 :=
    List.count_eq_zero.2 (Base64.point_not_mem _ bytes)
  rw [signedText, count_points, signatureOf, none, none, none]

/-- However a good token is cut at two points, the cuts are its parts. -/
theorem parts_of_verify {secret h p s : String} {now : Moment} {c : Claims}
    (ok : verify secret now (h ++ "." ++ p ++ "." ++ s) = .ok c) :
    parts (h ++ "." ++ p ++ "." ++ s) = .ok ⟨h, p, s⟩ := by
  have points := count_of_verify ok
  rw [count_points] at points
  have claims : '.' ∉ p.toList := List.count_eq_zero.1 (by omega)
  have signature : '.' ∉ s.toList := List.count_eq_zero.1 (by omega)
  exact parts_text (p := ⟨h, p, s⟩) claims signature

theorem signature_of_verify {secret h p s : String} {now : Moment} {c : Claims}
    (ok : verify secret now (h ++ "." ++ p ++ "." ++ s) = .ok c) :
    s = signatureOf secret (h ++ "." ++ p) := by
  obtain ⟨q, _, _, _, taken, -, -, signed, -⟩ := verify_eq_ok.1 ok
  cases (parts_of_verify ok).symm.trans taken
  exact (Option.some.inj signed).symm

theorem header_of_verify {secret p s : String} {header : List UInt8} {now : Moment} {c : Claims}
    (ok : verify secret now (Base64.urlSafe.encode header ++ "." ++ p ++ "." ++ s) = .ok c) :
    Header.reader.run header = .ok ⟨signing⟩ := by
  obtain ⟨q, ⟨_⟩, _, _, taken, read, rfl, -⟩ := verify_eq_ok.1 ok
  cases (parts_of_verify ok).symm.trans taken
  obtain ⟨bytes, text, run⟩ := of_readHeader read
  cases Base64.encode_injective _ text
  exact run

namespace Issuer

/--
Whatever the text, the instant, the use and the issuer: a token that is good is
a header that names HS512 and claims, both in base64, with the one signature
that the secret gives them, for that use and not expired beyond the leeway; and
its subject, read without a look at signature and expiry, is that of its claims.
So no two signatures are good behind the same header and claims, and no token is
good whose header names another algorithm or none, or that has not three parts.
-/
theorem validate_sound (i : Issuer) :
    (∀ now token use c, i.validate now token use = some c →
      (∃ header claims, token = signedText i.secret header claims ∧
        Header.reader.run header = .ok ⟨.hs512⟩ ∧ Claims.reader.run claims = .ok c) ∧
      c.use = use ∧ now.seconds - 60 ≤ c.exp ∧ subject token = .ok c.identity) ∧
    (∀ h p s s' now now' use use' c c', i.validate now (h ++ "." ++ p ++ "." ++ s) use = some c →
      i.validate now' (h ++ "." ++ p ++ "." ++ s') use' = some c' → s = s') ∧
    (∀ header p s now use, Header.reader.run header ≠ .ok ⟨.hs512⟩ →
      i.validate now (Base64.urlSafe.encode header ++ "." ++ p ++ "." ++ s) use = none) ∧
    ∀ token now use, token.toList.count '.' ≠ 2 → i.validate now token use = none := by
  refine ⟨fun now token use c ok => ?_, fun h p s s' now now' use use' c c' ok ok' => ?_,
    fun header p s now use other => ?_, fun token now use framing => ?_⟩
  · obtain ⟨ok, used⟩ := validate_eq_some.1 ok
    obtain ⟨text, current, same⟩ := of_verify ok
    exact ⟨text, used, current, same⟩
  · rw [signature_of_verify (validate_eq_some.1 ok).1,
      signature_of_verify (validate_eq_some.1 ok').1]
  · refine Option.eq_none_iff_forall_ne_some.2 fun c ok => ?_
    exact other (header_of_verify (validate_eq_some.1 ok).1)
  · refine Option.eq_none_iff_forall_ne_some.2 fun c ok => ?_
    exact framing (count_of_verify (validate_eq_some.1 ok).1)

/-- A token is looked at half a minute after it has expired, within the leeway. -/
theorem validate_sound_late :
    let c : Claims := ⟨.ofNat 7, "ann@example.org", .access, 900, 0, .ofNat 8⟩
    ∃ i, make "secret" 15 7 = .ok i ∧ i.validate (.ofSeconds 930) (i.sign c) .access = some c ∧
      (∃ header claims, i.sign c = signedText i.secret header claims ∧
        Header.reader.run header = .ok ⟨.hs512⟩ ∧ Claims.reader.run claims = .ok c) ∧
      subject (i.sign c) = .ok ⟨.ofNat 7, "ann@example.org"⟩ := by
  intro c
  obtain ⟨i, made⟩ : ∃ i, make "secret" 15 7 = .ok i := ⟨_, rfl⟩
  have proper : c.Proper := ⟨by decide, by decide, by decide⟩
  have good : i.validate (.ofSeconds 930) (i.sign c) .access = some c := by
    rw [validate_sign proper]
    exact if_pos ⟨rfl, by decide, by decide⟩
  obtain ⟨text, -, -, same⟩ := (validate_sound i).1 _ _ _ _ good
  exact ⟨i, made, good, text, same⟩

end Issuer

end Roster.Token
