/-
Roster.Proofs.Token.Claims — the claims of a token are read as they were written.

The JSON object of the claims is read twice. The first reading gives the claims
back (`run_reader_toJson`), and the second one the registered claims: the expiry
as a natural number and no audience (`run_registered_toJson`). Both follow the
object field by field and rest on what single readers take.
-/
import Roster.Proofs.Json.Reading
import Roster.Proofs.Uuid
import Roster.Token.Claims

namespace Roster.Token

open Json (Reader Reads Stops Takes Value objectBytes quoted)
open Json.Reader

variable {α β σ : Type}

/-! ## §1 Fields -/

theorem reads_uuid (u : Uuid) : Reads uuid (0x22 :: quoted u.text) u :=
  Json.reads_parsed (by rw [Uuid.parse_text])

theorem reads_use (u : Use) : Reads Claims.useReader (0x22 :: quoted u.name) u :=
  Json.reads_named (by cases u <;> decide) (Use.ofName?_name u)

/-- Whatever text it is, a value of any kind is read as that text. -/
theorem reads_value_text (depth : Nat) (s : String) :
    Reads (value depth) (0x22 :: quoted s) (.text s) := by
  intro tail n _
  have steps (k : Nat) : 2 * (k + 1) = 2 * k + 1 + 1 := rfl
  rw [value, run_bind (run_fuel _), steps, anyValue.eq_def, List.cons_append]
  dsimp only
  rw [run_bind (run_peekToken (by decide) _ _)]
  dsimp only
  rw [if_neg (by decide), if_neg (by decide), if_neg (by decide), if_neg (by decide),
    if_neg (by decide), if_pos rfl, run_bind (run_advance _ _ _),
    run_bind (run_stringBody _ _ _), List.length_cons]
  show EStateM.Result.ok _ _ = _
  congr 2
  omega

/-- A reader that succeeds needs no forgiveness. -/
theorem reads_attempt {r : Reader α} {v : List UInt8} {a : α} (h : Reads r v a) :
    Reads (attempt r) v (.ok a) := by
  intro tail n stops
  rw [attempt, h tail n stops]

theorem reads_anything (s : String) :
    Reads Registered.anything (0x22 :: quoted s) (some (.text s)) :=
  (reads_attempt (Json.reads_optional (reads_value_text _ s))).bind fun _ => rfl

/-- A natural number below 2^64 is an instant. -/
theorem reads_instant {k : Nat} (bound : k ≤ greatestNat) :
    Reads Registered.instant (Text.utf8 (Digits.natText k).toList) (some k) := by
  refine (reads_attempt ?_).bind fun _ => rfl
  obtain ⟨first, rest, ds, e⟩ := Json.utf8_natText k
  rw [e]
  intro tail n stops
  have byte := isDigitByte (ds.lt first List.mem_cons_self)
  have minus := byte.minus
  obtain ⟨list, object⟩ := byte.bracket
  rw [Registered.instant.instantOrFail, run_bind (Json.peekToken_digits ds tail n)]
  simp only [byte.digit, if_true]
  rw [run_bind (run_number ds bound stops n)]
  rfl

/-! ## §2 Whole claims -/

/-- A field that is not filled yet is read and kept, be it required or not. -/
theorem takes_field {shape : Json.Shape σ β} {s u : σ} {name : String} {get : σ → Option α}
    {set : σ → α → σ} {r : Reader α} {optional : Bool} {v : List UInt8} {a : α}
    {rest : List (String × List UInt8)}
    (found : shape.fields.find? (fun f => f.name == name) =
      some { Json.Field.required name get set r with optional })
    (new : get s = none) (reads : Reads r v a) (more : Takes shape (set s a) rest u) :
    Takes shape s ((name, v) :: rest) u := by
  refine .known _ found ?_ (reads.bind fun _ => rfl) more
  show (get s).isSome = false
  rw [new, Option.isSome_none]

/-- The fields of claims whose two instants are natural numbers. -/
def Claims.written (c : Claims) (exp iat : Nat) : List (String × List UInt8) :=
  [("sub", 0x22 :: quoted c.sub.text), ("email", 0x22 :: quoted c.email),
    ("token_use", 0x22 :: quoted c.use.name), ("exp", Text.utf8 (Digits.natText exp).toList),
    ("iat", Text.utf8 (Digits.natText iat).toList), ("jti", 0x22 :: quoted c.jti.text)]

theorem textBytes_toJson {c : Claims} {exp iat : Nat} (he : c.exp = exp) (hi : c.iat = iat) :
    Hash.textBytes c.toJson.render = objectBytes (c.written exp iat) := by
  rw [Claims.toJson, Json.textBytes_object, he, hi]
  simp only [List.map_cons, List.map_nil, Value.chars, Json.utf8_literal]
  rfl

/-- Claims with instants after 1970 that fit are read back whole. -/
theorem run_reader_toJson {c : Claims} (issued : 0 ≤ c.iat) (order : c.iat ≤ c.exp)
    (bound : c.exp < 2 ^ 63) :
    Claims.reader.run (Hash.textBytes c.toJson.render) = .ok c := by
  obtain ⟨exp, he⟩ := Int.eq_ofNat_of_zero_le (Int.le_trans issued order)
  obtain ⟨iat, hi⟩ := Int.eq_ofNat_of_zero_le issued
  rw [textBytes_toJson he hi, Claims.written]
  refine Json.run_shape
    (takes_field rfl rfl (reads_uuid c.sub)
      (takes_field rfl rfl (Json.reads_text _ c.email)
        (takes_field rfl rfl (reads_use c.use)
          (takes_field rfl rfl (Json.reads_int64 (by omega))
            (takes_field rfl rfl (Json.reads_int64 (by omega))
              (takes_field rfl rfl (reads_uuid c.jti) (.nil _))))))) ?_
  show Except.ok (Claims.mk c.sub c.email c.use exp iat c.jti) = _
  rw [← he, ← hi]

/-- Of the registered claims only the expiry counts. -/
theorem run_registered_toJson {c : Claims} (issued : 0 ≤ c.iat) (order : c.iat ≤ c.exp)
    (bound : c.exp < 2 ^ 63) :
    Registered.reader.run (Hash.textBytes c.toJson.render) = .ok ⟨some c.exp.toNat, false⟩ := by
  obtain ⟨exp, he⟩ := Int.eq_ofNat_of_zero_le (Int.le_trans issued order)
  obtain ⟨iat, hi⟩ := Int.eq_ofNat_of_zero_le issued
  rw [textBytes_toJson he hi, Claims.written, he, Int.toNat_natCast]
  refine Json.run_shape
    (takes_field rfl rfl ((reads_anything c.sub.text).bind fun _ => rfl)
      (.unknown rfl (Json.reads_skip_text _)
        (.unknown rfl (Json.reads_skip_text _)
          (takes_field rfl rfl (reads_instant (by unfold greatestNat; omega))
            (.unknown rfl (Json.reads_skip_natText _)
              (.unknown rfl (Json.reads_skip_text _) (.nil _))))))) rfl

/-! ## §3 The identifier alone -/

/-- The record of claims with all but their own identifier left out. -/
def Claims.stamp : Json.Shape (Option Uuid) Uuid where
  title := "struct Stamp"
  start := none
  fields := [.required "jti" id (fun _ x => some x) uuid]
  whole := Json.need "jti"

/-- The identifier can be read of any claims, also of some that no token can carry. -/
theorem run_stamp_toJson (c : Claims) :
    Claims.stamp.reader.run (Hash.textBytes c.toJson.render) = .ok c.jti := by
  rw [Claims.toJson, Json.textBytes_object]
  simp only [List.map_cons, List.map_nil]
  have text (s : String) : Reads skipValue (Text.utf8 (Value.text s).chars) () := by
    rw [Value.chars, Json.utf8_literal]
    exact Json.reads_skip_text s
  have jti : Reads uuid (Text.utf8 (Value.text c.jti.text).chars) c.jti := by
    rw [Value.chars, Json.utf8_literal]
    exact reads_uuid c.jti
  exact Json.run_shape
    (.unknown rfl (text _) (.unknown rfl (text _) (.unknown rfl (text _)
      (.unknown rfl (Json.reads_skip_int _) (.unknown rfl (Json.reads_skip_int _)
        (takes_field rfl rfl jti (.nil _))))))) rfl

theorem jti_eq_of_render_eq {c d : Claims} (h : c.toJson.render = d.toJson.render) :
    c.jti = d.jti := by
  have e := run_stamp_toJson c
  rw [h, run_stamp_toJson d] at e
  exact (Except.ok.inj e).symm

end Roster.Token
