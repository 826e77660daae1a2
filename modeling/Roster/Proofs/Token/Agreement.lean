/-
Roster.Proofs.Token.Agreement — claims say the same to both of their readers.

The claims of a token are read twice, once as a record in which every field has
its type and once for the registered claims alone, where a value of the wrong
kind is given up in its midst and forgiven. If both readings succeed and the
second has found an expiry, it is that of the first (`exp_agrees`).

The two readings of an object go through the same keys (`exp_of_readKeys`): a
value that is read to its end by both leaves them at the same key, and a value
that is given up inside a bracket or string leaves the second reading `Lost`,
from where it never reaches the end of the object.
-/
import Roster.Proofs.Json.Keys
import Roster.Proofs.Token.Codec

namespace Roster.Token

open Json (Cursor Reader Shape Lexer Mode Tracks Ends Loose Moves Fits)
open Json.Reader (key skip)

variable {n : Nat} {c c' d d' : Cursor}

/-! ## §1 Fields -/

theorem tracks_required {σ α : Type} {name : String} {get : σ → Option α} {set : σ → α → σ}
    {r : Reader α} {m : Nat} (t : ∀ c, Tracks none m ⟨.outside, m⟩ r (Ends m) c) (s : σ)
    (c : Cursor) :
    Tracks none m ⟨.outside, m⟩ ((Json.Field.required name get set r).read s) (Ends m) c :=
  .bind_ends (t c) fun _ _ => .pure rfl

/-- Each field of the claims is read to its end. -/
theorem tracks_claims {f : Json.Field Claims.Partial} (h : f ∈ Claims.shape.fields)
    (s : Claims.Partial) (k : Nat) (c : Cursor) :
    Tracks none k ⟨.outside, k⟩ (f.read s) (Ends k) c := by
  simp only [Claims.shape, List.mem_cons, List.not_mem_nil, or_false] at h
  rcases h with rfl | rfl | rfl | rfl | rfl | rfl
  · exact tracks_required (Reader.tracks_parsed _ _) s c
  · exact tracks_required (Reader.tracks_text _) s c
  · exact tracks_required (Reader.tracks_named _ _) s c
  · exact tracks_required (Reader.tracks_integer _ _ _) s c
  · exact tracks_required (Reader.tracks_integer _ _ _) s c
  · exact tracks_required (Reader.tracks_parsed _ _) s c

theorem tracks_instantOrFail {x : Option Nat} {m : Nat} (c : Cursor) :
    Tracks x m ⟨.outside, m⟩ Registered.instant.instantOrFail (Ends m) c := by
  have natural (number : Json.Number) (c : Cursor) :
      Tracks x m ⟨.outside, m⟩ (Registered.instant.natural number) (Ends m) c := by
    cases number with
    | nat n => exact .pure rfl
    | _ => exact .fail rfl (Json.loose_outside m)
  rw [Registered.instant.instantOrFail]
  refine .token (fun n => ?_) (fun b q n => ?_) c
  · exact .fail rfl (Json.loose_outside m)
  split
  next e => cases e
  next e =>
    cases e
    exact .advance (.minus m q n)
      (.bind_ends (Reader.tracks_number true (Reader.due_digit _)) natural)
  next e =>
    cases e
    refine .advance (.opening (.inl rfl) m q n)
      (Reader.tracks_enclosed ?_ Reader.tracks_endList Reader.strays_endList)
    exact .fail rfl (Json.loose_outside _)
  next e =>
    cases e
    refine .advance (.opening (.inr rfl) m q n)
      (Reader.tracks_enclosed ?_ Reader.tracks_endObject Reader.strays_endObject)
    exact .fail rfl (Json.loose_outside _)
  next e =>
    cases e
    split
    next digit =>
      exact .bind_ends (Reader.tracks_number false (Reader.due_outside digit q n)) natural
    next => exact Reader.tracks_mismatch _ _

/-- An instant is read to its end, or given up at a place that is loose. -/
theorem loose_instant {m : Nat} {x : Option Nat} (h : Registered.instant c = .ok x c')
    (fits : Fits n ⟨.outside, m⟩ c) : ∃ τ, Moves ⟨.outside, m⟩ c τ c' ∧ Loose m τ := by
  refine Json.loose_of_attempt (tracks_instantOrFail c) fits (fun x c => ?_) h
  cases x with
  | ok _ => exact ⟨_, rfl⟩
  | error _ => exact ⟨_, rfl⟩

theorem loose_anything {m : Nat} {x : Option Json.Value} (h : Registered.anything c = .ok x c')
    (fits : Fits n ⟨.outside, m⟩ c) : ∃ τ, Moves ⟨.outside, m⟩ c τ c' ∧ Loose m τ := by
  refine Json.loose_of_attempt (Reader.tracks_optional (Reader.tracks_value _) c) fits
    (fun x c => ?_) h
  cases x with
  | ok _ => exact ⟨_, rfl⟩
  | error _ => exact ⟨_, rfl⟩

theorem loose_registered {f : Json.Field Registered.Partial} (h : f ∈ Registered.shape.fields)
    {s t : Registered.Partial} {m : Nat} (read : f.read s c = .ok t c')
    (fits : Fits n ⟨.outside, m⟩ c) : ∃ τ, Moves ⟨.outside, m⟩ c τ c' ∧ Loose m τ := by
  simp only [Registered.shape, List.mem_cons, List.not_mem_nil, or_false] at h
  rcases h with rfl | rfl | rfl | rfl | rfl
  all_goals obtain ⟨x, d, read, e⟩ := Reader.of_bind read; cases e
  · exact loose_instant read fits
  all_goals obtain ⟨x, d, read, e⟩ := Reader.of_bind read; cases e
  · exact loose_instant read fits
  · exact loose_anything read fits
  · exact loose_anything read fits
  · exact loose_anything read fits

theorem keeps_claims : Claims.shape.Keeps "exp" Claims.Partial.exp where
  other f hf ne s c t c' read := by
    simp only [Claims.shape, List.mem_cons, List.not_mem_nil, or_false] at hf
    rcases hf with rfl | rfl | rfl | rfl | rfl | rfl
    all_goals obtain ⟨x, d, -, e⟩ := Reader.of_bind read; cases e
    case inr.inr.inr.inl => exact absurd rfl ne
    all_goals rfl
  fresh s fresh := by
    have unread : s.exp.isSome = false := fresh _ rfl
    simpa using unread

theorem keeps_registered : Registered.shape.Keeps "exp" Registered.Partial.exp where
  other f hf ne s c t c' read := by
    simp only [Registered.shape, List.mem_cons, List.not_mem_nil, or_false] at hf
    rcases hf with rfl | rfl | rfl | rfl | rfl
    all_goals obtain ⟨x, d, -, e⟩ := Reader.of_bind read; cases e
    case inl => exact absurd rfl ne
    all_goals rfl
  fresh s fresh := by
    have unread : s.exp.isSome = false := fresh _ rfl
    simpa using unread

/-! ## §2 The expiry -/

/-- A number with its sign, read at the next byte that is no blank. -/
inductive ReadsNumber (c : Cursor) (x : Json.Number) (c' : Cursor) : Prop
  | minus {q : List UInt8} {n : Nat} : skip c = ⟨0x2D :: q, n⟩ →
    Reader.number true ⟨q, n + 1⟩ = .ok x c' → ReadsNumber c x c'
  | digit {b : UInt8} {q : List UInt8} {n : Nat} : skip c = ⟨b :: q, n⟩ → Reader.isDigit b = true →
    Reader.number false ⟨b :: q, n⟩ = .ok x c' → ReadsNumber c x c'

theorem ReadsNumber.unique {x y : Json.Number} (h : ReadsNumber c x c') (h' : ReadsNumber c y d) :
    x = y := by
  cases h with
  | minus at_ read =>
    cases h' with
    | minus at_' read' =>
      cases at_.symm.trans at_'
      cases read.symm.trans read'
      rfl
    | digit at_' digit read' =>
      cases at_.symm.trans at_'
      cases digit
  | digit at_ digit read =>
    cases h' with
    | minus at_' read' =>
      cases at_.symm.trans at_'
      cases digit
    | digit at_' digit' read' =>
      cases at_.symm.trans at_'
      cases read.symm.trans read'
      rfl

/-- A number that passes the bounds of an integer is that integer. -/
theorem of_bounds {x : Json.Number} {i low high : Int} {expected : String}
    (h : (match x.toInt? with
      | none => Reader.refuse (.invalidType (.number x) expected)
      | some i =>
        if low ≤ i ∧ i ≤ high then return i
        else Reader.refuse (.invalidValue (.number x) expected) : Reader Int) c = .ok i c') :
    x.toInt? = some i ∧ c = c' := by
  cases value : x.toInt? with
  | none =>
    rw [value] at h
    cases h
  | some j =>
    rw [value] at h
    dsimp only at h
    split at h
    · cases h
      exact ⟨rfl, rfl⟩
    · cases h

theorem of_int64 {i : Int} (h : Reader.int64 c = .ok i c') :
    ∃ x : Json.Number, x.toInt? = some i ∧ ReadsNumber c x c' := by
  rw [Reader.int64, Reader.integer, Reader.peekToken_bind] at h
  generalize at_ : skip c = k at h
  obtain ⟨_ | ⟨b, q⟩, n⟩ := k
  · cases h
  by_cases minus : b = 0x2D
  · subst minus
    obtain ⟨_, _, advanced, h⟩ := Reader.of_bind h
    cases advanced
    obtain ⟨x, _, read, h⟩ := Reader.of_bind h
    obtain ⟨value, rfl⟩ := of_bounds h
    exact ⟨x, value, .minus at_ read⟩
  simp only [List.head?_cons] at h
  split at h
  next digit =>
    obtain ⟨x, _, read, h⟩ := Reader.of_bind h
    obtain ⟨value, rfl⟩ := of_bounds h
    exact ⟨x, value, .digit at_ digit read⟩
  next =>
    obtain ⟨x, _, read, -⟩ := Reader.of_bind h
    exact absurd read Reader.not_ok_mismatch

theorem of_natural {x : Json.Number} {e : Nat} {c₁ : Cursor}
    (h : Registered.instant.natural x c₁ = .ok e c') : x = .nat e ∧ c₁ = c' := by
  cases x with
  | nat k =>
    cases h
    exact ⟨rfl, rfl⟩
  | _ => cases h

theorem of_instant {e : Nat} (h : Registered.instant c = .ok (some e) c') :
    ReadsNumber c (.nat e) c' := by
  have h : Registered.instant.instantOrFail c = .ok e c' := by
    obtain ⟨result, _, attempted, h⟩ := Reader.of_bind h
    cases result with
    | ok e' =>
      cases h
      exact Reader.of_attempt attempted
    | error _ => cases h
  have unclosed {x : Json.Found} {close : Reader Unit} {k : Cursor} :
      Reader.enclosed (Reader.refuse (.invalidType x "an instant")) close k ≠ .ok e c' := by
    intro h
    cases (Reader.enclosed_fault rfl).symm.trans h
  rw [Registered.instant.instantOrFail, Reader.peekToken_bind] at h
  generalize at_ : skip c = k at h
  obtain ⟨_ | ⟨b, q⟩, n⟩ := k
  · cases h
  by_cases minus : b = 0x2D
  · subst minus
    obtain ⟨_, _, advanced, h⟩ := Reader.of_bind h
    cases advanced
    obtain ⟨x, _, read, h⟩ := Reader.of_bind h
    obtain ⟨rfl, rfl⟩ := of_natural h
    exact .minus at_ read
  by_cases list : b = 0x5B
  · subst list
    obtain ⟨_, _, -, h⟩ := Reader.of_bind h
    exact absurd h unclosed
  by_cases object : b = 0x7B
  · subst object
    obtain ⟨_, _, -, h⟩ := Reader.of_bind h
    exact absurd h unclosed
  simp only [List.head?_cons] at h
  split at h
  next digit =>
    obtain ⟨x, _, read, h⟩ := Reader.of_bind h
    obtain ⟨rfl, rfl⟩ := of_natural h
    exact .digit at_ digit read
  next => exact absurd h Reader.not_ok_mismatch

/-- An integer and an instant read at the same place are the same. -/
theorem exp_eq {i : Int} {e : Nat} (h : Reader.int64 c = .ok i c')
    (h' : Registered.instant c = .ok (some e) d) : i = e := by
  obtain ⟨x, value, read⟩ := of_int64 h
  cases read.unique (of_instant h')
  exact (Option.some.inj value).symm

/-! ## §3 Lost -/

/--
The lexer is one bracket too deep, or within a string, while the reader takes
its place for the one before the next key of an object.
-/
def Lost (c : Cursor) : Prop :=
  ∃ τ, Fits 0 τ c ∧ ((τ.mode = .outside ∧ 2 ≤ τ.depth) ∨ τ.mode = .string)

theorem lost_outside {m : Nat} (fits : Fits 0 ⟨.outside, m + 2⟩ c) : Lost c :=
  ⟨_, fits, .inl ⟨rfl, Nat.le_add_left 2 m⟩⟩

theorem lost_of_loose {m : Nat} {τ : Lexer} (loose : Loose (m + 2) τ) (fits : Fits 0 τ c) :
    Lost c :=
  ⟨τ, fits, loose.imp_left fun ⟨mode, depth⟩ => ⟨mode, Nat.le_trans (Nat.le_add_left 2 m) depth⟩⟩

namespace Lost

theorem split (h : Lost c) :
    (∃ m, Fits 0 ⟨.outside, m + 2⟩ c) ∨ ∃ τ, Fits 0 τ c ∧ τ.mode = .string := by
  obtain ⟨⟨μ, k⟩, fits, ⟨mode, depth⟩ | string⟩ := h
  · cases mode
    obtain ⟨m, rfl⟩ : ∃ m, k = m + 2 := ⟨k - 2, by dsimp only at depth; omega⟩
    exact .inl ⟨m, fits⟩
  · exact .inr ⟨_, fits, string⟩

/-- A string goes on over whatever takes the reader outside. -/
theorem string_moves {k l : Nat} {τ : Lexer} (moves : Moves ⟨.outside, k⟩ c ⟨.outside, l⟩ d)
    (fits : Fits 0 τ c) (mode : τ.mode = .string) : ∃ τ, Fits 0 τ d ∧ τ.mode = .string := by
  have opposite : Json.Opposite ⟨.outside, k⟩ τ := .inl ⟨rfl, mode⟩
  obtain ⟨τ', fits, opposite⟩ := opposite.moves moves nofun fits
  obtain ⟨-, mode⟩ := opposite.resolve_right nofun
  exact ⟨τ', fits, mode⟩

/-- What is read at any depth and ends there leaves the reader lost. -/
theorem moves (h : Lost c) (moves : ∀ m, Moves ⟨.outside, m + 1⟩ c ⟨.outside, m + 1⟩ d) :
    Lost d := by
  rcases h.split with ⟨m, fits⟩ | ⟨τ, fits, mode⟩
  · exact lost_outside (((moves (m + 1)).fits_iff 0).1 fits)
  · obtain ⟨τ', fits, mode⟩ := string_moves (moves 0) fits mode
    exact ⟨τ', fits, .inr mode⟩

theorem key {first : Bool} {x : Option String} (h : Lost c) (read : key first c = .ok x d) :
    Lost d := by
  refine h.moves fun m => ?_
  obtain ⟨_, moves, rfl⟩ := (Reader.tracks_anyKey first m c).ok read
  exact moves

/-- The names of the registered claims have letters that stand in strings only. -/
theorem inner_name {f : Json.Field Registered.Partial} (h : f ∈ Registered.shape.fields) :
    ∃ b ∈ Hash.textBytes f.name, Json.isOuter b = false := by
  simp only [Registered.shape, List.mem_cons, List.not_mem_nil, or_false] at h
  rcases h with rfl | rfl | rfl | rfl | rfl
  · exact ⟨0x78, by decide, rfl⟩
  · exact ⟨0x62, by decide, rfl⟩
  · exact ⟨0x62, by decide, rfl⟩
  · exact ⟨0x69, by decide, rfl⟩
  · exact ⟨0x64, by decide, rfl⟩

theorem skipValue (h : Lost c) (read : Reader.skipValue c = .ok () d) : Lost d := by
  refine h.moves fun m => ?_
  obtain ⟨_, moves, rfl⟩ := (Reader.tracks_skipValue c).ok read
  exact moves

/-- A value is read or skipped: within a string its name is none that is known. -/
theorem value {first : Bool} {name : String} {s t : Registered.Partial} {k : Cursor} (h : Lost c)
    (named : Reader.key first c = .ok (some name) k)
    (read : Registered.shape.value s name k = .ok t d) : Lost d := by
  rcases Shape.of_value read with ⟨f, mem, rfl, taken⟩ | ⟨skipped, -⟩
  · rcases h.split with ⟨m, fits⟩ | ⟨τ, fits, mode⟩
    · obtain ⟨_, moves, rfl⟩ := (Reader.tracks_anyKey first (m + 1) c).ok named
      have fits := (moves.fits_iff 0).1 fits
      obtain ⟨τ, moves, loose⟩ := loose_registered mem taken fits
      exact lost_of_loose loose ((moves.fits_iff 0).1 fits)
    · obtain ⟨b, hb, inner⟩ := inner_name mem
      rw [Json.outer_of_key named fits mode b hb] at inner
      cases inner
  · exact (h.key named).skipValue skipped

theorem readKeys {s t : Registered.Partial} {first : Bool} (h : Lost c)
    (read : Registered.shape.readKeys s first n c = .ok t d) : Lost d := by
  induction n generalizing s first c with
  | zero =>
    cases read
    exact h
  | succ n ih =>
    rcases Shape.of_readKeys read with ⟨last, -⟩ | ⟨name, k, u, c₁, named, -, read, rest⟩
    · exact h.key last
    · exact ih (h.value named read) rest

/-- The end of the object cannot be the end of the text. -/
theorem not_end (h : Lost c) (ended : Reader.endObject c = .ok () d)
    (blank : (skip d).rest = []) : False := by
  have moves (m : Nat) : Moves ⟨.outside, m + 1⟩ c ⟨.outside, m⟩ (skip d) := by
    obtain ⟨_, moves, rfl⟩ := (Reader.tracks_endObject (m := m) c).ok ended
    exact moves.trans (.blanks m d.rest d.taken)
  generalize skip d = k at moves blank
  obtain ⟨u, n⟩ := k
  cases blank
  rcases h.split with ⟨m, fits⟩ | ⟨τ, fits, mode⟩
  · cases ((moves (m + 1)).fits_iff 0).1 fits
  · obtain ⟨τ', fits, mode⟩ := string_moves (moves 0) fits mode
    exact Fits.ne_nil (by rw [mode]; nofun) fits

end Lost

/-! ## §4 Two readings of one object -/

theorem value_claims {name : String} {s u : Claims.Partial} {m : Nat}
    (h : Claims.shape.value s name c = .ok u d) :
    Moves ⟨.outside, m⟩ c ⟨.outside, m⟩ d := by
  rcases Shape.of_value h with ⟨f, mem, -, read⟩ | ⟨skipped, -⟩
  · obtain ⟨_, moves, rfl⟩ := (tracks_claims mem s m c).ok read
    exact moves
  · obtain ⟨_, moves, rfl⟩ := (Reader.tracks_skipValue c).ok skipped
    exact moves

/-- A value of an object either leaves both readings at one place or the second one lost. -/
theorem value_registered {name : String} {t v : Registered.Partial}
    (h : Registered.shape.value t name c = .ok v d) (fits : Fits 1 ⟨.outside, 0⟩ c) :
    Moves ⟨.outside, 0⟩ c ⟨.outside, 0⟩ d ∨ Lost d := by
  rcases Shape.of_value h with ⟨f, mem, -, read⟩ | ⟨skipped, -⟩
  · obtain ⟨⟨μ, k⟩, moves, loose⟩ := loose_registered mem read fits
    have fits : Fits 0 ⟨μ, k + 1⟩ d := (moves.fits_iff 1).1 fits
    rcases loose with ⟨mode, -⟩ | mode
    · cases mode
      cases k with
      | zero => exact .inl moves
      | succ k => exact .inr (lost_outside fits)
    · exact .inr ⟨_, fits, .inr mode⟩
  · obtain ⟨_, moves, rfl⟩ := (Reader.tracks_skipValue c).ok skipped
    exact .inl moves

theorem value_exp_claims {s u : Claims.Partial} (h : Claims.shape.value s "exp" c = .ok u d) :
    ∃ i, Reader.int64 c = .ok i d ∧ u.exp = some i := by
  obtain ⟨i, _, read, e⟩ := Reader.of_bind h
  cases e
  exact ⟨i, read, rfl⟩

theorem value_exp_registered {t v : Registered.Partial}
    (h : Registered.shape.value t "exp" c = .ok v d) :
    ∃ x, Registered.instant c = .ok x d ∧ v.exp = some x := by
  obtain ⟨x, _, read, e⟩ := Reader.of_bind h
  cases e
  exact ⟨x, read, rfl⟩

/-- Both readings of an object find the same expiry, if the second finds any and the end. -/
theorem exp_of_readKeys {s s' : Claims.Partial} {t t' : Registered.Partial} {first : Bool}
    {d'' : Cursor} {e : Nat} (fits : Fits 0 ⟨.outside, 1⟩ c) (same : skip c = skip d)
    (unread : t.exp = none) (claims : Claims.shape.readKeys s first n c = .ok s' c')
    (registered : Registered.shape.readKeys t first n d = .ok t' d')
    (ended : Reader.endObject d' = .ok () d'') (blank : (skip d'').rest = [])
    (found : t'.exp = some (some e)) : s'.exp = some (e : Int) := by
  induction n generalizing s t first c d with
  | zero =>
    cases registered
    rw [unread] at found
    cases found
  | succ n ih =>
    have sameKey : key first d = key first c := by
      rw [Json.key_skip, ← same, ← Json.key_skip]
    rcases Shape.of_readKeys registered with ⟨-, rfl⟩ | ⟨name, k, v, d₁, named, -, value', rest'⟩
    · rw [unread] at found
      cases found
    rw [sameKey] at named
    rcases Shape.of_readKeys claims with ⟨last, -⟩ | ⟨name', k', u, c₁, named', -, value, rest⟩
    · cases last.symm.trans named
    cases named'.symm.trans named
    have inside : Fits 0 ⟨.outside, 1⟩ k := by
      obtain ⟨_, moves, rfl⟩ := (Reader.tracks_anyKey first 0 c).ok named
      exact (moves.fits_iff 0).1 fits
    by_cases exp : name = "exp"
    · subst exp
      obtain ⟨i, read, got⟩ := value_exp_claims value
      obtain ⟨x, read', got'⟩ := value_exp_registered value'
      cases (keeps_registered.readKeys rest' got').symm.trans found
      rw [keeps_claims.readKeys rest got, exp_eq read read']
    · have unread' : v.exp = none := (keeps_registered.value value' exp).trans unread
      have moves : Moves ⟨.outside, 0⟩ k ⟨.outside, 0⟩ c₁ := value_claims value
      have fits₁ : Fits 0 ⟨.outside, 1⟩ c₁ := ((value_claims value).fits_iff 0).1 inside
      rcases value_registered value' inside with moves' | lost
      · cases n with
        | zero =>
          cases rest'
          rw [unread'] at found
          cases found
        | succ n =>
          obtain ⟨_, _, stop⟩ := Shape.key_of_readKeys rest
          obtain ⟨_, _, stop'⟩ := Shape.key_of_readKeys rest'
          have same₁ : skip c₁ = skip d₁ :=
            Json.skip_eq moves moves' (Json.stop_of_key stop) (Json.stop_of_key stop')
          exact ih fits₁ same₁ unread' rest rest'
      · exact ((lost.readKeys rest').not_end ended blank).elim

/-! ## §5 The whole claims -/

theorem need_eq_ok {α : Type} {name : String} {x : Option α} {a : α}
    (h : Json.need name x = .ok a) : x = some a := by
  cases x with
  | none => cases h
  | some b =>
    cases h
    rfl

theorem exp_of_whole {s : Claims.Partial} {claims : Claims}
    (h : Claims.shape.whole s = .ok claims) : s.exp = some claims.exp := by
  obtain ⟨_, -, h⟩ := bind_eq_ok.1 h
  obtain ⟨_, -, h⟩ := bind_eq_ok.1 h
  obtain ⟨_, -, h⟩ := bind_eq_ok.1 h
  obtain ⟨exp, expiry, h⟩ := bind_eq_ok.1 h
  obtain ⟨_, -, h⟩ := bind_eq_ok.1 h
  obtain ⟨_, -, h⟩ := bind_eq_ok.1 h
  cases h
  exact need_eq_ok expiry

/-- In a list the expiry of the second reading would stand where the first one finds a text. -/
theorem exp_of_readItems {s : Claims.Partial} {t : Registered.Partial}
    (claims : Claims.shape.readItems Claims.shape.start 0 false Claims.shape.fields c = .ok s d)
    (registered : Registered.shape.readItems Registered.shape.start 0 false
      Registered.shape.fields c = .ok t d') : t.exp = some none := by
  obtain ⟨k, has⟩ := Shape.hasItem_of_readItems rfl claims
  obtain ⟨_, _, sub, -⟩ := Shape.of_readItems claims has
  obtain ⟨v, _, exp, rest⟩ := Shape.of_readItems registered has
  obtain ⟨_, _, uuid, -⟩ := Reader.of_bind sub
  obtain ⟨_, _, text, -⟩ := Reader.of_bind uuid
  obtain ⟨q, n, at_⟩ := Reader.of_text text
  obtain ⟨x, _, instant, e⟩ := Reader.of_bind exp
  cases e
  have others : ∀ f ∈ Registered.shape.fields.tail,
      f ∈ Registered.shape.fields ∧ f.name ≠ "exp" := by
    intro f hf
    refine ⟨List.mem_of_mem_tail hf, ?_⟩
    simp only [Registered.shape, List.tail_cons, List.mem_cons, List.not_mem_nil, or_false] at hf
    rcases hf with rfl | rfl | rfl | rfl
    all_goals decide
  rw [keeps_registered.readItems others rest]
  cases x with
  | none => rfl
  | some e =>
    cases of_instant instant with
    | minus at_' => cases at_.symm.trans at_'
    | digit at_' digit =>
      cases at_.symm.trans at_'
      cases digit

/-- The expiry of the registered claims is that of the claims. -/
theorem exp_agrees {bytes : List UInt8} {claims : Claims} {registered : Registered} {e : Nat}
    (h : Claims.reader.run bytes = .ok claims) (h' : Registered.reader.run bytes = .ok registered)
    (found : registered.exp = some e) : claims.exp = e := by
  have fits : Fits 0 ⟨.outside, 0⟩ (Cursor.ofBytes bytes) :=
    Reader.fits_of_run h (Reader.tracks_record (fun f hf => tracks_claims hf) _)
  obtain ⟨d, read, -⟩ := Reader.of_run h
  obtain ⟨d', read', blank⟩ := Reader.of_run h'
  have fits : Fits 0 ⟨.outside, 0⟩ (skip (Cursor.ofBytes bytes)) :=
    ((Moves.blanks 0 _ _).fits_iff 0).1 fits
  rcases Shape.of_reader read with ⟨q, n, s, c, at_, keys, whole, -⟩ |
    ⟨q, n, s, c, at_, items, whole⟩
  · rcases Shape.of_reader read' with ⟨q', n', t, c', at_', keys', whole', closed⟩ |
      ⟨q', n', t, c', at_', -⟩
    · cases at_.symm.trans at_'
      cases whole'
      rw [at_] at fits
      have inside := ((Moves.opening (.inr rfl) 0 q n).fits_iff 0).1 fits
      have expiry : t.exp = some (some e) := by
        cases got : t.exp with
        | none =>
          rw [got] at found
          cases found
        | some x =>
          rw [got] at found
          exact congrArg some found
      have same := exp_of_readKeys inside rfl rfl keys keys' closed blank expiry
      exact Option.some.inj ((exp_of_whole whole).symm.trans same)
    · cases at_.symm.trans at_'
  · rcases Shape.of_reader read' with ⟨q', n', t, c', at_', -⟩ |
      ⟨q', n', t, c', at_', items', whole'⟩
    · cases at_.symm.trans at_'
    · cases at_.symm.trans at_'
      cases whole'
      rw [exp_of_readItems items items'] at found
      cases found

end Roster.Token
