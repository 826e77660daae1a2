/-
Roster.Proofs.Json.Nesting — typed values, lists and objects keep to the lexer.

A list or object is closed after a fault inside it, so that the fault of a value
of any kind leaves the lexer at its depth or further in, or within a string
(`tracks_value`). A record is read to its end or not at all (`tracks_record`).
-/
import Roster.Proofs.Json.Following

namespace Roster.Json.Reader

variable {α β : Type} {d : Option Nat} {m : Nat}

/-! ## §1 Scalars -/

/-- A value of the wrong kind is read as far as to name it. -/
theorem tracks_mismatch (expected : String) (c : Cursor) {Q : α → Lexer → Cursor → Prop} :
    Tracks d m ⟨.outside, m⟩ (mismatch expected) Q c := by
  rw [mismatch]
  refine .look (fun n => ?_) (fun b q n => ?_) c
  · exact .fail rfl (loose_outside m)
  extract_lets found
  have refused (x : Found) (c : Cursor) : Tracks d m ⟨.outside, m⟩ (found x) Q c :=
    .fail rfl (loose_outside m)
  split
  next e =>
    cases e
    exact .bind_ends (tracks_null q n) fun _ c => refused _ c
  next e =>
    cases e
    exact .bind_ends (tracks_true q n) fun _ c => refused _ c
  next e =>
    cases e
    exact .bind_ends (tracks_false q n) fun _ c => refused _ c
  next e =>
    cases e
    refine .advance (.minus m q n) ?_
    exact .bind_ends (tracks_number true (due_digit _)) fun _ c => refused _ c
  next e =>
    cases e
    exact .advance (.quote m q n) (.bind_ends (tracks_stringBody _) fun _ c => refused _ c)
  next => exact refused _ _
  next => exact refused _ _
  next e =>
    cases e
    split
    next digit =>
      exact .bind_ends (tracks_number false (due_outside digit q n)) fun _ c => refused _ c
    next => exact .fail rfl (loose_outside m)
  next e => cases e

theorem tracks_text (expected : String) (c : Cursor) :
    Tracks d m ⟨.outside, m⟩ (text expected) (Ends m) c := by
  rw [text]
  refine .token (fun n => ?_) (fun b q n => ?_) c
  · exact .fail rfl (loose_outside m)
  split
  next e => cases e
  next e =>
    cases e
    exact .advance (.quote m q n) (tracks_stringBody _)
  next => exact tracks_mismatch expected _

theorem tracks_parsed (expected : String) (parse : String → Except String α) (c : Cursor) :
    Tracks d m ⟨.outside, m⟩ (parsed expected parse) (Ends m) c := by
  rw [parsed]
  refine .bind_ends (tracks_text expected c) fun s c => ?_
  cases parse s with
  | ok a => exact .pure rfl
  | error reason => exact .fail rfl (loose_outside m)

theorem tracks_integer (expected : String) (low high : Int) (c : Cursor) :
    Tracks d m ⟨.outside, m⟩ (integer expected low high) (Ends m) c := by
  rw [integer]
  refine .token (fun n => ?_) (fun b q n => ?_) c
  · exact .fail rfl (loose_outside m)
  extract_lets check
  have checked (x : Number) (c : Cursor) : Tracks d m ⟨.outside, m⟩ (check x) (Ends m) c := by
    dsimp only [check]
    split
    · exact .fail rfl (loose_outside m)
    split
    · exact .pure rfl
    · exact .fail rfl (loose_outside m)
  split
  next e => cases e
  next e =>
    cases e
    exact .advance (.minus m q n) (.bind_ends (tracks_number true (due_digit _)) checked)
  next e =>
    cases e
    split
    next digit => exact .bind_ends (tracks_number false (due_outside digit q n)) checked
    next => exact .bind (tracks_mismatch expected _) fun _ _ _ h => h

theorem tracks_unit (c : Cursor) : Tracks d m ⟨.outside, m⟩ unit (Ends m) c := by
  rw [unit]
  refine .token (fun n => ?_) (fun b q n => ?_) c
  · exact .fail rfl (loose_outside m)
  split
  next e => cases e
  next e =>
    cases e
    exact tracks_null q n
  next => exact tracks_mismatch _ _

theorem tracks_variantName (known : List String) (c : Cursor) :
    Tracks d m ⟨.outside, m⟩ (variantName known) (Ends m) c := by
  rw [variantName]
  refine .bind_ends (tracks_text _ c) fun name c => ?_
  split
  · exact .pure rfl
  · exact .fail rfl (loose_outside m)

theorem tracks_choice (known : List String) (c : Cursor) :
    Tracks none m ⟨.outside, m⟩ (choice known) (Ends m) c := by
  rw [choice]
  refine .token (fun n => ?_) (fun b q n => ?_) c
  · exact .vacuous rfl
  split
  next e =>
    cases e
    exact tracks_variantName known _
  next e =>
    cases e
    refine .advance (.opening (.inr rfl) m q n) (.at_depth (m := m + 1) ?_ m)
    refine .bind_ends (tracks_variantName known _) fun name c => ?_
    refine .bind_ends (tracks_colon c) fun _ c => ?_
    refine .bind_ends ((tracks_unit c).within _) fun _ c => ?_
    refine .token (fun n => ?_) (fun b q n => ?_) c
    · exact .vacuous rfl
    split
    next e =>
      cases e
      exact .advance (.closing (.inr rfl) m q n) (.pure rfl)
    next => exact .vacuous rfl
    next => exact .vacuous rfl
  next => exact .vacuous rfl
  next => exact .vacuous rfl

theorem tracks_named [Inhabited α] (known : List String) (ofName? : String → Option α)
    (c : Cursor) : Tracks none m ⟨.outside, m⟩ (named known ofName?) (Ends m) c := by
  rw [named]
  refine .bind_ends (tracks_choice known c) fun name c => ?_
  cases ofName? name with
  | some a => exact .pure rfl
  | none => exact .vacuous rfl

/-! ## §2 Lists and objects -/

theorem tracks_hasItem (first : Bool) (c : Cursor) :
    Tracks d (m + 1) ⟨.outside, m + 1⟩ (hasItem first) (Ends (m + 1)) c := by
  rw [hasItem]
  refine .token (fun n => ?_) (fun b q n => ?_) c
  · exact .fail rfl (loose_outside _)
  dsimp only
  split
  · exact .pure rfl
  split
  · exact .pure rfl
  split
  next e =>
    cases e
    refine .advance (.comma (.inl rfl) m q n) (.token (fun n => ?_) (fun b q n => ?_) _)
    · exact .fail rfl (loose_outside _)
    split
    · exact .fail rfl (loose_outside _)
    · exact .pure rfl
    · exact .fail rfl (loose_outside _)
  next => exact .fail rfl (loose_outside _)

/-- Where there is another key, its quote comes next. -/
theorem tracks_hasKey (first : Bool) (c : Cursor) :
    Tracks d (m + 1) ⟨.outside, m + 1⟩ (hasKey first)
      (fun more σ c' => σ = ⟨.outside, m + 1⟩ ∧ (more = true → ∃ q n, c' = ⟨0x22 :: q, n⟩)) c := by
  rw [hasKey]
  refine .token (fun n => ?_) (fun b q n => ?_) c
  · exact .fail rfl (loose_outside _)
  dsimp only
  split
  · exact .pure ⟨rfl, nofun⟩
  split
  · split
    next e =>
      cases e
      exact .pure ⟨rfl, fun _ => ⟨q, n, rfl⟩⟩
    next => exact .fail rfl (loose_outside _)
  split
  next e =>
    cases e
    refine .advance (.comma (.inl rfl) m q n) (.token (fun n => ?_) (fun b q n => ?_) _)
    · exact .fail rfl (loose_outside _)
    split
    next e =>
      cases e
      exact .pure ⟨rfl, fun _ => ⟨_, _, rfl⟩⟩
    · exact .fail rfl (loose_outside _)
    · exact .fail rfl (loose_outside _)
    · exact .fail rfl (loose_outside _)
  next => exact .fail rfl (loose_outside _)

/-- A key up to its colon, if there is another. -/
theorem tracks_key {r : String → Reader α} {stop : Reader α} {Q : α → Lexer → Cursor → Prop}
    (first : Bool) (key : ∀ name c, Tracks d (m + 1) ⟨.outside, m + 1⟩ (r name) Q c)
    (last : ∀ c, Tracks d (m + 1) ⟨.outside, m + 1⟩ stop Q c) (c : Cursor) :
    Tracks d (m + 1) ⟨.outside, m + 1⟩
      (do
        if ← hasKey first then
          advance
          let name ← stringBody
          r name
        else stop) Q c := by
  refine (tracks_hasKey first c).bind fun more σ c ⟨e, quote⟩ => ?_
  cases e
  split
  next more =>
    obtain ⟨q, n, rfl⟩ := quote more
    exact .advance (.quote _ q n) (.bind_ends (tracks_stringBody _) key)
  next => exact last c

theorem tracks_endList (c : Cursor) :
    Tracks none m ⟨.outside, m + 1⟩ endList (Ends m) c := by
  rw [endList]
  refine .token (fun n => ?_) (fun b q n => ?_) c
  · exact .vacuous rfl
  split
  next e =>
    cases e
    exact .of_ok rfl (.closing (.inl rfl) m q n) rfl
  next e =>
    cases e
    refine .advance (.comma (.inl rfl) m q n) (.token (fun n => ?_) (fun b q n => ?_) _)
    · exact .vacuous rfl
    split
    · exact .vacuous rfl
    · exact .vacuous rfl
  next => exact .vacuous rfl
  next => exact .vacuous rfl

theorem tracks_endObject (c : Cursor) :
    Tracks none m ⟨.outside, m + 1⟩ endObject (Ends m) c := by
  rw [endObject]
  refine .token (fun n => ?_) (fun b q n => ?_) c
  · exact .vacuous rfl
  split
  next e =>
    cases e
    exact .of_ok rfl (.closing (.inr rfl) m q n) rfl
  next => exact .vacuous rfl
  next => exact .vacuous rfl
  next => exact .vacuous rfl

/-! ## §3 After a fault -/

/-- Where the lexer may be when a bracket is closed after a fault inside it. -/
def Astray (m : Nat) (σ : Lexer) : Prop := Loose m σ ∨ σ.mode = .broken

theorem Astray.mono {k : Nat} {σ : Lexer} (h : Astray k σ) (le : m ≤ k) : Astray m σ :=
  h.imp_left fun loose => loose.imp_left fun ⟨mode, depth⟩ => ⟨mode, Nat.le_trans le depth⟩

/-- Within a string, or where no text goes on, a byte that is no quote or backslash keeps it so. -/
theorem astray_inner {σ : Lexer} (h : σ.mode = .string ∨ σ.mode = .broken) {b : UInt8}
    (quote : b ≠ 0x22) (backslash : b ≠ 0x5C) (q : List UInt8) (n : Nat) :
    ∃ σ', Moves σ ⟨b :: q, n⟩ σ' ⟨q, n + 1⟩ ∧ Astray m σ' := by
  obtain ⟨μ, k⟩ := σ
  refine ⟨_, .inner (by rintro ⟨⟩; exact h.elim nofun nofun) b q n, ?_⟩
  rcases h with h | h
  · cases h
    rw [step_string quote backslash]
    split
    · exact .inr rfl
    · exact .inl (loose_string m k)
  · cases h
    exact .inr rfl

/-- A blank or comma is passed within a bracket. -/
theorem Astray.pass {σ : Lexer} (h : Astray (m + 1) σ) {b : UInt8}
    (hb : isBlank b = true ∨ b = 0x2C) (q : List UInt8) (n : Nat) :
    ∃ σ', Moves σ ⟨b :: q, n⟩ σ' ⟨q, n + 1⟩ ∧ Astray (m + 1) σ' := by
  have quote : b ≠ 0x22 := by rintro rfl; exact absurd hb (by decide)
  have backslash : b ≠ 0x5C := by rintro rfl; exact absurd hb (by decide)
  rcases h with (⟨mode, depth⟩ | mode) | mode
  · obtain ⟨μ, _ | k⟩ := σ
    · exact absurd depth (by simp)
    cases mode
    refine ⟨⟨.outside, k + 1⟩, ?_, .inl (.inl ⟨rfl, depth⟩)⟩
    rcases hb with blank | rfl
    · exact .plain (.inl blank) _ q n
    · exact .comma (.inl rfl) k q n
  · exact astray_inner (.inl mode) quote backslash q n
  · exact astray_inner (.inr mode) quote backslash q n

theorem Astray.closing {σ : Lexer} (h : Astray (m + 1) σ) {b : UInt8} (hb : b = 0x5D ∨ b = 0x7D)
    (q : List UInt8) (n : Nat) : ∃ σ', Moves σ ⟨b :: q, n⟩ σ' ⟨q, n + 1⟩ ∧ Astray m σ' := by
  have quote : b ≠ 0x22 := by rintro rfl; exact absurd hb (by decide)
  have backslash : b ≠ 0x5C := by rintro rfl; exact absurd hb (by decide)
  rcases h with (⟨mode, depth⟩ | mode) | mode
  · obtain ⟨μ, _ | k⟩ := σ
    · exact absurd depth (by simp)
    cases mode
    exact ⟨⟨.outside, k⟩, .closing hb k q n, .inl (.inl ⟨rfl, Nat.le_of_succ_le_succ depth⟩)⟩
  · exact astray_inner (.inl mode) quote backslash q n
  · exact astray_inner (.inr mode) quote backslash q n

/-- Where a reader has stopped, with or without a fault. -/
def left : EStateM.Result Error Cursor α → Cursor
  | .ok _ c => c
  | .error _ c => c

/-- Wherever the reader stops, the lexer has strayed no further than to depth `m`. -/
def Strays (m : Nat) (σ : Lexer) (r : Reader α) (c : Cursor) : Prop :=
  ∃ σ', Moves σ c σ' (left (r c)) ∧ Astray m σ'

namespace Strays

variable {σ σ' : Lexer} {r r' : Reader α} {c c' : Cursor}

/-- A reader that fails where it stands leaves the bracket open. -/
theorem stop (h : Astray (m + 1) σ) {e : Error} (run : r c = .error e c) : Strays m σ r c := by
  rw [Strays, run]
  exact ⟨σ, .refl σ c, h.mono (Nat.le_succ m)⟩

theorem move (moves : Moves σ c σ' c') (h : Strays m σ' r' c') (run : r c = r' c') :
    Strays m σ r c := by
  rw [Strays, run]
  obtain ⟨σ'', more, astray⟩ := h
  exact ⟨σ'', moves.trans more, astray⟩

theorem token {f : Option UInt8 → Reader α} (astray : Astray (m + 1) σ)
    (none : ∀ σ n, Astray (m + 1) σ → Strays m σ (f none) ⟨[], n⟩)
    (some : ∀ σ b q n, Astray (m + 1) σ → Strays m σ (f (some b)) ⟨b :: q, n⟩) (c : Cursor) :
    Strays m σ (peekToken >>= f) c := by
  obtain ⟨u, n⟩ := c
  induction u generalizing σ n with
  | nil => exact .move (.refl _ _) (none σ n astray) rfl
  | cons b q ih =>
    have run : (peekToken >>= f) ⟨b :: q, n⟩ =
        if isBlank b then (peekToken >>= f) ⟨q, n + 1⟩ else f (Option.some b) ⟨b :: q, n⟩ := by
      show f (skipBlanks n (b :: q)).rest.head? (skipBlanks n (b :: q)) = _
      rw [skipBlanks]
      split
      · rfl
      · rfl
    cases blank : isBlank b with
    | true =>
      obtain ⟨σ', moves, astray⟩ := astray.pass (.inl blank) q n
      exact .move moves (ih astray (n + 1)) (by rw [run, if_pos blank])
    | false => exact .move (.refl _ _) (some σ b q n astray) (by simp [run, blank])

end Strays

theorem strays_endList {σ : Lexer} (c : Cursor) (astray : Astray (m + 1) σ) :
    Strays m σ endList c := by
  rw [endList]
  refine .token astray (fun σ n astray => ?_) (fun σ b q n astray => ?_) c
  · exact .stop astray rfl
  split
  next e =>
    cases e
    obtain ⟨σ', moves, closed⟩ := astray.closing (.inl rfl) q n
    exact ⟨σ', moves, closed⟩
  next e =>
    cases e
    obtain ⟨σ', moves, astray⟩ := astray.pass (.inr rfl) q n
    refine .move moves ?_ (run_bind (run_advance _ _ _))
    refine .token astray (fun σ n astray => ?_) (fun σ b q n astray => ?_) _
    · exact .stop astray rfl
    split
    · exact .stop astray rfl
    · exact .stop astray rfl
  next => exact .stop astray rfl
  next => exact .stop astray rfl

theorem strays_endObject {σ : Lexer} (c : Cursor) (astray : Astray (m + 1) σ) :
    Strays m σ endObject c := by
  rw [endObject]
  refine .token astray (fun σ n astray => ?_) (fun σ b q n astray => ?_) c
  · exact .stop astray rfl
  split
  next e =>
    cases e
    obtain ⟨σ', moves, closed⟩ := astray.closing (.inr rfl) q n
    exact ⟨σ', moves, closed⟩
  next => exact .stop astray rfl
  next => exact .stop astray rfl
  next => exact .stop astray rfl

theorem attempt_ok {r : Reader α} {c c' : Cursor} {a : α} (h : r c = .ok a c') :
    attempt r c = .ok (.ok a) c' := by
  rw [attempt, h]

theorem attempt_error {r : Reader α} {c c' : Cursor} {e : Error} (h : r c = .error e c') :
    attempt r c = .ok (.error e) c' := by
  rw [attempt, h]

section

variable {inner : Reader α} {close : Reader Unit} {c c' c'' : Cursor} {a : α} {u : Unit} {e : Error}

theorem enclosed_ok (read : inner c = .ok a c') (closed : close c' = .ok u c'') :
    enclosed inner close c = .ok a c'' := by
  rw [enclosed, run_bind (attempt_ok read), run_bind (attempt_ok closed)]
  rfl

theorem enclosed_unclosed (read : inner c = .ok a c') (closed : close c' = .error e c'') :
    enclosed inner close c = .error e c'' := by
  rw [enclosed, run_bind (attempt_ok read), run_bind (attempt_error closed)]
  rfl

/-- The closing reader runs after a fault too. -/
theorem enclosed_fault (read : inner c = .error e c') :
    enclosed inner close c = .error e (left (close c')) := by
  rw [enclosed, run_bind (attempt_error read)]
  cases closed : close c' with
  | ok u c'' =>
    rw [run_bind (attempt_ok closed)]
    rfl
  | error e c'' =>
    rw [run_bind (attempt_error closed)]
    rfl

end

theorem Astray.loose {k : Nat} {σ : Lexer} {c : Cursor} (h : Astray m σ) (fits : Fits k σ c) :
    Loose m σ := h.resolve_right fits.ne_broken

/-- What is read inside brackets is closed, be it after a fault. -/
theorem tracks_enclosed {inner : Reader α} {close : Reader Unit} {c : Cursor}
    (t : Tracks d (m + 1) ⟨.outside, m + 1⟩ inner (Ends (m + 1)) c)
    (closes : ∀ c, Tracks none m ⟨.outside, m + 1⟩ close (Ends m) c)
    (strays : ∀ {σ} c, Astray (m + 1) σ → Strays m σ close c) :
    Tracks d m ⟨.outside, m + 1⟩ (enclosed inner close) (Ends m) c := by
  -- A fault inside or at the end: the lexer is where the closing reader leaves it.
  have fault {σ : Lexer} {c' : Cursor} (moves : Moves ⟨.outside, m + 1⟩ c σ c')
      (loose : Loose (m + 1) σ) (n : Nat) (fits : Fits n ⟨.outside, m + 1⟩ c) :
      ∃ σ', Moves ⟨.outside, m + 1⟩ c σ' (left (close c')) ∧ Loose m σ' := by
    obtain ⟨σ', more, astray⟩ := strays c' (.inl loose)
    have moves := moves.trans more
    exact ⟨σ', moves, astray.loose ((moves.fits_iff n).1 fits)⟩
  cases read : inner c with
  | ok a c' =>
    obtain ⟨σ', moves, e⟩ := t.ok read
    cases e
    cases closed : close c' with
    | ok _ c'' =>
      obtain ⟨σ'', more, e⟩ := (closes c').ok closed
      exact .of_ok (enclosed_ok read closed) (moves.trans more) e
    | error e c'' =>
      refine .of_error (enclosed_unclosed read closed) fun n _ fits => ?_
      have faulty := fault moves (loose_outside _) n fits
      rwa [closed] at faulty
  | error e c' =>
    refine .of_error (enclosed_fault read) fun n hn fits => ?_
    obtain ⟨σ', moves, loose⟩ := t.error read hn fits
    exact fault moves loose n fits

/-! ## §4 Values of any kind -/

theorem tracks_any (steps : Nat) :
    (∀ depth m c, Tracks d m ⟨.outside, m⟩ (anyValue depth steps) (Ends m) c) ∧
      (∀ depth first m c,
        Tracks d (m + 1) ⟨.outside, m + 1⟩ (anyItems depth first steps) (Ends (m + 1)) c) ∧
      ∀ depth first m c,
        Tracks d (m + 1) ⟨.outside, m + 1⟩ (anyFields depth first steps) (Ends (m + 1)) c := by
  induction steps with
  | zero =>
    refine ⟨fun depth m c => ?_, fun depth first m c => ?_, fun depth first m c => ?_⟩
    · exact .fail rfl (loose_outside m)
    · exact .pure rfl
    · exact .pure rfl
  | succ steps ih =>
    obtain ⟨value, items, fields⟩ := ih
    refine ⟨fun depth m c => ?_, fun depth first m c => ?_, fun depth first m c => ?_⟩
    · rw [anyValue.eq_def]
      refine .token (fun n => ?_) (fun b q n => ?_) c
      · exact .fail rfl (loose_outside m)
      dsimp only
      split
      next e =>
        cases e
        exact .bind_ends (tracks_null q n) fun _ c => .pure rfl
      split
      next e =>
        cases e
        exact .bind_ends (tracks_true q n) fun _ c => .pure rfl
      split
      next e =>
        cases e
        exact .bind_ends (tracks_false q n) fun _ c => .pure rfl
      split
      next e =>
        cases e
        exact .advance (.minus m q n)
          (.bind_ends (tracks_number true (due_digit _)) fun _ c => .pure rfl)
      split
      next digit =>
        exact .bind_ends (tracks_number false (due_outside digit q n)) fun _ c => .pure rfl
      split
      next e =>
        cases e
        exact .advance (.quote m q n) (.bind_ends (tracks_stringBody _) fun _ c => .pure rfl)
      split
      next e =>
        cases e
        cases depth with
        | zero => exact .fail rfl (loose_outside m)
        | succ depth =>
          refine .advance (.opening (.inl rfl) m q n)
            (tracks_enclosed ?_ tracks_endList strays_endList)
          exact .bind_ends (items depth true m _) fun _ c => .pure rfl
      split
      next e =>
        cases e
        cases depth with
        | zero => exact .fail rfl (loose_outside m)
        | succ depth =>
          refine .advance (.opening (.inr rfl) m q n)
            (tracks_enclosed ?_ tracks_endObject strays_endObject)
          exact .bind_ends (fields depth true m _) fun _ c => .pure rfl
      exact .fail rfl (loose_outside m)
    · rw [anyItems]
      refine .bind_ends (tracks_hasItem first c) fun more c => ?_
      split
      · refine .bind_ends (value depth (m + 1) c) fun v c => ?_
        exact .bind_ends (items depth false m c) fun rest c => .pure rfl
      · exact .pure rfl
    · rw [anyFields]
      refine tracks_key first (fun name c => ?_) (fun c => .pure rfl) c
      refine .bind_ends (tracks_colon c) fun _ c => ?_
      refine .bind_ends (value depth (m + 1) c) fun v c => ?_
      exact .bind_ends (fields depth false m c) fun rest c => .pure rfl

theorem tracks_value (depth : Nat) (c : Cursor) :
    Tracks d m ⟨.outside, m⟩ (value depth) (Ends m) c :=
  .of_eq (run_bind (run_fuel c)) ((tracks_any _).1 depth m c)

theorem tracks_optional {r : Reader α} (t : ∀ c, Tracks d m ⟨.outside, m⟩ r (Ends m) c)
    (c : Cursor) : Tracks d m ⟨.outside, m⟩ (Reader.optional r) (Ends m) c := by
  rw [Reader.optional]
  refine .token (fun n => ?_) (fun b q n => ?_) c
  · exact .bind_ends (t _) fun _ c => .pure rfl
  split
  next e =>
    cases e
    exact .bind_ends (tracks_null q n) fun _ c => .pure rfl
  next => exact .bind_ends (t _) fun _ c => .pure rfl

/-! ## §5 Records -/

section

variable {σ : Type} {shape : Shape σ α}

theorem tracks_readKeys
    (reads : ∀ f ∈ shape.fields, ∀ s k c, Tracks none k ⟨.outside, k⟩ (f.read s) (Ends k) c) (s : σ)
    (first : Bool) (steps : Nat) (c : Cursor) :
    Tracks none (m + 1) ⟨.outside, m + 1⟩ (shape.readKeys s first steps) (Ends (m + 1)) c := by
  induction steps generalizing s first c with
  | zero => exact .pure rfl
  | succ steps ih =>
    rw [Shape.readKeys]
    refine tracks_key first (fun name c => ?_) (fun c => .pure rfl) c
    split
    next f found =>
      split
      · exact .vacuous rfl
      · refine .bind_ends (.within (.bind_ends (tracks_colon c) fun _ c => ?_) _)
          fun s c => ih s _ c
        exact reads f (List.mem_of_find?_eq_some found) s _ c
    next =>
      refine .bind_ends (.within (.bind_ends (tracks_colon c) fun _ c => ?_) _) fun _ c => ih s _ c
      exact tracks_skipValue c

theorem tracks_readItems {fields : List (Field σ)}
    (reads : ∀ f ∈ fields, ∀ s k c, Tracks none k ⟨.outside, k⟩ (f.read s) (Ends k) c) (s : σ)
    (n : Nat) (ended : Bool) (c : Cursor) :
    Tracks none (m + 1) ⟨.outside, m + 1⟩ (shape.readItems s n ended fields) (Ends (m + 1)) c := by
  induction fields generalizing s n ended c with
  | nil => exact .pure rfl
  | cons f fields ih =>
    have rest := ih fun f hf => reads f (List.mem_cons_of_mem _ hf)
    rw [Shape.readItems]
    refine .bind_ends (tracks_hasItem _ c) fun more c => ?_
    split
    · refine .bind_ends (.within (reads f List.mem_cons_self s _ c) _) fun s c => ?_
      exact rest s _ _ c
    split
    · exact rest s _ _ c
    · exact .vacuous rfl

theorem tracks_complete (s : σ) (c : Cursor) :
    Tracks none m ⟨.outside, m⟩ (shape.complete s) (Ends m) c := by
  rw [Shape.complete]
  split
  · exact .pure rfl
  · exact .vacuous rfl

/-- A record is read as a whole, as an object or as a list. -/
theorem tracks_record
    (reads : ∀ f ∈ shape.fields, ∀ s k c, Tracks none k ⟨.outside, k⟩ (f.read s) (Ends k) c)
    (c : Cursor) : Tracks none m ⟨.outside, m⟩ shape.reader (Ends m) c := by
  rw [Shape.reader]
  refine .token (fun n => ?_) (fun b q n => ?_) c
  · exact .vacuous rfl
  split
  next e => cases e
  next e =>
    cases e
    refine .advance (.opening (.inl rfl) m q n) (tracks_enclosed ?_ tracks_endList strays_endList)
    exact .bind_ends (tracks_readItems reads _ _ _ _) tracks_complete
  next e =>
    cases e
    refine .advance (.opening (.inr rfl) m q n)
      (tracks_enclosed ?_ tracks_endObject strays_endObject)
    refine .of_eq (run_bind (run_fuel _)) ?_
    exact .bind_ends (tracks_readKeys reads _ _ _ _) tracks_complete
  next => exact tracks_mismatch _ _

end

/-! ## §6 Whole texts -/

/-- The place of the next byte that is no blank. -/
def skip (c : Cursor) : Cursor := skipBlanks c.taken c.rest

theorem peekToken_bind (f : Option UInt8 → Reader α) (c : Cursor) :
    (peekToken >>= f) c = f (skip c).rest.head? (skip c) := rfl

theorem of_finish {c c' : Cursor} (h : finish c = .ok () c') : (skip c).rest = [] := by
  rw [finish, peekToken_bind] at h
  generalize skip c = d at h
  obtain ⟨_ | ⟨b, q⟩, n⟩ := d
  · rfl
  · cases h

theorem of_run {r : Reader α} {bytes : List UInt8} {a : α} (h : r.run bytes = .ok a) :
    ∃ c, r (Cursor.ofBytes bytes) = .ok a c ∧ (skip c).rest = [] := by
  rw [run] at h
  split at h
  next b c' read =>
    cases h
    obtain ⟨b, c, first, read⟩ := of_bind read
    obtain ⟨u, c'', finished, read⟩ := of_bind read
    cases read
    exact ⟨c, first, of_finish finished⟩
  next => cases h

/-- A text that has been read to its end passes the lexer. -/
theorem fits_of_run {r : Reader α} {bytes : List UInt8} {a : α} (h : r.run bytes = .ok a)
    (t : Tracks none 0 ⟨.outside, 0⟩ r (Ends 0) (Cursor.ofBytes bytes)) :
    Fits 0 ⟨.outside, 0⟩ (Cursor.ofBytes bytes) := by
  obtain ⟨c, read, blank⟩ := of_run h
  obtain ⟨σ, moves, e⟩ := t.ok read
  cases e
  rw [moves.fits_iff, (Moves.blanks 0 c.rest c.taken).fits_iff, Fits]
  show Lexer.run _ (skip c).rest = _
  rw [blank]
  rfl

end Roster.Json.Reader
