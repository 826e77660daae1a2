/-
Roster.Proofs.Json.Following — the readers of JSON keep to the lexer.

Words, numbers, strings and skipped values take the lexer from between values
back to between values at the same depth. For words, numbers and strings, whose
faults may be forgiven, this comes with what a fault leaves behind: a number
stops outside, and a string inside or outside. A skipped value is skipped to its
end or the whole text fails, so there it is stated for success alone.
-/
import Roster.Proofs.Json.Lexing

namespace Roster.Json.Reader

variable {α β : Type} {d : Option Nat} {m : Nat}

/-! ## §1 Words -/

theorem tracks_spelling (l : List UInt8) (c : Cursor) :
    Tracks d m ⟨.spelling l, m⟩ (word l) (Ends m) c := by
  induction l generalizing c with
  | nil => exact .pure rfl
  | cons x l ih =>
    have right : Lexer.step ⟨.word (x :: l), m⟩ x = ⟨.spelling l, m⟩ := by
      simp [Lexer.step_within, Lexer.within]
    have wrong {b : UInt8} (h : b ≠ x) : Lexer.step ⟨.word (x :: l), m⟩ b = ⟨.broken, m⟩ := by
      simp [Lexer.step_within, Lexer.within, h]
    rw [word, Mode.spelling]
    refine .next (by simp) (fun n => ⟨_, _, rfl⟩) (fun b q n => ?_) c
    dsimp only
    split
    · subst b
      rw [right]
      exact ih _
    · rw [wrong ‹_›]
      exact .absurd rfl rfl

/-- A word whose first letter has been seen. -/
theorem tracks_word {x : UInt8} {l : List UInt8} {s : String}
    (bytes : Text.utf8 s.toList = x :: l)
    (first : ∀ k, Lexer.between k x = ⟨.spelling l, k⟩) (q : List UInt8) (n : Nat) :
    Tracks d m ⟨.outside, m⟩ (word (bytesOf s)) (Ends m) ⟨x :: q, n⟩ := by
  have step (k : Nat) : (Lexer.deeper ⟨.outside, m⟩ k).step x = Lexer.deeper ⟨.spelling l, m⟩ k :=
    first (m + k)
  rw [Text.bytesOf_eq, bytes, word]
  refine .move (.byte step q n) (tracks_spelling l _) ?_
  rw [run_bind (run_next _ _ _)]
  simp

theorem tracks_null (q : List UInt8) (n : Nat) :
    Tracks d m ⟨.outside, m⟩ (word (bytesOf "null")) (Ends m) ⟨0x6E :: q, n⟩ :=
  tracks_word (l := [0x75, 0x6C, 0x6C]) rfl (fun _ => rfl) q n

theorem tracks_true (q : List UInt8) (n : Nat) :
    Tracks d m ⟨.outside, m⟩ (word (bytesOf "true")) (Ends m) ⟨0x74 :: q, n⟩ :=
  tracks_word (l := [0x72, 0x75, 0x65]) rfl (fun _ => rfl) q n

theorem tracks_false (q : List UInt8) (n : Nat) :
    Tracks d m ⟨.outside, m⟩ (word (bytesOf "false")) (Ends m) ⟨0x66 :: q, n⟩ :=
  tracks_word (l := [0x61, 0x6C, 0x73, 0x65]) rfl (fun _ => rfl) q n

/-! ## §2 Numbers -/

/-- The reader stays where it is. -/
def Still (r : Reader α) : Prop := ∀ c, (∃ a, r c = .ok a c) ∨ ∃ e, r c = .error e c

theorem Still.tracks {r : Reader α} (h : Still r) (c : Cursor) :
    Tracks d m ⟨.outside, m⟩ r (Ends m) c := by
  rcases h c with ⟨a, run⟩ | ⟨e, run⟩
  · exact .of_ok run (.refl _ _) rfl
  · exact .fail run (loose_outside m)

theorem still_peekIsDigit : Still peekIsDigit := fun _ => .inl ⟨_, rfl⟩

theorem still_scaleDecimal (minus : Bool) (significand : Nat) (e : Int) :
    Still (scaleDecimal minus significand e) := by
  intro c
  unfold scaleDecimal
  dsimp only
  split
  · exact .inl ⟨_, rfl⟩
  split
  · split
    · exact .inr ⟨_, rfl⟩
    · cases Decimal.Binary64.mul? _ _ with
      | some y => exact .inl ⟨_, rfl⟩
      | none => exact .inr ⟨_, rfl⟩
  · split
    · exact .inl ⟨_, rfl⟩
    · exact .inl ⟨_, rfl⟩

theorem step_point (k : Nat) : Lexer.step ⟨.outside, k⟩ 0x2E = ⟨.outside, k⟩ := rfl

theorem step_mark {b : UInt8} (h : b = 0x65 ∨ b = 0x45) (k : Nat) :
    Lexer.step ⟨.outside, k⟩ b = ⟨.mark, k⟩ := by
  rcases h with rfl | rfl
  · rfl
  · rfl

theorem step_sign {b : UInt8} (h : b = 0x2B ∨ b = 0x2D) (k : Nat) :
    Lexer.step ⟨.mark, k⟩ b = ⟨.digit, k⟩ := by
  rcases h with rfl | rfl
  · rfl
  · rfl

theorem tracks_exponentDigits (acc steps : Nat) (c : Cursor) :
    Tracks d m ⟨.outside, m⟩ (exponentDigits acc steps) (Ends m) c := by
  induction steps generalizing acc c with
  | zero => exact .pure rfl
  | succ steps ih =>
    rw [exponentDigits]
    refine .look (fun n => ?_) (fun b q n => ?_) c
    · exact .pure rfl
    dsimp only
    split
    · refine .advance (.plain (.inr ‹_›) m q n) ?_
      split
      · exact .pure rfl
      · exact ih _ _
    · exact .pure rfl

/-- A digit comes next, or no text goes on. -/
def Due (μ : Mode) (c : Cursor) : Prop :=
  (c.rest = [] → μ ≠ .outside) ∧
    ∀ b ∈ c.rest.head?, ∀ k, Lexer.step ⟨μ, k⟩ b = ⟨if isDigit b then .outside else .broken, k⟩

theorem due_digit (c : Cursor) : Due .digit c := ⟨fun _ => nofun, fun _ _ _ => rfl⟩

theorem due_mark {c : Cursor} (sign : ∀ b ∈ c.rest.head?, b ≠ 0x2B ∧ b ≠ 0x2D) :
    Due .mark c := by
  refine ⟨fun _ => nofun, fun b hb k => ?_⟩
  show (⟨if isDigit b then _ else if b == 0x2B || b == 0x2D then _ else _, k⟩ : Lexer) = _
  simp [sign b hb]

theorem due_outside {b : UInt8} (digit : isDigit b = true) (q : List UInt8) (n : Nat) :
    Due .outside ⟨b :: q, n⟩ := by
  refine ⟨nofun, fun x hx k => ?_⟩
  cases hx
  rw [if_pos digit]
  exact Lexer.step_plain (.inr digit) k

/-- A digit that is due is consumed. -/
theorem Due.tracks {μ : Mode} {c : Cursor} {f : Option UInt8 → Reader α}
    {Q : α → Lexer → Cursor → Prop} (due : Due μ c)
    (none : ∀ n, ∃ e c', f none ⟨[], n⟩ = .error e c')
    (digit : ∀ b q n, isDigit b = true → Tracks d m ⟨.outside, m⟩ (f (some b)) Q ⟨q, n⟩)
    (other : ∀ b q n, isDigit b = false → ∃ e c', f (some b) ⟨q, n⟩ = .error e c') :
    Tracks d m ⟨μ, m⟩ (next >>= f) Q c := by
  obtain ⟨_ | ⟨b, q⟩, n⟩ := c
  · obtain ⟨e, c', failed⟩ := none n
    exact .ended failed (due.1 rfl)
  · have step := due.2 b rfl
    cases h : isDigit b with
    | true =>
      simp only [h, if_true] at step
      exact .move (.step step m q n) (digit b q (n + 1) h) rfl
    | false =>
      simp only [h, Bool.false_eq_true, if_false] at step
      obtain ⟨e, c', failed⟩ := other b q (n + 1) h
      exact .move (.step step m q n) (.absurd failed rfl) rfl

/-- After the letter of an exponent comes a sign or not, and then a digit is due. -/
theorem tracks_sign {plus minus plain : Reader α} {Q : α → Lexer → Cursor → Prop}
    (up : ∀ c, Due .digit c → Tracks d m ⟨.digit, m⟩ plus Q c)
    (down : ∀ c, Due .digit c → Tracks d m ⟨.digit, m⟩ minus Q c)
    (none : ∀ c, Due .mark c → Tracks d m ⟨.mark, m⟩ plain Q c) (c : Cursor) :
    Tracks d m ⟨.mark, m⟩
      (do
        match ← peek with
        | some 0x2B => do
          advance
          plus
        | some 0x2D => do
          advance
          minus
        | _ => plain) Q c := by
  refine .look (fun n => ?_) (fun b q n => ?_) c
  · exact none _ (due_mark nofun)
  split
  next e =>
    cases e
    exact .advance (.step (step_sign (.inl rfl)) m q n) (up _ (due_digit _))
  next e =>
    cases e
    exact .advance (.step (step_sign (.inr rfl)) m q n) (down _ (due_digit _))
  next plus minus =>
    refine none _ (due_mark fun x hx => ?_)
    cases hx
    exact ⟨fun e => plus (congrArg some e), fun e => minus (congrArg some e)⟩

theorem tracks_exponent (minus : Bool) (significand : Nat) (start : Int) {b : UInt8}
    (h : b = 0x65 ∨ b = 0x45) (q : List UInt8) (n : Nat) :
    Tracks d m ⟨.outside, m⟩ (exponent minus significand start) (Ends m) ⟨b :: q, n⟩ := by
  rw [exponent]
  refine .advance (.step (step_mark h) m q n) ?_
  extract_lets digitsAfter
  have after (upward : Bool) {μ : Mode} {c : Cursor} (due : Due μ c) :
      Tracks d m ⟨μ, m⟩ (digitsAfter upward) (Ends m) c := by
    refine due.tracks (fun n => ⟨_, _, rfl⟩) (fun b q n digit => ?_) (fun b q n digit => ?_)
    · simp only [digit, if_true]
      refine .of_eq (run_bind (run_fuel _)) (.bind_ends (tracks_exponentDigits _ _ _) fun x c => ?_)
      cases x with
      | some e => exact (still_scaleDecimal _ _ _).tracks c
      | none =>
        dsimp only
        split
        · exact .fail rfl (loose_outside m)
        · refine .digits (fun c => ?_) c
          exact .pure rfl
    · simp only [digit]
      exact ⟨_, _, rfl⟩
  exact tracks_sign (fun _ => after true) (fun _ => after false) (fun _ => after true) _

theorem tracks_afterDigits (minus : Bool) (significand : Nat) (e : Int) (c : Cursor) :
    Tracks d m ⟨.outside, m⟩ (afterDigits minus significand e) (Ends m) c := by
  rw [afterDigits]
  refine .look (fun n => ?_) (fun b q n => ?_) c
  · exact (still_scaleDecimal _ _ _).tracks _
  dsimp only
  split
  · exact tracks_exponent minus significand e ‹_› q n
  · exact (still_scaleDecimal _ _ _).tracks _

theorem tracks_fractionDigits (significand count steps : Nat) (c : Cursor) :
    Tracks d m ⟨.outside, m⟩ (fractionDigits significand count steps) (Ends m) c := by
  induction steps generalizing significand count c with
  | zero => exact .pure rfl
  | succ steps ih =>
    rw [fractionDigits]
    refine .look (fun n => ?_) (fun b q n => ?_) c
    · exact .pure rfl
    dsimp only
    split
    next h => exact .advance (.plain (.inr h.1) m q n) (ih _ _ _)
    next => exact .pure rfl

theorem tracks_fraction (minus : Bool) (significand : Nat) (start : Int) (q : List UInt8)
    (n : Nat) :
    Tracks d m ⟨.outside, m⟩ (fraction minus significand start) (Ends m) ⟨0x2E :: q, n⟩ := by
  rw [fraction]
  refine .advance (.step step_point m q n) (.of_eq (run_bind (run_fuel _)) ?_)
  refine .bind_ends (tracks_fractionDigits _ _ _ _) fun (significand, count) c => ?_
  dsimp only
  refine .bind_ends (still_peekIsDigit.tracks c) fun more c => ?_
  split
  · exact .digits (tracks_afterDigits _ _ _) c
  split
  · refine .look (fun n => ?_) (fun b q n => ?_) c
    · exact .fail rfl (loose_outside m)
    · exact .fail rfl (loose_outside m)
  · exact tracks_afterDigits _ _ _ c

theorem tracks_integerDigits (significand steps : Nat) (c : Cursor) :
    Tracks d m ⟨.outside, m⟩ (integerDigits significand steps) (Ends m) c := by
  induction steps generalizing significand c with
  | zero => exact .pure rfl
  | succ steps ih =>
    rw [integerDigits]
    refine .look (fun n => ?_) (fun b q n => ?_) c
    · exact .pure rfl
    dsimp only
    split
    next digit =>
      split
      · exact .advance (.plain (.inr digit) m q n) (ih _ _)
      · exact .pure rfl
    next => exact .pure rfl

theorem tracks_afterInteger (minus : Bool) (significand : Nat) (c : Cursor) :
    Tracks d m ⟨.outside, m⟩ (afterInteger minus significand) (Ends m) c := by
  have plain : Still (afterInteger.plain minus significand) := by
    intro c
    unfold afterInteger.plain
    split
    · exact .inl ⟨_, rfl⟩
    split
    · exact .inl ⟨_, rfl⟩
    · exact .inl ⟨_, rfl⟩
  rw [afterInteger]
  refine .look (fun n => ?_) (fun b q n => ?_) c
  · exact plain.tracks _
  split
  next e =>
    cases e
    exact tracks_fraction minus significand 0 q n
  next e =>
    cases e
    split
    · exact tracks_exponent minus significand 0 ‹_› q n
    · exact plain.tracks _
  next e => cases e

theorem tracks_longInteger (minus : Bool) (significand : Nat) (c : Cursor) :
    Tracks d m ⟨.outside, m⟩ (longInteger minus significand) (Ends m) c := by
  rw [longInteger]
  refine .of_eq (run_bind (run_get c)) ?_
  refine .digits (fun c => ?_) c
  refine .of_eq (run_bind (run_get c)) ?_
  refine .look (fun n => ?_) (fun b q n => ?_) c
  · exact tracks_afterDigits _ _ _ _
  split
  next e =>
    cases e
    exact tracks_fraction minus significand _ q n
  next => exact tracks_afterDigits _ _ _ _

theorem tracks_number (minus : Bool) {μ : Mode} {c : Cursor} (due : Due μ c) :
    Tracks d m ⟨μ, m⟩ (number minus) (Ends m) c := by
  rw [number]
  refine due.tracks (fun n => ⟨_, _, rfl⟩) (fun b q n digit => ?_) (fun b q n digit => ?_)
  · dsimp only
    split
    · refine .bind_ends (still_peekIsDigit.tracks _) fun more c => ?_
      split
      · exact .fail rfl (loose_outside m)
      · exact tracks_afterInteger _ _ c
    · refine .of_eq (run_bind (run_fuel _)) ?_
      refine .bind_ends (tracks_integerDigits _ _ _) fun digits c => ?_
      obtain ⟨significand, more⟩ := digits
      dsimp only
      split
      · exact tracks_longInteger _ _ c
      · exact tracks_afterInteger _ _ c
  · have other : b ≠ 0x30 := by
      rintro rfl
      exact absurd digit (by decide)
    dsimp only
    rw [if_neg other, digit]
    exact ⟨_, _, rfl⟩

/-! ## §3 Strings -/

theorem step_string {b : UInt8} (quote : b ≠ 0x22) (backslash : b ≠ 0x5C) (k : Nat) :
    Lexer.step ⟨.string, k⟩ b = ⟨if b < 0x20 then .broken else .string, k⟩ := by
  show (⟨if b == 0x22 then _ else if b == 0x5C then _ else _, k⟩ : Lexer) = _
  simp [quote, backslash]

theorem step_escape {b : UInt8} (unicode : b ≠ 0x75) (k : Nat) :
    Lexer.step ⟨.escape, k⟩ b = ⟨if (shortEscape? b).isSome then .string else .broken, k⟩ := by
  show (⟨if b == 0x75 then _ else _, k⟩ : Lexer) = _
  simp [unicode]

/-- The digits of an escape, if they are such. -/
theorem run_hex {l : List UInt8} (h : l ≠ []) (k : Nat) :
    Lexer.run ⟨.hex l.length, k⟩ l = ⟨if l.all isHex then .string else .broken, k⟩ := by
  induction l with
  | nil => exact absurd rfl h
  | cons b l ih =>
    have step : Lexer.step ⟨.hex (l.length + 1), k⟩ b =
        ⟨if isHex b then (if l.length + 1 ≤ 1 then .string else .hex l.length) else .broken, k⟩ :=
      rfl
    rw [Lexer.run_cons, List.length_cons, step, List.all_cons]
    cases isHex b with
    | false => exact Lexer.run_broken rfl l
    | true =>
      cases l with
      | nil => rfl
      | cons x l =>
        rw [if_pos rfl, if_neg (by rw [List.length_cons]; omega), ih nofun]
        rfl

/-- Too few of them leave the escape open. -/
theorem run_hex_short {l : List UInt8} {more : Nat} (h : l.length < more) (k : Nat) :
    (Lexer.run ⟨.hex more, k⟩ l).mode ≠ .outside := by
  induction l generalizing more with
  | nil => exact nofun
  | cons b l ih =>
    rw [List.length_cons] at h
    have step : Lexer.step ⟨.hex more, k⟩ b =
        ⟨if isHex b then .hex (more - 1) else .broken, k⟩ := by
      show (⟨if isHex b then (if more ≤ 1 then _ else _) else _, k⟩ : Lexer) = _
      rw [if_neg (by omega : ¬more ≤ 1)]
    rw [Lexer.run_cons, step]
    cases isHex b with
    | true => exact ih (by omega)
    | false =>
      rw [Lexer.run_broken rfl]
      exact nofun

theorem hexFold?_isSome (acc : Nat) (l : List UInt8) :
    (Digits.hexFold? acc (l.map fun x => Char.ofNat x.toNat)).isSome = l.all isHex := by
  induction l generalizing acc with
  | nil => rfl
  | cons b l ih =>
    rw [List.map_cons, Digits.hexFold?, List.all_cons, isHex]
    cases Digits.hexValue? (Char.ofNat b.toNat) with
    | none => rfl
    | some v => exact ih _

/-- An escape is read to its end, or its text does not go on. -/
theorem tracks_hexEscape (c : Cursor) :
    Tracks d m ⟨.hex 4, m⟩ hexEscape (fun _ σ _ => σ = ⟨.string, m⟩) c := by
  obtain ⟨u, n⟩ := c
  rw [hexEscape]
  refine .of_eq (run_bind (run_get _)) ?_
  dsimp only
  split
  next a b x y rest =>
    have some := hexFold?_isSome 0 [a, b, x, y]
    have moves : Moves ⟨.hex 4, m⟩ ⟨a :: b :: x :: y :: rest, n⟩
        ⟨if [a, b, x, y].all isHex then .string else .broken, m⟩ ⟨rest, n + 4⟩ :=
      ⟨[a, b, x, y], rfl, rfl, fun k => run_hex (l := [a, b, x, y]) (by simp) (m + k)⟩
    rw [← some] at moves
    refine .move moves ?_ (run_bind (run_set _ _))
    cases Digits.hexFold? 0 ([a, b, x, y].map fun x => Char.ofNat x.toNat) with
    | some v => exact .pure rfl
    | none => exact .absurd rfl rfl
  next long =>
    have short : u.length < 4 := by
      refine Nat.lt_of_not_le fun le => ?_
      rcases u with _ | ⟨a, _ | ⟨b, _ | ⟨x, _ | ⟨y, rest⟩⟩⟩⟩
      case cons.cons.cons.cons => exact long a b x y rest rfl
      all_goals simp at le
    refine .of_error rfl fun k _ fits => ?_
    exact absurd (congrArg Lexer.mode fits) (run_hex_short short _)

/-- The byte that a surrogate pair wants comes next, or one goes on without it. -/
theorem tracks_pairByte {σ : Lexer} {wanted : UInt8} (inside : σ.mode ≠ .outside)
    (other : ∀ b, b ≠ wanted → Loose m (σ.step b) ∨ (σ.step b).mode = .broken) (c : Cursor) :
    Tracks d m σ (pairByte wanted) (fun _ τ _ => τ = σ.step wanted) c := by
  rw [pairByte]
  refine .next inside (fun n => ⟨_, _, rfl⟩) (fun b q n => ?_) c
  dsimp only
  split
  next e =>
    cases e
    exact .pure rfl
  next ne =>
    rcases other b ne with loose | broken
    · exact .fail rfl loose
    · exact .absurd rfl broken

theorem tracks_unicodeEscape (c : Cursor) :
    Tracks d m ⟨.hex 4, m⟩ unicodeEscape (fun _ σ _ => σ = ⟨.string, m⟩) c := by
  have backslash (b : UInt8) (ne : b ≠ 0x5C) : Loose m (Lexer.step ⟨.string, m⟩ b) ∨
      (Lexer.step ⟨.string, m⟩ b).mode = .broken := by
    by_cases quote : b = 0x22
    · subst quote
      exact .inl (loose_outside m)
    rw [step_string quote ne]
    split
    · exact .inr rfl
    · exact .inl (loose_string m m)
  have letter (b : UInt8) (ne : b ≠ 0x75) : Loose m (Lexer.step ⟨.escape, m⟩ b) ∨
      (Lexer.step ⟨.escape, m⟩ b).mode = .broken := by
    rw [step_escape ne]
    split
    · exact .inl (loose_string m m)
    · exact .inr rfl
  rw [unicodeEscape]
  refine (tracks_hexEscape c).bind fun n σ c e => ?_
  cases e
  split
  · exact .fail rfl (loose_string m m)
  split
  · refine (tracks_pairByte (by simp) backslash c).bind fun _ σ c e => ?_
    cases e
    refine (tracks_pairByte (by simp) letter c).bind fun _ σ c e => ?_
    cases e
    refine (tracks_hexEscape c).bind fun n σ c e => ?_
    cases e
    split
    · exact .pure rfl
    · exact .fail rfl (loose_string m m)
  · exact .pure rfl

theorem tracks_escape (c : Cursor) :
    Tracks d m ⟨.escape, m⟩ escape (fun _ σ _ => σ = ⟨.string, m⟩) c := by
  rw [escape]
  refine .next (by simp) (fun n => ⟨_, _, rfl⟩) (fun b q n => ?_) c
  dsimp only
  split
  next e =>
    cases e
    exact tracks_unicodeEscape _
  next ne =>
    rw [step_escape ne]
    cases shortEscape? b with
    | some x => exact .pure rfl
    | none => exact .absurd rfl rfl

theorem tracks_stringBytes (acc : List UInt8) (steps : Nat) (c : Cursor) :
    Tracks d m ⟨.string, m⟩ (stringBytes acc steps) (Ends m) c := by
  induction steps generalizing acc c with
  | zero => exact .fail rfl (loose_string m m)
  | succ steps ih =>
    rw [stringBytes]
    refine .look (fun n => ?_) (fun b q n => ?_) c
    · exact .fail rfl (loose_string m m)
    refine .inner (by simp) ?_
    split
    next e =>
      cases e
      exact .pure rfl
    next quote =>
    split
    next e =>
      cases e
      refine (tracks_escape _).bind fun bytes σ c e => ?_
      cases e
      exact ih _ c
    next backslash =>
    rw [step_string quote backslash]
    split
    · exact .absurd rfl rfl
    · exact ih _ _

/-- A string ends outside, be its bytes text or not. -/
theorem tracks_stringBody (c : Cursor) : Tracks d m ⟨.string, m⟩ stringBody (Ends m) c := by
  rw [stringBody]
  refine .of_eq (run_bind (run_fuel _)) ?_
  refine .bind_ends (tracks_stringBytes _ _ c) fun bytes c => ?_
  split
  · exact .pure rfl
  · exact .fail rfl (loose_outside m)

/-! ## §4 Skipped values -/

theorem tracks_skipEscape (c : Cursor) :
    Tracks none m ⟨.escape, m⟩ skipEscape (fun _ σ _ => σ = ⟨.string, m⟩) c := by
  rw [skipEscape]
  refine .next (by simp) (fun n => ⟨_, _, rfl⟩) (fun b q n => ?_) c
  dsimp only
  split
  next e =>
    cases e
    refine (tracks_hexEscape _).discard.weaken fun _ σ _ ended => ?_
    obtain ⟨_, e⟩ := ended
    exact e
  next ne =>
    rw [step_escape ne]
    split
    · exact .pure rfl
    · exact .vacuous rfl

theorem tracks_skipString (steps : Nat) (c : Cursor) :
    Tracks none m ⟨.string, m⟩ (skipString steps) (Ends m) c := by
  induction steps generalizing c with
  | zero => exact .vacuous rfl
  | succ steps ih =>
    rw [skipString]
    refine .look (fun n => ?_) (fun b q n => ?_) c
    · exact .vacuous rfl
    dsimp only
    split
    · exact .vacuous rfl
    next control =>
    refine .inner (by simp) ?_
    split
    next e =>
      cases e
      exact .pure rfl
    next quote =>
    split
    next e =>
      cases e
      refine (tracks_skipEscape _).bind fun _ σ c e => ?_
      cases e
      exact ih c
    next backslash =>
    rw [step_string quote backslash, if_neg control]
    exact ih _

theorem tracks_digits (c : Cursor) : Tracks d m ⟨.outside, m⟩ digits (Ends m) c :=
  .of_ok rfl (.digits m c.rest c.taken) rfl

theorem tracks_skipSomeDigits (b : Break) (c : Cursor) :
    Tracks none m ⟨.outside, m⟩ (skipSomeDigits (failNext b)) (Ends m) c := by
  rw [skipSomeDigits]
  refine .bind_ends (still_peekIsDigit.tracks _) fun more c => ?_
  split
  · exact tracks_digits c
  · exact .vacuous rfl

theorem tracks_skipExponent {b : UInt8} (h : b = 0x65 ∨ b = 0x45) (q : List UInt8) (n : Nat) :
    Tracks none m ⟨.outside, m⟩ skipExponent (Ends m) ⟨b :: q, n⟩ := by
  rw [skipExponent]
  refine .advance (.step (step_mark h) m q n) ?_
  extract_lets digitsAfter
  have after {μ : Mode} {c : Cursor} (due : Due μ c) :
      Tracks none m ⟨μ, m⟩ (digitsAfter ()) (Ends m) c := by
    refine due.tracks (fun n => ⟨_, _, rfl⟩) (fun b q n digit => ?_) (fun b q n digit => ?_)
    · simp only [digit, if_true]
      exact tracks_digits _
    · simp only [digit]
      exact ⟨_, _, rfl⟩
  exact tracks_sign (fun _ => after) (fun _ => after) (fun _ => after) _

theorem head_eq_some {c : Cursor} {b : UInt8} (h : c.rest.head? = some b) :
    ∃ q n, c = ⟨b :: q, n⟩ := by
  obtain ⟨_ | ⟨x, q⟩, n⟩ := c
  · cases h
  · cases h
    exact ⟨q, n, rfl⟩

theorem tracks_skipNumber {μ : Mode} {c : Cursor} (due : Due μ c) :
    Tracks none m ⟨μ, m⟩ skipNumber (Ends m) c := by
  rw [skipNumber]
  refine due.tracks (fun n => ⟨_, _, rfl⟩) (fun b q n digit => ?_) (fun b q n digit => ?_)
  · extract_lets afterFraction afterInteger
    have fractionEnd (c : Cursor) : Tracks none m ⟨.outside, m⟩ (afterFraction ()) (Ends m) c := by
      refine .look (fun n => ?_) (fun b q n => ?_) c
      · exact .pure rfl
      dsimp only
      split
      · exact tracks_skipExponent ‹_› q n
      · exact .pure rfl
    have integerEnd (c : Cursor) : Tracks none m ⟨.outside, m⟩ (afterInteger ()) (Ends m) c := by
      refine .head ?_
      split
      next point =>
        obtain ⟨q, n, rfl⟩ := head_eq_some point
        refine .advance (.step step_point m q n) ?_
        exact .bind_ends (tracks_skipSomeDigits _ _) fun _ c => fractionEnd c
      next => exact fractionEnd c
    dsimp only
    split
    · refine .bind_ends (still_peekIsDigit.tracks _) fun more c => ?_
      split
      · exact .vacuous rfl
      · exact integerEnd c
    · exact .digits integerEnd _
  · have other : b ≠ 0x30 := by
      rintro rfl
      exact absurd digit (by decide)
    simp only [other, digit]
    exact ⟨_, _, rfl⟩

theorem tracks_colon (c : Cursor) :
    Tracks d (m + 1) ⟨.outside, m + 1⟩ colon (Ends (m + 1)) c := by
  rw [colon]
  refine .token (fun n => ?_) (fun b q n => ?_) c
  · exact .fail rfl (loose_outside _)
  split
  next e =>
    cases e
    exact .of_ok rfl (.comma (.inr rfl) m q n) rfl
  next => exact .fail rfl (loose_outside _)
  next => exact .fail rfl (loose_outside _)

theorem tracks_skipKey (c : Cursor) :
    Tracks none (m + 1) ⟨.outside, m + 1⟩ skipKey (Ends (m + 1)) c := by
  rw [skipKey]
  refine .token (fun n => ?_) (fun b q n => ?_) c
  · exact .vacuous rfl
  split
  next e =>
    cases e
    refine .advance (.quote (m + 1) q n) (.of_eq (run_bind (run_fuel _)) ?_)
    exact .bind_ends (tracks_skipString _ _) fun _ c => tracks_colon c
  next => exact .vacuous rfl
  next => exact .vacuous rfl

theorem tracks_closeFrames (afterValue : Bool) (frames : List Frame) (c : Cursor) :
    Tracks none m ⟨.outside, m + frames.length⟩ (closeFrames afterValue frames)
      (fun still σ _ => σ = ⟨.outside, m + still.length⟩) c := by
  induction frames generalizing afterValue c with
  | nil => exact .pure rfl
  | cons frame outer ih =>
    rw [closeFrames]
    refine .token (fun n => ?_) (fun b q n => ?_) c
    · exact .vacuous rfl
    dsimp only
    split
    next comma =>
      rw [comma.1]
      exact .advance (.comma (.inl rfl) _ q n) (.pure rfl)
    split
    next close =>
      have bracket : b = 0x5D ∨ b = 0x7D := close.imp And.left And.left
      exact .advance (.closing bracket _ q n) (ih _ _)
    split
    · exact .vacuous rfl
    · exact .pure rfl

theorem tracks_skipValues (frames : List Frame) (steps : Nat) (c : Cursor) :
    Tracks none m ⟨.outside, m + frames.length⟩ (skipValues frames steps) (Ends m) c := by
  induction steps generalizing frames c with
  | zero => exact .vacuous rfl
  | succ steps ih =>
    rw [skipValues]
    refine .token (fun n => ?_) (fun b q n => ?_) c
    · exact .vacuous rfl
    extract_lets afterClosing afterOpening
    -- What is due once frames have been closed: nothing, or another value with its key.
    have due (still : List Frame) (c : Cursor) :
        Tracks none m ⟨.outside, m + still.length⟩ (afterClosing still) (Ends m) c := by
      cases still with
      | nil => exact .pure rfl
      | cons frame outer =>
        dsimp only [afterClosing]
        split
        · refine ((tracks_skipKey c).at_depth m).bind fun _ σ c e => ?_
          cases e
          exact ih (frame :: outer) c
        · exact ih (frame :: outer) c
    have value (c : Cursor) :
        Tracks none m ⟨.outside, m + frames.length⟩ (afterOpening none) (Ends m) c := by
      refine (tracks_closeFrames true frames c).bind fun still σ c e => ?_
      cases e
      exact due still c
    have opened (frame : Frame) (c : Cursor) :
        Tracks none m ⟨.outside, m + frames.length + 1⟩ (afterOpening (some frame)) (Ends m) c := by
      refine (tracks_closeFrames false (frame :: frames) c).bind fun still σ c e => ?_
      cases e
      exact due still c
    have scalar {σ : Lexer} {r : Reader Unit} {c : Cursor}
        (t : Tracks none (m + frames.length) σ r (Ends (m + frames.length)) c) :
        Tracks none m σ (r >>= fun _ => afterOpening none) (Ends m) c := by
      refine (t.at_depth m).bind fun _ σ c e => ?_
      cases e
      exact value c
    dsimp only
    split
    next e =>
      cases e
      exact scalar (tracks_null q n)
    split
    next e =>
      cases e
      exact scalar (tracks_true q n)
    split
    next e =>
      cases e
      exact scalar (tracks_false q n)
    split
    next e =>
      cases e
      exact .advance (.minus _ q n) (scalar (tracks_skipNumber (due_digit _)))
    split
    next digit => exact scalar (tracks_skipNumber (due_outside digit q n))
    split
    next e =>
      cases e
      refine .advance (.quote _ q n) (.of_eq (run_bind (run_fuel _)) ?_)
      exact scalar (tracks_skipString _ _)
    split
    next e =>
      cases e
      exact .advance (.opening (.inl rfl) _ q n) (opened .list _)
    split
    next e =>
      cases e
      exact .advance (.opening (.inr rfl) _ q n) (opened .object _)
    exact .vacuous rfl

theorem tracks_skipValue (c : Cursor) : Tracks none m ⟨.outside, m⟩ skipValue (Ends m) c :=
  .of_eq (run_bind (run_fuel c)) (tracks_skipValues [] _ c)

end Roster.Json.Reader
