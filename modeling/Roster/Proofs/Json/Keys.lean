/-
Roster.Proofs.Json.Keys — two readers in one object.

An object's keys are read one after another, each with its value (`of_readKeys`),
whatever the record. Two readers that start at the same value and both find a
comma or closing brace behind it have ended at the same place (`skip_eq`). A
reader that takes the inside of a string for the outside is never set right
again: what it takes for keys are stretches between strings, and no such stretch
spells a name with any other letters than those of `null`, `true` and `false`
(`outer_of_key`).
-/
import Roster.Proofs.Json.Nesting

namespace Roster.Json

open Reader (isBlank isDigit skip)

variable {σ α : Type}

/-! ## §1 Keys and values -/

namespace Reader

/-- A key with its colon, if there is another. -/
def key (first : Bool) : Reader (Option String) := do
  if ← hasKey first then
    advance
    let name ← stringBody
    colon
    return some name
  else return none

theorem tracks_anyKey (first : Bool) (m : Nat) (c : Cursor) :
    Tracks none (m + 1) ⟨.outside, m + 1⟩ (key first) (Ends (m + 1)) c :=
  tracks_key first
    (fun _ c => .bind_ends (tracks_colon c) fun _ _ => .pure rfl) (fun _ => .pure rfl) c

theorem of_within {step : Step} {r : Reader α} {a : α} {c c' : Cursor}
    (h : within step r c = .ok a c') : r c = .ok a c' := by
  rw [within] at h
  cases run : r c with
  | ok b d =>
    rw [run] at h
    exact h
  | error e d =>
    rw [run] at h
    cases h

theorem of_attempt {r : Reader α} {a : α} {c c' : Cursor} (h : attempt r c = .ok (.ok a) c') :
    r c = .ok a c' := by
  rw [attempt] at h
  cases run : r c with
  | ok b d =>
    rw [run] at h
    cases h
    rfl
  | error e d =>
    rw [run] at h
    cases h

theorem of_enclosed {inner : Reader α} {close : Reader Unit} {a : α} {c d : Cursor}
    (h : enclosed inner close c = .ok a d) :
    ∃ c', inner c = .ok a c' ∧ close c' = .ok () d := by
  cases read : inner c with
  | error e c' => cases (enclosed_fault read).symm.trans h
  | ok b c' =>
    cases closed : close c' with
    | error e d' => cases (enclosed_unclosed read closed).symm.trans h
    | ok _ d' =>
      cases (enclosed_ok read closed).symm.trans h
      exact ⟨c', rfl, closed⟩

theorem not_ok_mismatch {expected : String} {a : α} {c c' : Cursor} :
    mismatch expected c ≠ .ok a c' := by
  intro h
  obtain ⟨_, _, impossible⟩ :=
    (tracks_mismatch (d := none) (m := 0) (Q := fun _ _ _ => False) expected c).ok h
  exact impossible

/-- A text begins with a quote. -/
theorem of_text {expected s : String} {c c' : Cursor} (h : text expected c = .ok s c') :
    ∃ q n, skip c = ⟨0x22 :: q, n⟩ := by
  rw [text, peekToken_bind] at h
  generalize skip c = k at h ⊢
  obtain ⟨_ | ⟨b, q⟩, n⟩ := k
  · cases h
  by_cases quote : b = 0x22
  · exact ⟨q, n, quote ▸ rfl⟩
  · simp only [List.head?_cons] at h
    exact absurd h not_ok_mismatch

end Reader

open Reader (key)

namespace Shape

variable {shape : Shape σ α} {s t : σ} {first : Bool} {steps : Nat} {c c' : Cursor}

/-- Reads the value behind a key. -/
def value (shape : Shape σ α) (s : σ) (name : String) : Reader σ :=
  match shape.fields.find? fun f => f.name == name with
  | some f => f.read s
  | none => do
    Reader.skipValue
    return s

/-- A value is read by the field of its name, or skipped. -/
theorem of_value {name : String} (h : shape.value s name c = .ok t c') :
    (∃ f ∈ shape.fields, f.name = name ∧ f.read s c = .ok t c') ∨
      Reader.skipValue c = .ok () c' ∧ t = s := by
  rw [value] at h
  cases found : shape.fields.find? fun f => f.name == name with
  | some f =>
    rw [found] at h
    exact .inl ⟨f, List.mem_of_find?_eq_some found, by simpa using List.find?_some found, h⟩
  | none =>
    rw [found] at h
    obtain ⟨_, _, skipped, h⟩ := Reader.of_bind h
    cases h
    exact .inr ⟨skipped, rfl⟩

/-- No field of that name has been read. -/
def Fresh (shape : Shape σ α) (s : σ) (name : String) : Prop :=
  ∀ f, (shape.fields.find? fun f => f.name == name) = some f → f.filled s = false

/-- The keys of an object: none is left, or one comes with its value and the rest follow. -/
theorem of_readKeys (h : shape.readKeys s first (steps + 1) c = .ok t c') :
    (key first c = .ok none c' ∧ t = s) ∨
      ∃ name k u d, key first c = .ok (some name) k ∧ shape.Fresh s name ∧
        shape.value s name k = .ok u d ∧ shape.readKeys u false steps d = .ok t c' := by
  rw [readKeys] at h
  obtain ⟨more, c₁, has, h⟩ := Reader.of_bind h
  cases more with
  | false =>
    cases h
    exact .inl ⟨Reader.run_bind has, rfl⟩
  | true =>
    refine .inr ?_
    rw [if_pos rfl] at h
    obtain ⟨u, c₂, advanced, h⟩ := Reader.of_bind h
    obtain ⟨name, c₃, body, h⟩ := Reader.of_bind h
    have named {k : Cursor} (colon : Reader.colon c₃ = .ok () k) :
        key first c = .ok (some name) k := by
      rw [key, Reader.run_bind has, if_pos rfl, Reader.run_bind advanced, Reader.run_bind body,
        Reader.run_bind colon]
      rfl
    cases found : shape.fields.find? fun f => f.name == name with
    | none =>
      rw [found] at h
      obtain ⟨_, d, skipped, h⟩ := Reader.of_bind h
      obtain ⟨_, k, colon, skipped⟩ := Reader.of_bind (Reader.of_within skipped)
      refine ⟨name, k, s, d, named colon, fun f e => ?_, ?_, h⟩
      · rw [found] at e
        cases e
      · rw [value, found]
        exact Reader.run_bind skipped
    | some f =>
      rw [found] at h
      dsimp only at h
      split at h
      · cases h
      next unfilled =>
        obtain ⟨u, d, read, h⟩ := Reader.of_bind h
        obtain ⟨_, k, colon, read⟩ := Reader.of_bind (Reader.of_within read)
        refine ⟨name, k, u, d, named colon, fun g e => ?_, ?_, h⟩
        · rw [found] at e
          cases e
          exact Bool.not_eq_true _ ▸ unfilled
        · rw [value, found]
          exact read

/-- Keys are looked for first of all. -/
theorem key_of_readKeys (h : shape.readKeys s first (steps + 1) c = .ok t c') :
    ∃ x k, key first c = .ok x k := by
  rcases of_readKeys h with ⟨key, -⟩ | ⟨_, _, _, _, key, -⟩
  · exact ⟨_, _, key⟩
  · exact ⟨_, _, key⟩

theorem of_complete {a : α} (h : shape.complete s c = .ok a c') :
    shape.whole s = .ok a ∧ c = c' := by
  rw [complete] at h
  cases whole : shape.whole s with
  | ok b =>
    rw [whole] at h
    cases h
    exact ⟨rfl, rfl⟩
  | error name =>
    rw [whole] at h
    cases h

/-- A record has been read from an object or from a list. -/
theorem of_reader {a : α} (h : shape.reader c = .ok a c') :
    (∃ q n s d, skip c = ⟨0x7B :: q, n⟩ ∧
        shape.readKeys shape.start true (q.length + 1) ⟨q, n + 1⟩ = .ok s d ∧
        shape.whole s = .ok a ∧ Reader.endObject d = .ok () c') ∨
      ∃ q n s d, skip c = ⟨0x5B :: q, n⟩ ∧
        shape.readItems shape.start 0 false shape.fields ⟨q, n + 1⟩ = .ok s d ∧
        shape.whole s = .ok a := by
  rw [reader, Reader.peekToken_bind] at h
  generalize skip c = k at h ⊢
  obtain ⟨_ | ⟨b, q⟩, n⟩ := k
  · cases h
  by_cases list : b = 0x5B
  · subst list
    obtain ⟨_, _, advanced, h⟩ := Reader.of_bind h
    cases advanced
    obtain ⟨_, inner, -⟩ := Reader.of_enclosed h
    obtain ⟨s, d, items, h⟩ := Reader.of_bind inner
    obtain ⟨whole, -⟩ := of_complete h
    exact .inr ⟨q, n, s, d, rfl, items, whole⟩
  by_cases object : b = 0x7B
  · subst object
    obtain ⟨_, _, advanced, h⟩ := Reader.of_bind h
    cases advanced
    obtain ⟨_, inner, closed⟩ := Reader.of_enclosed h
    obtain ⟨_, _, fuel, inner⟩ := Reader.of_bind inner
    cases fuel
    obtain ⟨s, d, keys, h⟩ := Reader.of_bind inner
    obtain ⟨whole, rfl⟩ := of_complete h
    exact .inl ⟨q, n, s, d, rfl, keys, whole, closed⟩
  simp only [List.head?_cons] at h
  exact absurd h Reader.not_ok_mismatch

/-- What `get` shows is read under one name, and only if it has not been read before. -/
structure Keeps {β : Type} (shape : Shape σ α) (name : String) (get : σ → Option β) : Prop where
  other : ∀ f ∈ shape.fields, f.name ≠ name → ∀ s c t c', f.read s c = .ok t c' → get t = get s
  fresh : ∀ s, shape.Fresh s name → get s = none

namespace Keeps

variable {β : Type} {name other : String} {get : σ → Option β} (keeps : shape.Keeps name get)

include keeps

theorem value (h : shape.value s other c = .ok t c') (ne : other ≠ name) : get t = get s := by
  rcases of_value h with ⟨f, mem, rfl, read⟩ | ⟨-, rfl⟩
  · exact keeps.other f mem ne s c t c' read
  · rfl

/-- What has been read stays to the end of the object. -/
theorem readKeys {x : β} (h : shape.readKeys s first steps c = .ok t c') (got : get s = some x) :
    get t = some x := by
  induction steps generalizing s first c with
  | zero =>
    cases h
    exact got
  | succ steps ih =>
    rcases of_readKeys h with ⟨-, rfl⟩ | ⟨other, k, u, d, -, fresh, value, rest⟩
    · exact got
    · have ne : other ≠ name := by
        rintro rfl
        rw [keeps.fresh s fresh] at got
        cases got
      exact ih rest ((keeps.value value ne).trans got)

theorem readItems {m : Nat} {ended : Bool} {fields : List (Field σ)}
    (known : ∀ f ∈ fields, f ∈ shape.fields ∧ f.name ≠ name)
    (h : shape.readItems s m ended fields c = .ok t c') : get t = get s := by
  induction fields generalizing s m ended c with
  | nil =>
    cases h
    rfl
  | cons f fields ih =>
    have known' := fun g hg => known g (List.mem_cons_of_mem _ hg)
    rw [Shape.readItems] at h
    obtain ⟨more, c₁, -, h⟩ := Reader.of_bind h
    split at h
    · obtain ⟨u, d, read, h⟩ := Reader.of_bind h
      obtain ⟨mem, ne⟩ := known f List.mem_cons_self
      exact (ih known' h).trans (keeps.other f mem ne s c₁ u d (Reader.of_within read))
    split at h
    · exact ih known' h
    · cases h

end Keeps

/-- The first item of a list that has one. -/
theorem of_readItems {f : Field σ} {fields : List (Field σ)} {c₁ : Cursor}
    (h : shape.readItems s 0 false (f :: fields) c = .ok t c')
    (has : Reader.hasItem true c = .ok true c₁) :
    ∃ u d, f.read s c₁ = .ok u d ∧ shape.readItems u 1 false fields d = .ok t c' := by
  rw [readItems] at h
  obtain ⟨more, c₂, has', h⟩ := Reader.of_bind h
  cases has.symm.trans has'
  obtain ⟨u, d, read, h⟩ := Reader.of_bind h
  exact ⟨u, d, Reader.of_within read, h⟩

/-- A list cannot end before a field that must be there. -/
theorem hasItem_of_readItems {f : Field σ} {fields : List (Field σ)} (needed : f.optional = false)
    (h : shape.readItems s 0 false (f :: fields) c = .ok t c') :
    ∃ d, Reader.hasItem true c = .ok true d := by
  rw [readItems] at h
  obtain ⟨more, d, has, h⟩ := Reader.of_bind h
  cases more with
  | true => exact ⟨d, has⟩
  | false =>
    rw [needed] at h
    cases h

end Shape

/-! ## §2 The end of a value -/

theorem skip_cons (b : UInt8) (q : List UInt8) (n : Nat) :
    skip ⟨b :: q, n⟩ = if isBlank b then skip ⟨q, n + 1⟩ else ⟨b :: q, n⟩ := rfl

theorem skip_skip (c : Cursor) : skip (skip c) = skip c := by
  obtain ⟨u, n⟩ := c
  induction u generalizing n with
  | nil => rfl
  | cons b q ih =>
    rw [skip_cons]
    split
    · exact ih (n + 1)
    next solid => rw [skip_cons, if_neg solid]

theorem hasKey_skip (first : Bool) (c : Cursor) :
    Reader.hasKey first c = Reader.hasKey first (skip c) := by
  rw [Reader.hasKey, Reader.peekToken_bind, Reader.peekToken_bind, skip_skip]

/-- Blanks before a key make no difference. -/
theorem key_skip (first : Bool) (c : Cursor) : key first c = key first (skip c) := by
  show EStateM.bind (Reader.hasKey first) _ c = EStateM.bind (Reader.hasKey first) _ (skip c)
  rw [EStateM.bind, EStateM.bind, hasKey_skip]

/-- After a value comes a comma or the end of the object. -/
def Stop (c : Cursor) : Prop := ∃ b q n, skip c = ⟨b :: q, n⟩ ∧ (b = 0x2C ∨ b = 0x7D)

theorem stop_of_key {c k : Cursor} {x : Option String} (h : key false c = .ok x k) : Stop c := by
  obtain ⟨more, d, has, -⟩ := Reader.of_bind h
  rw [Reader.hasKey, Reader.peekToken_bind] at has
  generalize e : skip c = c' at has
  obtain ⟨_ | ⟨b, q⟩, n⟩ := c'
  · cases has
  · refine ⟨b, q, n, e, ?_⟩
    by_cases close : b = 0x7D
    · exact .inr close
    by_cases comma : b = 0x2C
    · exact .inl comma
    simp only [List.head?_cons, close, comma] at has
    cases has

/-- What lies between the ends of two stretches is itself a stretch. -/
theorem Moves.compare {σ τ υ : Lexer} {c d e : Cursor} (h : Moves σ c τ d) (h' : Moves σ c υ e) :
    Moves τ d υ e ∨ Moves υ e τ d := by
  obtain ⟨u, rest, taken, run⟩ := h
  obtain ⟨v, rest', taken', run'⟩ := h'
  rcases List.append_eq_append_iff.1 (rest.symm.trans rest') with ⟨w, rfl, e⟩ | ⟨w, rfl, e⟩
  · refine .inl ⟨w, e, ?_, fun k => ?_⟩
    · rw [taken', taken, List.length_append]
      omega
    · rw [← run, ← Lexer.run_append, run']
  · refine .inr ⟨w, e, ?_, fun k => ?_⟩
    · rw [taken', taken, List.length_append]
      omega
    · rw [← run', ← Lexer.run_append, run]

/-- Outside all brackets a comma or closing bracket is not passed. -/
theorem skip_eq_of_run {w v : List UInt8} {n : Nat}
    (run : Lexer.run ⟨.outside, 0⟩ w = ⟨.outside, 0⟩) (stop : Stop ⟨w ++ v, n⟩) :
    skip ⟨w ++ v, n⟩ = skip ⟨v, n + w.length⟩ := by
  induction w generalizing n with
  | nil => rfl
  | cons b w ih =>
    have head := skip_cons b (w ++ v) n
    rw [Lexer.run_cons] at run
    cases blank : isBlank b with
    | true =>
      rw [if_pos blank] at head
      rw [Lexer.step_plain (.inl blank)] at run
      obtain ⟨x, q, k, at_, bracket⟩ := stop
      rw [List.cons_append, head, ih run ⟨x, q, k, head.symm.trans at_, bracket⟩, List.length_cons]
      congr 2
      omega
    | false =>
      rw [if_neg (by simp [blank])] at head
      obtain ⟨x, q, k, at_, bracket⟩ := stop
      cases head.symm.trans at_
      have broken : (Lexer.step ⟨.outside, 0⟩ b).mode = .broken := by
        rcases bracket with rfl | rfl
        · rfl
        · rfl
      rw [Lexer.run_broken broken] at run
      rw [run] at broken
      cases broken

theorem skip_eq_of_moves {c d : Cursor} (h : Moves ⟨.outside, 0⟩ c ⟨.outside, 0⟩ d)
    (stop : Stop c) : skip c = skip d := by
  obtain ⟨u, n⟩ := c
  obtain ⟨v, k⟩ := d
  obtain ⟨w, rest, taken, run⟩ := h
  dsimp only at rest taken
  subst rest taken
  exact skip_eq_of_run (run 0) stop

/-- Two readings of one value that both find its end end at the same place. -/
theorem skip_eq {c d e : Cursor} (h : Moves ⟨.outside, 0⟩ c ⟨.outside, 0⟩ d)
    (h' : Moves ⟨.outside, 0⟩ c ⟨.outside, 0⟩ e) (stop : Stop d) (stop' : Stop e) :
    skip d = skip e := by
  rcases h.compare h' with between | between
  · exact skip_eq_of_moves between stop
  · exact (skip_eq_of_moves between stop').symm

/-! ## §3 Inside out -/

/-- The letters of the words. -/
def letters : List UInt8 := [0x61, 0x65, 0x66, 0x6C, 0x6E, 0x72, 0x73, 0x74, 0x75]

/-- A byte that can stand outside of strings. -/
def isOuter (b : UInt8) : Bool :=
  isBlank b || isDigit b || letters.contains b ||
    [0x2B, 0x2C, 0x2D, 0x2E, 0x3A, 0x45, 0x5B, 0x5D, 0x7B, 0x7D].contains b

/-- Modes outside of strings. -/
def Mode.isOuter : Mode → Bool
  | .outside | .digit | .mark => true
  | .word rest => rest.all letters.contains
  | _ => false

theorem outer_between {k : Nat} {b : UInt8} (quote : b ≠ 0x22)
    (whole : (Lexer.between k b).mode ≠ .broken) :
    isOuter b = true ∧ (Lexer.between k b).mode.isOuter = true := by
  constructor
  · refine Decidable.byContradiction fun inner => whole ?_
    simp only [isOuter, letters, List.contains_cons, List.contains_nil, Bool.or_eq_true, not_or,
      Bool.not_eq_true, Bool.or_false] at inner
    cases k with
    | zero => simp [Lexer.between, inner, quote]
    | succ k => simp [Lexer.between, inner, quote]
  · have solid : (b == 0x22) = false := beq_false_of_ne quote
    revert whole
    simp only [Lexer.between, solid, Bool.false_eq_true, if_false]
    -- Each byte that is known leads to a mode outside of strings, and any other to none.
    repeat' split
    all_goals first
      | exact fun _ => rfl
      | exact fun whole => absurd rfl whole

theorem outer_step {σ : Lexer} (outer : σ.mode.isOuter = true) {b : UInt8}
    (whole : (σ.step b).mode ≠ .broken) :
    (b = 0x22 ∧ (σ.step b).mode = .string) ∨
      (isOuter b = true ∧ (σ.step b).mode.isOuter = true) := by
  obtain ⟨μ, k⟩ := σ
  have digit (h : isDigit b = true) : isOuter b = true := by simp [isOuter, h]
  cases μ with
  | outside =>
    by_cases quote : b = 0x22
    · subst quote
      exact .inl ⟨rfl, rfl⟩
    · exact .inr (outer_between quote whole)
  | digit =>
    by_cases h : isDigit b = true
    · exact .inr ⟨digit h, by simp [Lexer.step, Lexer.within, Mode.isOuter, h]⟩
    · simp [Lexer.step, Lexer.within, h] at whole
  | mark =>
    by_cases h : isDigit b = true
    · exact .inr ⟨digit h, by simp [Lexer.step, Lexer.within, Mode.isOuter, h]⟩
    by_cases sign : b = 0x2B ∨ b = 0x2D
    · rcases sign with rfl | rfl
      · exact .inr ⟨rfl, rfl⟩
      · exact .inr ⟨rfl, rfl⟩
    · simp [Lexer.step, Lexer.within, h, not_or.1 sign] at whole
  | word rest =>
    cases rest with
    | nil => simp [Lexer.step, Lexer.within] at whole
    | cons x rest =>
      by_cases h : b = x
      · subst h
        obtain ⟨letter, rest_letters⟩ := Bool.and_eq_true_iff.1 outer
        refine .inr ⟨by simp only [isOuter, letter, Bool.or_true, Bool.true_or], ?_⟩
        cases rest with
        | nil => simp [Lexer.step, Lexer.within, Mode.spelling, Mode.isOuter]
        | cons y rest =>
          simpa [Lexer.step, Lexer.within, Mode.spelling, Mode.isOuter] using rest_letters
      · simp [Lexer.step, Lexer.within, h] at whole
  | _ => cases outer

theorem ne_of_isOuter {b : UInt8} (h : isOuter b = true) : b ≠ 0x22 ∧ b ≠ 0x5C := by
  constructor
  · rintro rfl
    cases h
  · rintro rfl
    cases h

theorem string_step {σ : Lexer} (string : σ.mode = .string) {b : UInt8} (plain : isOuter b = true)
    (whole : (σ.step b).mode ≠ .broken) : (σ.step b).mode = .string := by
  obtain ⟨μ, k⟩ := σ
  cases string
  obtain ⟨quote, backslash⟩ := ne_of_isOuter plain
  rw [Reader.step_string quote backslash] at whole ⊢
  split at whole
  · exact absurd rfl whole
  next h => rw [if_neg h]

/-- One lexer is in a string where the other is not. -/
def Opposite (σ τ : Lexer) : Prop :=
  (σ.mode.isOuter = true ∧ τ.mode = .string) ∨ (σ.mode = .string ∧ τ.mode.isOuter = true)

theorem Opposite.step {σ τ : Lexer} (h : Opposite σ τ) {b : UInt8}
    (whole : (σ.step b).mode ≠ .broken) (whole' : (τ.step b).mode ≠ .broken) :
    Opposite (σ.step b) (τ.step b) := by
  have quote {σ : Lexer} (string : σ.mode = .string) : (σ.step 0x22).mode.isOuter = true := by
    obtain ⟨μ, k⟩ := σ
    cases string
    rfl
  rcases h with ⟨outer, string⟩ | ⟨string, outer⟩
  · rcases outer_step outer whole with ⟨rfl, opened⟩ | ⟨plain, outer⟩
    · exact .inr ⟨opened, quote string⟩
    · exact .inl ⟨outer, string_step string plain whole'⟩
  · rcases outer_step outer whole' with ⟨rfl, opened⟩ | ⟨plain, outer⟩
    · exact .inl ⟨quote string, opened⟩
    · exact .inr ⟨string_step string plain whole, outer⟩

/-- Two lexers that are opposite stay so over any stretch that both accept. -/
theorem Opposite.run {σ τ : Lexer} (h : Opposite σ τ) {u : List UInt8}
    (whole : (σ.run u).mode ≠ .broken) (whole' : (τ.run u).mode ≠ .broken) :
    Opposite (σ.run u) (τ.run u) := by
  induction u generalizing σ τ with
  | nil => exact h
  | cons b u ih =>
    have first {σ : Lexer} (whole : (σ.run (b :: u)).mode ≠ .broken) :
        (σ.step b).mode ≠ .broken := by
      intro broken
      rw [Lexer.run_cons, Lexer.run_broken broken] at whole
      exact whole broken
    exact ih (h.step (first whole) (first whole')) whole whole'

/-- A stretch that one lexer follows leaves the other opposite to it. -/
theorem Opposite.moves {σ σ' τ : Lexer} {c d : Cursor} (h : Opposite σ τ) (moves : Moves σ c σ' d)
    (whole : σ'.mode ≠ .broken) (fits : Fits 0 τ c) : ∃ τ', Fits 0 τ' d ∧ Opposite σ' τ' := by
  obtain ⟨u, rest, -, run⟩ := moves
  have fits' : Fits 0 (τ.run u) d := by
    rw [Fits, rest, Lexer.run_append] at fits
    exact fits
  have end_ : σ.run u = σ' := run 0
  rw [← end_] at whole ⊢
  exact ⟨τ.run u, fits', h.run whole fits'.ne_broken⟩

/-! ## §4 Names that are none -/

theorem textBytes_of_fromUTF8? {l : List UInt8} {s : String}
    (h : String.fromUTF8? ⟨l.toArray⟩ = some s) : Hash.textBytes s = l := by
  rw [String.fromUTF8?] at h
  split at h
  · cases h
    rfl
  · cases h

/-- A string read outside of all strings has no escapes, and only bytes that stand there. -/
theorem outer_of_stringBytes {acc bytes : List UInt8} {steps : Nat} {c d : Cursor} {τ : Lexer}
    (h : Reader.stringBytes acc steps c = .ok bytes d) (fits : Fits 0 τ c)
    (outer : τ.mode.isOuter = true) : ∀ b ∈ bytes, b ∈ acc ∨ isOuter b = true := by
  induction steps generalizing acc c τ with
  | zero => cases h
  | succ steps ih =>
    obtain ⟨_ | ⟨b, q⟩, n⟩ := c
    · cases h
    have fits' : Fits 0 (τ.step b) ⟨q, n + 1⟩ := fits
    rw [Reader.stringBytes, Reader.run_bind (Reader.run_peek _ _ _)] at h
    dsimp only at h
    rw [Reader.run_bind (Reader.run_advance _ _ _)] at h
    rcases outer_step outer fits'.ne_broken with ⟨rfl, -⟩ | ⟨plain, outer'⟩
    · cases h
      exact fun b hb => .inl hb
    · obtain ⟨quote, backslash⟩ := ne_of_isOuter plain
      rw [if_neg quote, if_neg backslash] at h
      split at h
      · cases h
      · intro x hx
        rcases ih h fits' outer' x hx with mem | outer
        · rcases List.mem_cons.1 mem with rfl | mem
          · exact .inr plain
          · exact .inl mem
        · exact .inr outer

/-- What is taken for a name inside out has only bytes that stand outside of strings. -/
theorem outer_of_key {first : Bool} {name : String} {c k : Cursor} {τ : Lexer}
    (h : key first c = .ok (some name) k) (fits : Fits 0 τ c) (string : τ.mode = .string) :
    ∀ b ∈ Hash.textBytes name, isOuter b = true := by
  obtain ⟨more, c₁, has, h⟩ := Reader.of_bind h
  cases more with
  | false => cases h
  | true =>
    rw [if_pos rfl] at h
    obtain ⟨_, moves, rfl, quote⟩ := (Reader.tracks_hasKey (d := none) (m := 0) first c).ok has
    obtain ⟨q, n, rfl⟩ := quote rfl
    have opposite : Opposite ⟨.outside, 1⟩ τ := .inl ⟨rfl, string⟩
    obtain ⟨τ₁, fits, opposite⟩ := opposite.moves moves (by simp) fits
    obtain ⟨τ₂, fits, opposite⟩ := opposite.moves (.quote 1 q n) (by simp) fits
    obtain ⟨_, outer⟩ : (Mode.string = .string) ∧ τ₂.mode.isOuter = true :=
      opposite.resolve_left fun h => by cases h.1
    rw [Reader.run_bind (Reader.run_advance _ _ _)] at h
    obtain ⟨s, c₂, body, h⟩ := Reader.of_bind h
    obtain ⟨_, c₃, -, h⟩ := Reader.of_bind h
    cases h
    rw [Reader.stringBody, Reader.run_bind (Reader.run_fuel _)] at body
    obtain ⟨bytes, c₄, read, body⟩ := Reader.of_bind body
    cases text : String.fromUTF8? ⟨bytes.reverse.toArray⟩ with
    | none =>
      rw [text] at body
      cases body
    | some s' =>
      rw [text] at body
      cases body
      rw [textBytes_of_fromUTF8? text]
      intro b hb
      exact (outer_of_stringBytes read fits outer b (List.mem_reverse.1 hb)).resolve_left (by simp)

end Roster.Json
