/-
Roster.Proofs.Json.Lexing — where a reader stands in a text.

The lexer takes a text byte by byte and keeps track of what a reader cannot see
once it has failed and been forgiven: whether the next byte lies inside a
string, and how many brackets are open around it. It knows less than a grammar,
so every text that a reader takes passes the lexer, but enough to tell the end
of a value from a comma or a bracket within it.

`Moves` follows a stretch of text, and `Tracks` says of a reader where the lexer
stands after it: at a place the reader names if it succeeds, and if it fails on
a text that the lexer accepts, inside a string or outside at a depth no lower
than that of the value (`Loose`). The second half is what makes a forgiven fault
harmless or noticed.
-/
import Roster.Proofs.Json.Reading

namespace Roster.Json

open Reader (isBlank isDigit bytesOf)

variable {α β : Type}

/-! ## §1 The lexer -/

/-- What the byte before leaves to be expected. -/
inductive Mode where
  /-- Between values, or within a number. -/
  | outside
  /-- After a minus sign: a digit. -/
  | digit
  /-- After the letter of an exponent: a digit or a sign. -/
  | mark
  | word (rest : List UInt8)
  | string
  /-- After a backslash. -/
  | escape
  /-- Within a `\u` escape: so many more hexadecimal digits. -/
  | hex (more : Nat)
  /-- No text goes on like this. -/
  | broken
  deriving DecidableEq

/-- What is expected within a word of which `rest` is still to come. -/
def Mode.spelling : List UInt8 → Mode
  | [] => .outside
  | x :: rest => .word (x :: rest)

/-- A mode and the number of open brackets. -/
structure Lexer where
  mode : Mode
  depth : Nat
  deriving DecidableEq

def isHex (b : UInt8) : Bool := (Digits.hexValue? (Char.ofNat b.toNat)).isSome

namespace Lexer

/-- A byte between values; a comma, a colon or a closing bracket needs an open one. -/
def between (depth : Nat) (b : UInt8) : Lexer :=
  if isBlank b || isDigit b || b == 0x2E then ⟨.outside, depth⟩
  else if b == 0x22 then ⟨.string, depth⟩
  else if b == 0x2D then ⟨.digit, depth⟩
  else if b == 0x65 || b == 0x45 then ⟨.mark, depth⟩
  else if b == 0x6E then ⟨.word [0x75, 0x6C, 0x6C], depth⟩
  else if b == 0x74 then ⟨.word [0x72, 0x75, 0x65], depth⟩
  else if b == 0x66 then ⟨.word [0x61, 0x6C, 0x73, 0x65], depth⟩
  else if b == 0x5B || b == 0x7B then ⟨.outside, depth + 1⟩
  else
    match depth with
    | 0 => ⟨.broken, 0⟩
    | outer + 1 =>
      if b == 0x2C || b == 0x3A then ⟨.outside, outer + 1⟩
      else if b == 0x5D || b == 0x7D then ⟨.outside, outer⟩
      else ⟨.broken, outer + 1⟩

/-- The mode after a byte that does not stand between values. -/
def within (b : UInt8) : Mode → Mode
  | .outside | .broken | .word [] => .broken
  | .digit => if isDigit b then .outside else .broken
  | .mark => if isDigit b then .outside else if b == 0x2B || b == 0x2D then .digit else .broken
  | .word (x :: rest) => if b == x then .spelling rest else .broken
  | .string =>
    if b == 0x22 then .outside else if b == 0x5C then .escape
    else if b < 0x20 then .broken else .string
  | .escape =>
    if b == 0x75 then .hex 4 else if (Reader.shortEscape? b).isSome then .string else .broken
  | .hex more =>
    if isHex b then (if more ≤ 1 then .string else .hex (more - 1)) else .broken

def step (σ : Lexer) (b : UInt8) : Lexer :=
  if σ.mode = .outside then between σ.depth b else ⟨within b σ.mode, σ.depth⟩

/-- The lexer after some bytes. -/
def run (σ : Lexer) (u : List UInt8) : Lexer := u.foldl step σ

/-- The same place in a text that lies within `d` more brackets. -/
def deeper (σ : Lexer) (d : Nat) : Lexer := ⟨σ.mode, σ.depth + d⟩

@[simp] theorem run_nil (σ : Lexer) : σ.run [] = σ := rfl

@[simp] theorem run_cons (σ : Lexer) (b : UInt8) (u : List UInt8) :
    σ.run (b :: u) = (σ.step b).run u := rfl

@[simp] theorem run_append (σ : Lexer) (u v : List UInt8) :
    σ.run (u ++ v) = (σ.run u).run v := List.foldl_append

theorem step_within {σ : Lexer} (h : σ.mode ≠ .outside) (b : UInt8) :
    σ.step b = ⟨within b σ.mode, σ.depth⟩ := if_neg h

/-- Only between values does it matter how many brackets are open. -/
theorem step_deeper {σ : Lexer} (h : σ.mode ≠ .outside) (b : UInt8) (d : Nat) :
    (σ.deeper d).step b = (σ.step b).deeper d := by
  have same : (σ.deeper d).mode ≠ .outside := h
  rw [step_within same, step_within h]
  rfl

theorem run_broken {σ : Lexer} (h : σ.mode = .broken) (u : List UInt8) : σ.run u = σ := by
  have stays (b : UInt8) : σ.step b = σ := by
    obtain ⟨mode, depth⟩ := σ
    cases h
    rfl
  induction u with
  | nil => rfl
  | cons b u ih => rw [run_cons, stays, ih]

theorem step_plain {b : UInt8} (h : isBlank b = true ∨ isDigit b = true) (m : Nat) :
    step ⟨.outside, m⟩ b = ⟨.outside, m⟩ := by
  rcases h with h | h
  · simp [step, between, h]
  · simp [step, between, h]

end Lexer

/-! ## §2 Stretches of text -/

/-- From `c` to `c'` a text takes the lexer from `σ` to `σ'`, within however many brackets. -/
def Moves (σ : Lexer) (c : Cursor) (σ' : Lexer) (c' : Cursor) : Prop :=
  ∃ u, c.rest = u ++ c'.rest ∧ c'.taken = c.taken + u.length ∧
    ∀ d, (σ.deeper d).run u = σ'.deeper d

/-- The rest of a text, entered within `d` brackets, closes them all. -/
def Fits (d : Nat) (σ : Lexer) (c : Cursor) : Prop :=
  (σ.deeper d).run c.rest = ⟨.outside, 0⟩

namespace Moves

variable {σ σ' σ'' : Lexer} {c c' c'' : Cursor}

theorem refl (σ : Lexer) (c : Cursor) : Moves σ c σ c :=
  ⟨[], rfl, rfl, fun _ => rfl⟩

theorem trans (h : Moves σ c σ' c') (h' : Moves σ' c' σ'' c'') : Moves σ c σ'' c'' := by
  obtain ⟨u, rest, taken, run⟩ := h
  obtain ⟨v, rest', taken', run'⟩ := h'
  refine ⟨u ++ v, by rw [rest, rest', List.append_assoc], ?_, fun d => ?_⟩
  · rw [taken', taken, List.length_append]
    omega
  · rw [Lexer.run_append, run, run']

theorem byte {b : UInt8} (h : ∀ d, (σ.deeper d).step b = σ'.deeper d) (q : List UInt8) (n : Nat) :
    Moves σ ⟨b :: q, n⟩ σ' ⟨q, n + 1⟩ :=
  ⟨[b], rfl, rfl, h⟩

/-- A byte that opens and closes no bracket. -/
theorem step {μ ν : Mode} {b : UInt8} (h : ∀ k, Lexer.step ⟨μ, k⟩ b = ⟨ν, k⟩) (m : Nat)
    (q : List UInt8) (n : Nat) : Moves ⟨μ, m⟩ ⟨b :: q, n⟩ ⟨ν, m⟩ ⟨q, n + 1⟩ := by
  refine byte ?_ q n
  exact fun d => h (m + d)

/-- Between values, a blank or digit changes nothing. -/
theorem plain {b : UInt8} (h : isBlank b = true ∨ isDigit b = true) (m : Nat) (q : List UInt8)
    (n : Nat) : Moves ⟨.outside, m⟩ ⟨b :: q, n⟩ ⟨.outside, m⟩ ⟨q, n + 1⟩ :=
  step (Lexer.step_plain h) m q n

/-- Within a bracket, a comma or colon changes nothing. -/
theorem comma {b : UInt8} (h : b = 0x2C ∨ b = 0x3A) (m : Nat) (q : List UInt8) (n : Nat) :
    Moves ⟨.outside, m + 1⟩ ⟨b :: q, n⟩ ⟨.outside, m + 1⟩ ⟨q, n + 1⟩ := by
  refine byte (fun d => ?_) q n
  rw [Lexer.deeper, Nat.add_right_comm]
  rcases h with rfl | rfl
  · rfl
  · rfl

theorem opening {b : UInt8} (h : b = 0x5B ∨ b = 0x7B) (m : Nat) (q : List UInt8) (n : Nat) :
    Moves ⟨.outside, m⟩ ⟨b :: q, n⟩ ⟨.outside, m + 1⟩ ⟨q, n + 1⟩ := by
  refine byte (fun d => ?_) q n
  rw [Lexer.deeper, Lexer.deeper, Nat.add_right_comm]
  rcases h with rfl | rfl
  · rfl
  · rfl

theorem closing {b : UInt8} (h : b = 0x5D ∨ b = 0x7D) (m : Nat) (q : List UInt8) (n : Nat) :
    Moves ⟨.outside, m + 1⟩ ⟨b :: q, n⟩ ⟨.outside, m⟩ ⟨q, n + 1⟩ := by
  refine byte (fun d => ?_) q n
  rw [Lexer.deeper, Nat.add_right_comm]
  rcases h with rfl | rfl
  · rfl
  · rfl

theorem quote (m : Nat) (q : List UInt8) (n : Nat) :
    Moves ⟨.outside, m⟩ ⟨0x22 :: q, n⟩ ⟨.string, m⟩ ⟨q, n + 1⟩ :=
  step (fun _ => rfl) m q n

theorem minus (m : Nat) (q : List UInt8) (n : Nat) :
    Moves ⟨.outside, m⟩ ⟨0x2D :: q, n⟩ ⟨.digit, m⟩ ⟨q, n + 1⟩ :=
  step (fun _ => rfl) m q n

/-- Elsewhere each byte has its one effect. -/
theorem inner (h : σ.mode ≠ .outside) (b : UInt8) (q : List UInt8) (n : Nat) :
    Moves σ ⟨b :: q, n⟩ (σ.step b) ⟨q, n + 1⟩ :=
  byte (Lexer.step_deeper h b) q n

theorem blanks (m : Nat) (u : List UInt8) (n : Nat) :
    Moves ⟨.outside, m⟩ ⟨u, n⟩ ⟨.outside, m⟩ (Reader.skipBlanks n u) := by
  induction u generalizing n with
  | nil => exact refl _ _
  | cons b u ih =>
    rw [Reader.skipBlanks]
    split
    · exact (plain (.inl ‹_›) m u n).trans (ih _)
    · exact refl _ _

theorem digits (m : Nat) (u : List UInt8) (n : Nat) :
    Moves ⟨.outside, m⟩ ⟨u, n⟩ ⟨.outside, m⟩ (Reader.skipDigits n u) := by
  induction u generalizing n with
  | nil => exact refl _ _
  | cons b u ih =>
    rw [Reader.skipDigits]
    split
    · exact (plain (.inr ‹_›) m u n).trans (ih _)
    · exact refl _ _

theorem fits_iff (h : Moves σ c σ' c') (d : Nat) : Fits d σ c ↔ Fits d σ' c' := by
  obtain ⟨u, rest, -, run⟩ := h
  rw [Fits, Fits, rest, Lexer.run_append, run]

end Moves

theorem Fits.ne_broken {d : Nat} {σ : Lexer} {c : Cursor} (h : Fits d σ c) :
    σ.mode ≠ .broken := by
  intro broken
  have e : (σ.deeper d).mode = .broken := broken
  rw [Fits, Lexer.run_broken e] at h
  rw [h] at e
  cases e

theorem Fits.ne_nil {d : Nat} {σ : Lexer} {n : Nat} (h : σ.mode ≠ .outside) :
    ¬Fits d σ ⟨[], n⟩ := by
  intro fits
  exact h (congrArg Lexer.mode fits)

/-! ## §3 Readers -/

/-- Where a fault may leave the reader of a value at depth `m`: in a string, or no higher up. -/
def Loose (m : Nat) (σ : Lexer) : Prop := (σ.mode = .outside ∧ m ≤ σ.depth) ∨ σ.mode = .string

theorem loose_outside (m : Nat) : Loose m ⟨.outside, m⟩ := .inl ⟨rfl, Nat.le_refl m⟩

theorem loose_string (m k : Nat) : Loose m ⟨.string, k⟩ := .inr rfl

/--
The reader takes the lexer from `σ` to a place with `Q`. If it fails within `d`
brackets of a text that fits, it leaves the lexer loose; for `none` nothing is
said about failures.
-/
def Tracks (d : Option Nat) (m : Nat) (σ : Lexer) (r : Reader α)
    (Q : α → Lexer → Cursor → Prop) (c : Cursor) : Prop :=
  match r c with
  | .ok a c' => ∃ σ', Moves σ c σ' c' ∧ Q a σ' c'
  | .error _ c' => ∀ n ∈ d, Fits n σ c → ∃ σ', Moves σ c σ' c' ∧ Loose m σ'

/-- The lexer is between values at depth `m`. -/
def Ends {α : Type} (m : Nat) : α → Lexer → Cursor → Prop := fun _ σ _ => σ = ⟨.outside, m⟩

namespace Tracks

variable {d : Option Nat} {m : Nat} {σ σ' : Lexer} {r r' : Reader α} {c c' : Cursor}
  {Q : α → Lexer → Cursor → Prop}

theorem of_ok {a : α} (h : r c = .ok a c') (moves : Moves σ c σ' c') (post : Q a σ' c') :
    Tracks d m σ r Q c := by
  rw [Tracks, h]
  exact ⟨σ', moves, post⟩

theorem of_error {e : Error} (h : r c = .error e c')
    (slips : ∀ n ∈ d, Fits n σ c → ∃ σ', Moves σ c σ' c' ∧ Loose m σ') : Tracks d m σ r Q c := by
  rw [Tracks, h]
  exact slips

theorem ok {a : α} (h : Tracks d m σ r Q c) (run : r c = .ok a c') :
    ∃ σ', Moves σ c σ' c' ∧ Q a σ' c' := by
  rwa [Tracks, run] at h

theorem error {n : Nat} {e : Error} (h : Tracks d m σ r Q c) (run : r c = .error e c')
    (within : n ∈ d) (fits : Fits n σ c) : ∃ σ', Moves σ c σ' c' ∧ Loose m σ' := by
  rw [Tracks, run] at h
  exact h n within fits

theorem of_eq (h : r c = r' c) (t : Tracks d m σ r' Q c) : Tracks d m σ r Q c := by
  rwa [Tracks, h]

theorem pure {a : α} (post : Q a σ c) : Tracks d m σ (pure a) Q c :=
  of_ok rfl (.refl σ c) post

/-- A reader fails where it stands. -/
theorem fail {e : Error} (h : r c = .error e c) (loose : Loose m σ) : Tracks d m σ r Q c :=
  of_error h fun _ _ _ => ⟨σ, .refl σ c, loose⟩

/-- No text that fits leads here. -/
theorem absurd {e : Error} (h : r c = .error e c') (broken : σ.mode = .broken) :
    Tracks d m σ r Q c :=
  of_error h fun _ _ fits => (fits.ne_broken broken).elim

/-- No text that fits ends here. -/
theorem ended {e : Error} {n : Nat} (h : r ⟨[], n⟩ = .error e c') (mode : σ.mode ≠ .outside) :
    Tracks d m σ r Q ⟨[], n⟩ :=
  of_error h fun _ _ fits => (Fits.ne_nil mode fits).elim

/-- Nothing is said about failures. -/
theorem vacuous {e : Error} (h : r c = .error e c') : Tracks none m σ r Q c := by
  rw [Tracks, h]
  exact nofun

theorem at_depth (t : Tracks none m σ r Q c) (k : Nat) : Tracks none k σ r Q c := by
  rw [Tracks] at t ⊢
  cases run : r c with
  | ok a c' =>
    rw [run] at t
    exact t
  | error e c' => exact nofun

/-- The reader goes on as `r'` after a stretch of text. -/
theorem move (moves : Moves σ c σ' c') (t : Tracks d m σ' r' Q c') (h : r c = r' c') :
    Tracks d m σ r Q c := by
  rw [Tracks, h]
  rw [Tracks] at t
  cases run : r' c' with
  | ok a c'' =>
    rw [run] at t
    obtain ⟨σ'', more, post⟩ := t
    exact ⟨σ'', moves.trans more, post⟩
  | error e c'' =>
    rw [run] at t
    intro n hn fits
    obtain ⟨σ'', more, loose⟩ := t n hn ((moves.fits_iff n).1 fits)
    exact ⟨σ'', moves.trans more, loose⟩

theorem bind {f : α → Reader β} {R : β → Lexer → Cursor → Prop} (t : Tracks d m σ r Q c)
    (next : ∀ a σ' c', Q a σ' c' → Tracks d m σ' (f a) R c') : Tracks d m σ (r >>= f) R c := by
  cases run : r c with
  | ok a c' =>
    obtain ⟨σ', moves, post⟩ := t.ok run
    exact move moves (next a σ' c' post) (Reader.run_bind run)
  | error e c' =>
    have failed : (r >>= f) c = .error e c' := by
      show EStateM.bind r f c = _
      rw [EStateM.bind, run]
    rw [Tracks, run] at t
    rw [Tracks, failed]
    exact t

theorem weaken {R : α → Lexer → Cursor → Prop} (t : Tracks d m σ r Q c)
    (h : ∀ a σ' c', Q a σ' c' → R a σ' c') : Tracks d m σ r R c := by
  rw [Tracks] at t ⊢
  cases run : r c with
  | ok a c' =>
    rw [run] at t
    obtain ⟨σ', moves, post⟩ := t
    exact ⟨σ', moves, h a σ' c' post⟩
  | error e c' =>
    rw [run] at t
    exact t

/-- A check of the value that has been read. -/
theorem bind_ends {f : α → Reader β} {R : β → Lexer → Cursor → Prop}
    (t : Tracks d m σ r (Ends m) c)
    (next : ∀ a c', Tracks d m ⟨.outside, m⟩ (f a) R c') : Tracks d m σ (r >>= f) R c := by
  refine t.bind fun a σ' c' ends => ?_
  cases ends
  exact next a c'

theorem within (t : Tracks d m σ r Q c) (step : Step) :
    Tracks d m σ (Reader.within step r) Q c := by
  rw [Tracks] at t ⊢
  rw [Reader.within]
  cases run : r c with
  | ok a c' =>
    rw [run] at t
    exact t
  | error e c' =>
    rw [run] at t
    exact t

/-- Blanks are passed over, and one looks at what comes next. -/
theorem token {k : Nat} {f : Option UInt8 → Reader α}
    (none : ∀ n, Tracks d m ⟨.outside, k⟩ (f none) Q ⟨[], n⟩)
    (some : ∀ b q n, Tracks d m ⟨.outside, k⟩ (f (some b)) Q ⟨b :: q, n⟩) (c : Cursor) :
    Tracks d m ⟨.outside, k⟩ (Reader.peekToken >>= f) Q c := by
  obtain ⟨u, n⟩ := c
  have moves := Moves.blanks k u n
  generalize moved : Reader.skipBlanks n u = c' at moves
  have run : (Reader.peekToken >>= f) ⟨u, n⟩ = f c'.rest.head? c' := by
    rw [← moved]
    rfl
  obtain ⟨_ | ⟨b, q⟩, n'⟩ := c'
  · exact move moves (none n') run
  · exact move moves (some b q n') run

/-- What comes next is looked at. -/
theorem look {f : Option UInt8 → Reader α} (none : ∀ n, Tracks d m σ (f none) Q ⟨[], n⟩)
    (some : ∀ b q n, Tracks d m σ (f (some b)) Q ⟨b :: q, n⟩) (c : Cursor) :
    Tracks d m σ (Reader.peek >>= f) Q c := by
  obtain ⟨_ | ⟨b, q⟩, n⟩ := c
  · exact of_eq rfl (none n)
  · exact of_eq rfl (some b q n)

theorem head {f : Option UInt8 → Reader α} (t : Tracks d m σ (f c.rest.head?) Q c) :
    Tracks d m σ (Reader.peek >>= f) Q c :=
  of_eq rfl t

/-- One byte is consumed. -/
theorem advance {b : UInt8} {q : List UInt8} {n : Nat} {f : Unit → Reader α}
    (moves : Moves σ ⟨b :: q, n⟩ σ' ⟨q, n + 1⟩) (t : Tracks d m σ' (f ()) Q ⟨q, n + 1⟩) :
    Tracks d m σ (Reader.advance >>= f) Q ⟨b :: q, n⟩ :=
  move moves t rfl

/-- Away from the gaps between values a byte is consumed, whatever it is. -/
theorem inner {b : UInt8} {q : List UInt8} {n : Nat} {f : Unit → Reader α}
    (mode : σ.mode ≠ .outside) (t : Tracks d m (σ.step b) (f ()) Q ⟨q, n + 1⟩) :
    Tracks d m σ (Reader.advance >>= f) Q ⟨b :: q, n⟩ :=
  move (.inner mode b q n) t rfl

/-- The same, with a fault where the text ends. -/
theorem next {f : Option UInt8 → Reader α} (mode : σ.mode ≠ .outside)
    (none : ∀ n, ∃ e c', f none ⟨[], n⟩ = .error e c')
    (some : ∀ b q n, Tracks d m (σ.step b) (f (some b)) Q ⟨q, n⟩) (c : Cursor) :
    Tracks d m σ (Reader.next >>= f) Q c := by
  obtain ⟨_ | ⟨b, q⟩, n⟩ := c
  · obtain ⟨e, c', failed⟩ := none n
    exact ended failed mode
  · exact move (.inner mode b q n) (some b q (n + 1)) rfl

theorem discard (t : Tracks d m σ r Q c) :
    Tracks d m σ (Functor.discard r) (fun _ σ' c' => ∃ a, Q a σ' c') c := by
  have e : Functor.discard r = r >>= fun _ => Pure.pure () := rfl
  rw [e]
  exact t.bind fun a σ' c' post => .pure ⟨a, post⟩

theorem digits {k : Nat} {f : Unit → Reader α}
    (t : ∀ c, Tracks d m ⟨.outside, k⟩ (f ()) Q c) (c : Cursor) :
    Tracks d m ⟨.outside, k⟩ (Reader.digits >>= f) Q c :=
  move (.digits k c.rest c.taken) (t _) rfl

end Tracks

/-- A forgiven reader has either succeeded or left the lexer loose. -/
theorem loose_of_attempt {n m : Nat} {σ : Lexer} {r : Reader α} {f : Except Error α → Reader β}
    {c c' : Cursor} {b : β} (t : Tracks (some n) m σ r (Ends m) c) (fits : Fits n σ c)
    (still : ∀ x c, ∃ b, f x c = .ok b c) (run : (Reader.attempt r >>= f) c = .ok b c') :
    ∃ σ', Moves σ c σ' c' ∧ Loose m σ' := by
  obtain ⟨x, d, attempted, rest⟩ := Reader.of_bind run
  obtain ⟨b', same⟩ := still x d
  cases same.symm.trans rest
  rw [Reader.attempt] at attempted
  cases inner : r c with
  | ok a c'' =>
    rw [inner] at attempted
    cases attempted
    obtain ⟨σ', moves, ends⟩ := t.ok inner
    cases ends
    exact ⟨_, moves, loose_outside m⟩
  | error e c'' =>
    rw [inner] at attempted
    cases attempted
    exact t.error inner rfl fits

end Roster.Json
