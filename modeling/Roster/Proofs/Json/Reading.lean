/-
Roster.Proofs.Json.Reading — readers take what is written.

`Reads r v a` says that the reader `r` takes exactly the bytes `v` and answers
`a`, whatever follows inside an object, which is a comma or a closing brace.
The readers of strings and numbers read what `Value.chars` writes: a string by
its characters, each of them in one of three forms (`Escaped`), and a number by
its decimal digits.
-/
import Mathlib.Algebra.Group.Int.Defs
import Mathlib.Algebra.Group.Nat.Defs
import Roster.Json.Scalars
import Roster.Proofs.Text.Encoding

namespace Roster.Json

open Text (utf8_cons utf8_append)

variable {α β : Type}

/-! ## §1 Steps -/

namespace Reader

theorem run_bind {r : Reader α} {f : α → Reader β} {c c' : Cursor} {a : α} (h : r c = .ok a c') :
    (r >>= f) c = f a c' := by
  show EStateM.bind r f c = f a c'
  rw [EStateM.bind, h]

theorem of_bind {r : Reader α} {f : α → Reader β} {c c'' : Cursor} {b : β}
    (h : (r >>= f) c = .ok b c'') : ∃ a c', r c = .ok a c' ∧ f a c' = .ok b c'' := by
  cases run : r c with
  | ok a c' => exact ⟨a, c', rfl, (run_bind run).symm.trans h⟩
  | error e c' =>
    have failed : (r >>= f) c = .error e c' := by
      show EStateM.bind r f c = _
      rw [EStateM.bind, run]
    cases failed.symm.trans h

@[simp] theorem run_pure (a : α) (c : Cursor) : (pure a : Reader α) c = .ok a c := rfl

theorem run_get (c : Cursor) : (get : Reader Cursor) c = .ok c c := rfl

theorem run_set (c c' : Cursor) : (set c' : Reader PUnit) c = .ok .unit c' := rfl

theorem run_peek (b : UInt8) (rest : List UInt8) (n : Nat) :
    peek ⟨b :: rest, n⟩ = .ok (some b) ⟨b :: rest, n⟩ := rfl

theorem run_advance (b : UInt8) (rest : List UInt8) (n : Nat) :
    advance ⟨b :: rest, n⟩ = .ok () ⟨rest, n + 1⟩ := rfl

theorem run_next (b : UInt8) (rest : List UInt8) (n : Nat) :
    next ⟨b :: rest, n⟩ = .ok (some b) ⟨rest, n + 1⟩ := rfl

theorem run_fuel (c : Cursor) : fuel c = .ok (c.rest.length + 1) c := rfl

theorem run_peekToken {b : UInt8} (h : isBlank b = false) (rest : List UInt8) (n : Nat) :
    peekToken ⟨b :: rest, n⟩ = .ok (some b) ⟨b :: rest, n⟩ := by
  have e : skipBlanks n (b :: rest) = ⟨b :: rest, n⟩ := by simp [skipBlanks, h]
  have moved : (modify fun c => skipBlanks c.taken c.rest : Reader PUnit) ⟨b :: rest, n⟩ =
      .ok .unit (skipBlanks n (b :: rest)) := rfl
  rw [peekToken, run_bind moved, e]
  rfl

end Reader

/-- What may follow a value inside an object. -/
def Stops (tail : List UInt8) : Prop := ∃ b rest, tail = b :: rest ∧ (b = 0x2C ∨ b = 0x7D)

/-- The reader takes exactly these bytes, whatever follows inside an object. -/
def Reads (r : Reader α) (v : List UInt8) (a : α) : Prop :=
  ∀ tail n, Stops tail → r ⟨v ++ tail, n⟩ = .ok a ⟨tail, n + v.length⟩

theorem Reads.bind {r : Reader α} {f : α → Reader β} {v : List UInt8} {a : α} {b : β}
    (h : Reads r v a) (k : ∀ c, f a c = .ok b c) : Reads (r >>= f) v b := by
  intro tail n stops
  rw [Reader.run_bind (h tail n stops), k]

/-! ## §2 Strings -/

/-- The bytes of a string in quotes after the opening one. -/
def quoted (s : String) : List UInt8 := Text.utf8 (s.toList.flatMap escapeChar) ++ [0x22]

theorem utf8_literal (s : String) : Text.utf8 (literal s) = 0x22 :: quoted s := by
  have e : String.utf8EncodeChar '"' = [0x22] := by decide
  simp [literal, quoted, e]

/-- The three forms in which a character stands in a string. -/
inductive Escaped (c : Char) : List UInt8 → Prop
  | short (x y : UInt8) : x ≠ 0x75 → Reader.shortEscape? x = some y →
    String.utf8EncodeChar c = [y] → Escaped c [0x5C, x]
  | unicode (a b d e : UInt8) (n : Nat) :
    Digits.hexFold? 0 ([a, b, d, e].map fun x => Char.ofNat x.toNat) = some n → n < 0xD800 →
    String.utf8EncodeChar c = Reader.utf8 n → Escaped c [0x5C, 0x75, a, b, d, e]
  | plain : (∀ b ∈ String.utf8EncodeChar c, 0x20 ≤ b ∧ b ≠ 0x22 ∧ b ≠ 0x5C) →
    Escaped c (String.utf8EncodeChar c)

theorem hexDigit_ascii {n : Nat} (h : n < 16) : (Digits.hexDigit n).toNat < 0x80 := by
  have all : ∀ k : Fin 16, (Digits.hexDigit k.val).toNat < 0x80 := by decide
  exact all ⟨n, h⟩

theorem ofNat_toNat_ofNat {c : Char} (h : c.toNat < 0x80) :
    Char.ofNat (UInt8.ofNat c.toNat).toNat = c := by
  rw [UInt8.toNat_ofNat', Nat.mod_eq_of_lt (by omega), Char.ofNat_toNat]

theorem escaped_control {c : Char} (h : c.toNat < 0x20) :
    Escaped c (Text.utf8 ('\\' :: 'u' :: Digits.hexField 4 c.toNat)) := by
  have digits : Digits.hexField 4 c.toNat =
      [Digits.hexDigit (c.toNat / 16 / 16 / 16 % 16), Digits.hexDigit (c.toNat / 16 / 16 % 16),
        Digits.hexDigit (c.toNat / 16 % 16), Digits.hexDigit (c.toNat % 16)] := rfl
  have ascii : ∀ d ∈ '\\' :: 'u' :: Digits.hexField 4 c.toNat, d.toNat < 0x80 := by
    intro d hd
    simp only [digits, List.mem_cons, List.not_mem_nil, or_false] at hd
    rcases hd with rfl | rfl | rfl | rfl | rfl | rfl
    · decide
    · decide
    all_goals exact hexDigit_ascii (Nat.mod_lt _ (by decide))
  have value := Digits.hexFold?_hexField 0 (show c.toNat < 16 ^ 4 by omega)
  rw [Text.utf8_of_ascii ascii, digits]
  refine .unicode _ _ _ _ c.toNat ?_ (by omega) ?_
  · rw [digits] at value
    simp only [List.map_cons, List.map_nil, ofNat_toNat_ofNat
      (hexDigit_ascii (Nat.mod_lt _ (by decide)))]
    simpa using value
  · have e : (String.singleton (Char.ofNat c.toNat)).toList = [c] := by simp
    rw [Reader.utf8, Text.bytesOf_eq, e]
    simp

theorem escaped_plain {c : Char} (control : ¬c.toNat < 0x20) (quote : c ≠ '"')
    (backslash : c ≠ '\\') : Escaped c (String.utf8EncodeChar c) := by
  refine .plain fun b hb => ?_
  by_cases ascii : c.toNat < 0x80
  · rw [Text.utf8EncodeChar_of_lt ascii, List.mem_singleton] at hb
    have value : b.toNat = c.toNat := by
      rw [hb, UInt8.toNat_ofNat', Nat.mod_eq_of_lt (by omega)]
    refine ⟨?_, ?_, ?_⟩
    · rw [UInt8.le_iff_toNat_le, value]
      exact Nat.le_of_not_lt control
    · rintro rfl
      exact quote (Char.toNat_inj.1 value.symm)
    · rintro rfl
      exact backslash (Char.toNat_inj.1 value.symm)
  · have high := Text.le_of_mem_utf8EncodeChar (Nat.le_of_not_lt ascii) hb
    refine ⟨?_, ?_, ?_⟩
    · rw [UInt8.le_iff_toNat_le]
      exact Nat.le_trans (by decide) high
    · rintro rfl
      exact absurd high (by decide)
    · rintro rfl
      exact absurd high (by decide)

/-- A character whose escape is one letter. -/
theorem escaped_short {c d : Char} (x y : UInt8) (h : c.toNat = d.toNat)
    (letter : x ≠ 0x75 ∧ Reader.shortEscape? x = some y)
    (bytes : String.utf8EncodeChar d = [y] ∧ Text.utf8 (escapeChar d) = [0x5C, x]) :
    Escaped c (Text.utf8 (escapeChar c)) := by
  have : c = d := Char.toNat_inj.1 h
  subst this
  rw [bytes.2]
  exact .short x y letter.1 letter.2 bytes.1

/-- Every character stands in a string in one of the three forms. -/
theorem escaped (c : Char) : Escaped c (Text.utf8 (escapeChar c)) := by
  by_cases quote : c = '"'
  · exact escaped_short 0x22 0x22 (congrArg Char.toNat quote) (by decide) (by decide)
  by_cases backslash : c = '\\'
  · exact escaped_short 0x5C 0x5C (congrArg Char.toNat backslash) (by decide) (by decide)
  by_cases h8 : c.toNat = 0x08
  · exact escaped_short (d := '\x08') 0x62 0x08 h8 (by decide) (by decide)
  by_cases h9 : c.toNat = 0x09
  · exact escaped_short (d := '\t') 0x74 0x09 h9 (by decide) (by decide)
  by_cases hA : c.toNat = 0x0A
  · exact escaped_short (d := '\n') 0x6E 0x0A hA (by decide) (by decide)
  by_cases hC : c.toNat = 0x0C
  · exact escaped_short (d := '\x0c') 0x66 0x0C hC (by decide) (by decide)
  by_cases hD : c.toNat = 0x0D
  · exact escaped_short (d := '\r') 0x72 0x0D hD (by decide) (by decide)
  unfold escapeChar
  rw [if_neg (by simp [quote, backslash]), if_neg h8, if_neg h9, if_neg hA, if_neg hC, if_neg hD]
  split
  · exact escaped_control ‹_›
  · have e : Text.utf8 [c] = String.utf8EncodeChar c := by simp
    rw [e]
    exact escaped_plain ‹_› quote backslash

namespace Reader

theorem run_hexEscape {a b d e : UInt8} {k : Nat}
    (h : Digits.hexFold? 0 ([a, b, d, e].map fun x => Char.ofNat x.toNat) = some k)
    (rest : List UInt8) (n : Nat) :
    hexEscape ⟨a :: b :: d :: e :: rest, n⟩ = .ok k ⟨rest, n + 4⟩ := by
  rw [hexEscape, run_bind (run_get _)]
  dsimp only
  rw [run_bind (run_set _ _), h]
  rfl

theorem run_unicodeEscape {a b d e : UInt8} {k : Nat}
    (h : Digits.hexFold? 0 ([a, b, d, e].map fun x => Char.ofNat x.toNat) = some k)
    (plain : k < 0xD800) (rest : List UInt8) (n : Nat) :
    unicodeEscape ⟨a :: b :: d :: e :: rest, n⟩ = .ok (utf8 k) ⟨rest, n + 4⟩ := by
  rw [unicodeEscape, run_bind (run_hexEscape h rest n), if_neg (by omega), if_neg (by omega)]
  rfl

/-- Bytes that stand for themselves go onto the accumulator one by one. -/
theorem stringBytes_plain {bytes : List UInt8}
    (plain : ∀ b ∈ bytes, 0x20 ≤ b ∧ b ≠ 0x22 ∧ b ≠ 0x5C) (acc : List UInt8) (steps : Nat)
    (rest : List UInt8) (n : Nat) :
    stringBytes acc (bytes.length + steps) ⟨bytes ++ rest, n⟩ =
      stringBytes (bytes.reverse ++ acc) steps ⟨rest, n + bytes.length⟩ := by
  induction bytes generalizing acc n with
  | nil => simp
  | cons b bytes ih =>
    obtain ⟨low, quote, backslash⟩ := plain b List.mem_cons_self
    have fuel : (b :: bytes).length + steps = bytes.length + steps + 1 := by
      rw [List.length_cons]
      omega
    have place : n + 1 + bytes.length = n + (b :: bytes).length := by
      rw [List.length_cons]
      omega
    have control : ¬b < 0x20 := by
      rw [UInt8.not_lt]
      exact low
    rw [fuel, stringBytes, List.cons_append, run_bind (run_peek _ _ _)]
    dsimp only
    rw [run_bind (run_advance _ _ _), if_neg quote, if_neg backslash, if_neg control,
      ih fun x hx => plain x (List.mem_cons_of_mem _ hx)]
    rw [place, List.reverse_cons, List.append_assoc]
    rfl

/-- An escape is one round of the loop. -/
theorem stringBytes_escape {bytes rest : List UInt8} {n m : Nat} {x : UInt8} {tail : List UInt8}
    (h : escape ⟨x :: tail, n + 1⟩ = .ok bytes ⟨rest, m⟩) (acc : List UInt8) (steps : Nat) :
    stringBytes acc (steps + 1) ⟨0x5C :: x :: tail, n⟩ =
      stringBytes (bytes.reverse ++ acc) steps ⟨rest, m⟩ := by
  rw [stringBytes, run_bind (run_peek _ _ _)]
  dsimp only
  rw [run_bind (run_advance _ _ _), if_neg (by decide), if_pos rfl, run_bind h]

/-- One character of a string, in at most as many rounds as it has bytes. -/
theorem stringBytes_escaped {c : Char} {v : List UInt8} (h : Escaped c v) (acc : List UInt8)
    (rest : List UInt8) (n : Nat) :
    ∃ k, k ≤ v.length ∧ ∀ steps, stringBytes acc (k + steps) ⟨v ++ rest, n⟩ =
      stringBytes ((String.utf8EncodeChar c).reverse ++ acc) steps ⟨rest, n + v.length⟩ := by
  cases h with
  | short x y letter short bytes =>
    have run : escape ⟨x :: rest, n + 1⟩ = .ok [y] ⟨rest, n + 2⟩ := by
      rw [escape, run_bind (run_next _ _ _)]
      dsimp only
      rw [if_neg letter, short]
      rfl
    refine ⟨1, by simp, fun steps => ?_⟩
    rw [Nat.add_comm, bytes]
    exact stringBytes_escape run acc steps
  | unicode a b d e k hex plain bytes =>
    have run : escape ⟨0x75 :: a :: b :: d :: e :: rest, n + 1⟩ = .ok (utf8 k) ⟨rest, n + 6⟩ := by
      rw [escape, run_bind (run_next _ _ _)]
      dsimp only
      rw [if_pos rfl]
      exact run_unicodeEscape hex plain rest (n + 2)
    refine ⟨1, by simp, fun steps => ?_⟩
    rw [Nat.add_comm, bytes]
    exact stringBytes_escape run acc steps
  | plain plain =>
    exact ⟨_, Nat.le_refl _, fun steps => stringBytes_plain plain acc steps rest n⟩

theorem stringBytes_quoted (cs : List Char) (acc : List UInt8) (tail : List UInt8) (n steps : Nat)
    (enough : (Text.utf8 (cs.flatMap escapeChar)).length < steps) :
    stringBytes acc steps ⟨Text.utf8 (cs.flatMap escapeChar) ++ 0x22 :: tail, n⟩ =
      .ok ((Text.utf8 cs).reverse ++ acc)
        ⟨tail, n + (Text.utf8 (cs.flatMap escapeChar)).length + 1⟩ := by
  induction cs generalizing acc n steps with
  | nil =>
    obtain ⟨steps, rfl⟩ : ∃ k, steps = k + 1 := ⟨steps - 1, by omega⟩
    rfl
  | cons c cs ih =>
    rw [List.flatMap_cons, utf8_append, List.length_append] at enough
    obtain ⟨k, hk, run⟩ := stringBytes_escaped (escaped c) acc
      (Text.utf8 (cs.flatMap escapeChar) ++ 0x22 :: tail) n
    obtain ⟨more, rfl⟩ : ∃ m, steps = k + m := ⟨steps - k, by omega⟩
    rw [List.flatMap_cons, utf8_append, List.append_assoc, run, ih _ _ _ (by omega), utf8_cons,
      List.reverse_append, List.append_assoc, List.length_append]
    congr 2
    omega

/-- A string is read as it was before it was escaped. -/
theorem run_stringBody (s : String) (tail : List UInt8) (n : Nat) :
    stringBody ⟨quoted s ++ tail, n⟩ = .ok s ⟨tail, n + (quoted s).length⟩ := by
  have bytes : quoted s ++ tail = Text.utf8 (s.toList.flatMap escapeChar) ++ 0x22 :: tail := by
    simp [quoted]
  have enough : (Text.utf8 (s.toList.flatMap escapeChar)).length <
      (Text.utf8 (s.toList.flatMap escapeChar) ++ 0x22 :: tail).length + 1 := by
    rw [List.length_append]
    omega
  rw [stringBody, bytes, run_bind (run_fuel _), run_bind (stringBytes_quoted _ [] tail n _ enough),
    List.append_nil, List.reverse_reverse, Text.fromUTF8?_utf8, String.ofList_toList, quoted,
    List.length_append, ← Nat.add_assoc]
  rfl

theorem run_skipEscape_short {x y : UInt8} (letter : x ≠ 0x75) (h : shortEscape? x = some y)
    (rest : List UInt8) (n : Nat) : skipEscape ⟨x :: rest, n⟩ = .ok () ⟨rest, n + 1⟩ := by
  rw [skipEscape, run_bind (run_next _ _ _)]
  dsimp only
  rw [if_neg letter, h]
  rfl

theorem run_skipEscape_unicode {a b d e : UInt8} {k : Nat}
    (h : Digits.hexFold? 0 ([a, b, d, e].map fun x => Char.ofNat x.toNat) = some k)
    (rest : List UInt8) (n : Nat) :
    skipEscape ⟨0x75 :: a :: b :: d :: e :: rest, n⟩ = .ok () ⟨rest, n + 5⟩ := by
  rw [skipEscape, run_bind (run_next _ _ _)]
  dsimp only
  rw [if_pos rfl]
  show EStateM.map _ hexEscape _ = _
  rw [EStateM.map, run_hexEscape h rest (n + 1)]

theorem skipString_plain {bytes : List UInt8}
    (plain : ∀ b ∈ bytes, 0x20 ≤ b ∧ b ≠ 0x22 ∧ b ≠ 0x5C) (steps : Nat) (rest : List UInt8)
    (n : Nat) :
    skipString (bytes.length + steps) ⟨bytes ++ rest, n⟩ =
      skipString steps ⟨rest, n + bytes.length⟩ := by
  induction bytes generalizing n with
  | nil => simp
  | cons b bytes ih =>
    obtain ⟨low, quote, backslash⟩ := plain b List.mem_cons_self
    have fuel : (b :: bytes).length + steps = bytes.length + steps + 1 := by
      rw [List.length_cons]
      omega
    have place : n + 1 + bytes.length = n + (b :: bytes).length := by
      rw [List.length_cons]
      omega
    have control : ¬b < 0x20 := by
      rw [UInt8.not_lt]
      exact low
    rw [fuel, skipString, List.cons_append, run_bind (run_peek _ _ _)]
    dsimp only
    rw [if_neg control, run_bind (run_advance _ _ _), if_neg quote, if_neg backslash,
      ih fun x hx => plain x (List.mem_cons_of_mem _ hx), place]

theorem skipString_escape {rest : List UInt8} {n m : Nat} {x : UInt8} {tail : List UInt8}
    (h : skipEscape ⟨x :: tail, n + 1⟩ = .ok () ⟨rest, m⟩) (steps : Nat) :
    skipString (steps + 1) ⟨0x5C :: x :: tail, n⟩ = skipString steps ⟨rest, m⟩ := by
  rw [skipString, run_bind (run_peek _ _ _)]
  dsimp only
  rw [if_neg (by decide), run_bind (run_advance _ _ _), if_neg (by decide), if_pos rfl, run_bind h]

theorem skipString_escaped {c : Char} {v : List UInt8} (h : Escaped c v) (rest : List UInt8)
    (n : Nat) :
    ∃ k, k ≤ v.length ∧ ∀ steps, skipString (k + steps) ⟨v ++ rest, n⟩ =
      skipString steps ⟨rest, n + v.length⟩ := by
  cases h with
  | short x y letter short bytes =>
    refine ⟨1, by simp, fun steps => ?_⟩
    rw [Nat.add_comm]
    exact skipString_escape (run_skipEscape_short letter short rest (n + 1)) steps
  | unicode a b d e k hex plain bytes =>
    refine ⟨1, by simp, fun steps => ?_⟩
    rw [Nat.add_comm]
    exact skipString_escape (run_skipEscape_unicode hex rest (n + 1)) steps
  | plain plain =>
    exact ⟨_, Nat.le_refl _, fun steps => skipString_plain plain steps rest n⟩

theorem skipString_quoted (cs : List Char) (tail : List UInt8) (n steps : Nat)
    (enough : (Text.utf8 (cs.flatMap escapeChar)).length < steps) :
    skipString steps ⟨Text.utf8 (cs.flatMap escapeChar) ++ 0x22 :: tail, n⟩ =
      .ok () ⟨tail, n + (Text.utf8 (cs.flatMap escapeChar)).length + 1⟩ := by
  induction cs generalizing n steps with
  | nil =>
    obtain ⟨steps, rfl⟩ : ∃ k, steps = k + 1 := ⟨steps - 1, by omega⟩
    rfl
  | cons c cs ih =>
    rw [List.flatMap_cons, utf8_append, List.length_append] at enough
    obtain ⟨k, hk, run⟩ := skipString_escaped (escaped c)
      (Text.utf8 (cs.flatMap escapeChar) ++ 0x22 :: tail) n
    obtain ⟨more, rfl⟩ : ∃ m, steps = k + m := ⟨steps - k, by omega⟩
    rw [List.flatMap_cons, utf8_append, List.append_assoc, run, ih _ _ (by omega),
      List.length_append]
    congr 2
    omega

/-- Skipping a string ends where reading it does. -/
theorem run_skipString (s : String) (tail : List UInt8) (n steps : Nat)
    (enough : (quoted s).length ≤ steps) :
    skipString steps ⟨quoted s ++ tail, n⟩ = .ok () ⟨tail, n + (quoted s).length⟩ := by
  have bytes : quoted s ++ tail = Text.utf8 (s.toList.flatMap escapeChar) ++ 0x22 :: tail := by
    simp [quoted]
  have len : (quoted s).length = (Text.utf8 (s.toList.flatMap escapeChar)).length + 1 := by
    simp [quoted]
  rw [bytes, skipString_quoted _ tail n steps (by omega), len, ← Nat.add_assoc]

end Reader

/-! ## §3 Numbers -/

/-- The number that digits spell, most significant first. -/
def spelled (acc : Nat) (ds : List Nat) : Nat := ds.foldl (fun a d => a * 10 + d) acc

/-- The bytes of digits. -/
def digitBytes (ds : List Nat) : List UInt8 := ds.map fun d => UInt8.ofNat (0x30 + d)

theorem le_spelled (acc : Nat) (ds : List Nat) : acc ≤ spelled acc ds := by
  induction ds generalizing acc with
  | nil => exact Nat.le_refl _
  | cons d ds ih =>
    have := ih (acc * 10 + d)
    rw [spelled, List.foldl_cons]
    rw [spelled] at this
    omega

/-- The digits of a number: no leading zero, except for zero itself. -/
structure DigitsOf (n : Nat) (first : Nat) (rest : List Nat) : Prop where
  lt : ∀ d ∈ first :: rest, d < 10
  value : spelled 0 (first :: rest) = n
  zero : first = 0 → n = 0 ∧ rest = []

theorem decimalOnto_eq (n : Nat) (tail : List Char) :
    ∃ first rest, DigitsOf n first rest ∧
      Digits.decimalOnto n tail = (first :: rest).map Digits.decimalDigit ++ tail := by
  induction n using Nat.strongRecOn generalizing tail with
  | _ n ih =>
    rw [Digits.decimalOnto]
    split
    · rename_i small
      refine ⟨n, [], ⟨by simpa using small, by simp [spelled], fun h => ⟨h, rfl⟩⟩, ?_⟩
      rw [Nat.mod_eq_of_lt small]
      rfl
    · rename_i large
      obtain ⟨first, rest, ds, e⟩ := ih (n / 10) (by omega) (Digits.decimalDigit (n % 10) :: tail)
      refine ⟨first, rest ++ [n % 10], ⟨?_, ?_, fun h => ?_⟩, ?_⟩
      · intro d hd
        rw [← List.cons_append, List.mem_append, List.mem_singleton] at hd
        rcases hd with hd | rfl
        · exact ds.lt d hd
        · exact Nat.mod_lt _ (by decide)
      · have value := ds.value
        rw [spelled] at value ⊢
        rw [← List.cons_append, List.foldl_append, value]
        simp only [List.foldl_cons, List.foldl_nil]
        omega
      · have := (ds.zero h).1
        omega
      · rw [e]
        simp

theorem decimalDigit_ascii {d : Nat} (h : d < 10) : (Digits.decimalDigit d).toNat = 0x30 + d := by
  have all : ∀ k : Fin 10, (Digits.decimalDigit k.val).toNat = 0x30 + k.val := by decide
  exact all ⟨d, h⟩

/-- The bytes of a natural number are those of its digits. -/
theorem utf8_natText (n : Nat) :
    ∃ first rest, DigitsOf n first rest ∧
      Text.utf8 (Digits.natText n).toList = digitBytes (first :: rest) := by
  obtain ⟨first, rest, ds, e⟩ := decimalOnto_eq n []
  refine ⟨first, rest, ds, ?_⟩
  rw [Digits.natText, String.toList_ofList, Digits.decimal, e, List.append_nil,
    Text.utf8_of_ascii, digitBytes, List.map_map]
  · refine List.map_congr_left fun d hd => ?_
    show UInt8.ofNat (Digits.decimalDigit d).toNat = _
    rw [decimalDigit_ascii (ds.lt d hd)]
  · intro c hc
    obtain ⟨d, hd, rfl⟩ := List.mem_map.1 hc
    rw [decimalDigit_ascii (ds.lt d hd)]
    have := ds.lt d hd
    omega

namespace Reader

/-- What readers find out about the byte of a decimal digit. -/
structure IsDigitByte (d : Nat) (b : UInt8) : Prop where
  digit : isDigit b = true
  value : digitValue b = d
  blank : isBlank b = false
  zero : b = 0x30 ↔ d = 0
  minus : b ≠ 0x2D
  word : b ≠ 0x6E ∧ b ≠ 0x74 ∧ b ≠ 0x66
  bracket : b ≠ 0x5B ∧ b ≠ 0x7B

theorem isDigitByte {d : Nat} (h : d < 10) : IsDigitByte d (UInt8.ofNat (0x30 + d)) := by
  have all : ∀ k : Fin 10, let b := UInt8.ofNat (0x30 + k.val)
      isDigit b = true ∧ digitValue b = k.val ∧ isBlank b = false ∧ (b = 0x30 ↔ k.val = 0) ∧
        b ≠ 0x2D ∧ (b ≠ 0x6E ∧ b ≠ 0x74 ∧ b ≠ 0x66) ∧ b ≠ 0x5B ∧ b ≠ 0x7B := by decide
  obtain ⟨digit, value, blank, zero, minus, word, bracket⟩ := all ⟨d, h⟩
  exact ⟨digit, value, blank, zero, minus, word, bracket⟩

theorem isDigit_stop {b : UInt8} (h : b = 0x2C ∨ b = 0x7D) : isDigit b = false := by
  rcases h with rfl | rfl <;> decide

theorem integerDigits_spelled {ds : List Nat} (lt : ∀ d ∈ ds, d < 10) (acc : Nat)
    (bound : spelled acc ds ≤ greatestNat) {tail : List UInt8} (stops : Stops tail) (n steps : Nat)
    (enough : ds.length < steps) :
    integerDigits acc steps ⟨digitBytes ds ++ tail, n⟩ =
      .ok (spelled acc ds, false) ⟨tail, n + ds.length⟩ := by
  induction ds generalizing acc n steps with
  | nil =>
    obtain ⟨b, rest, rfl, hb⟩ := stops
    obtain ⟨steps, rfl⟩ : ∃ k, steps = k + 1 := ⟨steps - 1, by omega⟩
    rw [integerDigits]
    show (peek >>= _) (⟨b :: rest, n⟩ : Cursor) = _
    rw [run_bind (run_peek _ _ _)]
    dsimp only
    rw [isDigit_stop hb]
    rfl
  | cons d ds ih =>
    obtain ⟨steps, rfl⟩ : ∃ k, steps = k + 1 := ⟨steps - 1, by omega⟩
    have byte := isDigitByte (lt d List.mem_cons_self)
    have fits : acc * 10 + d ≤ greatestNat := Nat.le_trans (le_spelled _ ds) bound
    rw [integerDigits]
    show (peek >>= _) (⟨UInt8.ofNat (0x30 + d) :: (digitBytes ds ++ tail), n⟩ : Cursor) = _
    rw [run_bind (run_peek _ _ _)]
    dsimp only
    rw [if_pos byte.digit, byte.value, if_pos fits, run_bind (run_advance _ _ _),
      ih (fun x hx => lt x (List.mem_cons_of_mem _ hx)) _ bound (n + 1) steps
        (by rw [List.length_cons] at enough; omega)]
    rw [List.length_cons]
    congr 2
    omega

theorem afterInteger_stop (k : Nat) {tail : List UInt8} (stops : Stops tail) (n : Nat) :
    afterInteger false k ⟨tail, n⟩ = .ok (.nat k) ⟨tail, n⟩ := by
  obtain ⟨b, rest, rfl, hb⟩ := stops
  rcases hb with rfl | rfl <;> rfl

theorem peekIsDigit_stop {tail : List UInt8} (stops : Stops tail) (n : Nat) :
    peekIsDigit ⟨tail, n⟩ = .ok false ⟨tail, n⟩ := by
  obtain ⟨b, rest, rfl, hb⟩ := stops
  rcases hb with rfl | rfl <;> rfl

/-- The digits of a number below 2^64 are read as that number. -/
theorem run_number {k first : Nat} {rest : List Nat} (ds : DigitsOf k first rest)
    (bound : k ≤ greatestNat) {tail : List UInt8} (stops : Stops tail) (n : Nat) :
    number false ⟨digitBytes (first :: rest) ++ tail, n⟩ =
      .ok (.nat k) ⟨tail, n + (digitBytes (first :: rest)).length⟩ := by
  have byte := isDigitByte (ds.lt first List.mem_cons_self)
  rw [number]
  show (next >>= _) (⟨UInt8.ofNat (0x30 + first) :: (digitBytes rest ++ tail), n⟩ : Cursor) = _
  rw [run_bind (run_next _ _ _)]
  dsimp only
  by_cases h : first = 0
  · obtain ⟨rfl, rfl⟩ := ds.zero h
    have nil : digitBytes [] ++ tail = tail := rfl
    rw [if_pos (byte.zero.2 h), nil, run_bind (peekIsDigit_stop stops (n + 1)), if_neg (by decide)]
    exact afterInteger_stop 0 stops (n + 1)
  · have e : spelled first rest = k := by
      have := ds.value
      rw [spelled, List.foldl_cons, Nat.zero_mul, Nat.zero_add] at this
      exact this
    have len : (digitBytes rest).length = rest.length := by simp [digitBytes]
    rw [if_neg (mt byte.zero.1 h), if_pos byte.digit, run_bind (run_fuel _), byte.value,
      run_bind (integerDigits_spelled (fun d hd => ds.lt d (List.mem_cons_of_mem _ hd)) first
        (e ▸ bound) stops (n + 1) _ (by rw [List.length_append, len]; omega))]
    dsimp only
    rw [if_neg (by decide), e, afterInteger_stop k stops]
    rw [digitBytes, List.length_map, List.length_cons]
    congr 2
    omega

theorem skipDigits_digits {ds : List Nat} (lt : ∀ d ∈ ds, d < 10) {tail : List UInt8}
    (stops : Stops tail) (n : Nat) :
    skipDigits n (digitBytes ds ++ tail) = ⟨tail, n + ds.length⟩ := by
  induction ds generalizing n with
  | nil =>
    obtain ⟨b, rest, rfl, hb⟩ := stops
    show skipDigits n (b :: rest) = _
    rw [skipDigits, isDigit_stop hb]
    rfl
  | cons d ds ih =>
    have byte := isDigitByte (lt d List.mem_cons_self)
    show skipDigits n (UInt8.ofNat (0x30 + d) :: (digitBytes ds ++ tail)) = _
    rw [skipDigits, if_pos byte.digit, ih (fun x hx => lt x (List.mem_cons_of_mem _ hx)),
      List.length_cons]
    congr 1
    omega

/-- Skipping a number ends where reading it does. -/
theorem run_skipNumber {k first : Nat} {rest : List Nat} (ds : DigitsOf k first rest)
    {tail : List UInt8} (stops : Stops tail) (n : Nat) :
    skipNumber ⟨digitBytes (first :: rest) ++ tail, n⟩ =
      .ok () ⟨tail, n + (digitBytes (first :: rest)).length⟩ := by
  have byte := isDigitByte (ds.lt first List.mem_cons_self)
  rw [skipNumber]
  show (next >>= _) (⟨UInt8.ofNat (0x30 + first) :: (digitBytes rest ++ tail), n⟩ : Cursor) = _
  rw [run_bind (run_next _ _ _)]
  dsimp only
  by_cases h : first = 0
  · obtain ⟨rfl, rfl⟩ := ds.zero h
    have nil : digitBytes [] ++ tail = tail := rfl
    rw [if_pos (byte.zero.2 h), nil, run_bind (peekIsDigit_stop stops (n + 1)), if_neg (by decide)]
    obtain ⟨b, more, rfl, hb⟩ := stops
    rcases hb with rfl | rfl <;> rfl
  · have skip : digits ⟨digitBytes rest ++ tail, n + 1⟩ =
        .ok () ⟨tail, n + (digitBytes (first :: rest)).length⟩ := by
      show EStateM.Result.ok () (skipDigits (n + 1) (digitBytes rest ++ tail)) = _
      rw [skipDigits_digits (fun d hd => ds.lt d (List.mem_cons_of_mem _ hd)) stops, digitBytes,
        List.length_map, List.length_cons]
      congr 2
      omega
    rw [if_neg (mt byte.zero.1 h), if_pos byte.digit, run_bind skip]
    obtain ⟨b, more, rfl, hb⟩ := stops
    rcases hb with rfl | rfl <;> rfl

end Reader

/-! ## §4 Scalars -/

open Reader

theorem reads_text (expected s : String) : Reads (text expected) (0x22 :: quoted s) s := by
  intro tail n _
  rw [text, List.cons_append, run_bind (run_peekToken (by decide) _ _)]
  show (advance >>= fun _ => stringBody) _ = _
  rw [run_bind (run_advance _ _ _), run_stringBody, List.length_cons]
  congr 2
  omega

theorem reads_parsed {expected s : String} {parse : String → Except String α} {a : α}
    (h : parse s = .ok a) : Reads (parsed expected parse) (0x22 :: quoted s) a :=
  (reads_text expected s).bind fun c => by rw [h]; rfl

theorem reads_named [Inhabited α] {known : List String} {ofName? : String → Option α}
    {name : String} {a : α} (mem : known.contains name) (h : ofName? name = some a) :
    Reads (named known ofName?) (0x22 :: quoted name) a := by
  intro tail n stops
  have variant : variantName known ⟨0x22 :: quoted name ++ tail, n⟩ =
      .ok name ⟨tail, n + (0x22 :: quoted name).length⟩ := by
    rw [variantName, run_bind (reads_text _ name tail n stops), if_pos mem]
    rfl
  have chosen : choice known ⟨0x22 :: quoted name ++ tail, n⟩ =
      .ok name ⟨tail, n + (0x22 :: quoted name).length⟩ := by
    rw [choice, List.cons_append, run_bind (run_peekToken (by decide) _ _)]
    exact variant
  rw [named, run_bind chosen, h]
  rfl

theorem peekToken_digits {k first : Nat} {rest : List Nat} (ds : DigitsOf k first rest)
    (tail : List UInt8) (n : Nat) :
    peekToken ⟨digitBytes (first :: rest) ++ tail, n⟩ =
      .ok (some (UInt8.ofNat (0x30 + first))) ⟨digitBytes (first :: rest) ++ tail, n⟩ :=
  run_peekToken (isDigitByte (ds.lt first List.mem_cons_self)).blank _ _

/-- A natural number that fits is read as an integer. -/
theorem reads_int64 {k : Nat} (bound : k < 2 ^ 63) :
    Reads int64 (Text.utf8 (Digits.natText k).toList) (Int.ofNat k) := by
  obtain ⟨first, rest, ds, e⟩ := utf8_natText k
  rw [e]
  intro tail n stops
  have byte := isDigitByte (ds.lt first List.mem_cons_self)
  have fits : -2 ^ 63 ≤ Int.ofNat k ∧ Int.ofNat k ≤ 2 ^ 63 - 1 := by
    constructor <;> simp only [Int.ofNat_eq_natCast] <;> omega
  rw [int64, integer, run_bind (peekToken_digits ds tail n)]
  have minus := byte.minus
  simp only [byte.digit, if_true]
  rw [run_bind (run_number ds (by unfold greatestNat; omega) stops n)]
  show (if -2 ^ 63 ≤ Int.ofNat k ∧ Int.ofNat k ≤ 2 ^ 63 - 1 then
    (pure (Int.ofNat k) : Reader Int) else _) _ = _
  rw [if_pos fits]
  rfl

/-- A string is not `null` and is read with the given reader. -/
theorem reads_optional {r : Reader α} {v : List UInt8} {a : α} (h : Reads r (0x22 :: v) a) :
    Reads (Reader.optional r) (0x22 :: v) (some a) := by
  intro tail n stops
  rw [Reader.optional, List.cons_append, run_bind (run_peekToken (by decide) _ _)]
  show (r >>= fun a => pure (some a)) _ = _
  exact run_bind (h tail n stops)

/-! ## §5 Skipped values -/

theorem reads_skip_text (s : String) : Reads skipValue (0x22 :: quoted s) () := by
  intro tail n _
  rw [skipValue, run_bind (run_fuel _), skipValues, List.cons_append,
    run_bind (run_peekToken (by decide) _ _)]
  simp only []
  rw [if_neg (by decide), if_neg (by decide), if_neg (by decide), if_neg (by decide),
    if_neg (by decide), if_pos trivial, run_bind (run_advance _ _ _), run_bind (run_fuel _),
    run_bind (run_skipString s tail (n + 1) _ (by rw [List.length_append]; omega))]
  show EStateM.Result.ok () _ = _
  rw [List.length_cons]
  congr 2
  omega

theorem reads_skip_natText (k : Nat) :
    Reads skipValue (Text.utf8 (Digits.natText k).toList) () := by
  obtain ⟨first, rest, ds, e⟩ := utf8_natText k
  rw [e]
  intro tail n stops
  have byte := isDigitByte (ds.lt first List.mem_cons_self)
  rw [skipValue, run_bind (run_fuel _), skipValues, run_bind (peekToken_digits ds tail n)]
  simp only []
  rw [if_neg byte.word.1, if_neg byte.word.2.1, if_neg byte.word.2.2, if_neg byte.minus,
    if_pos byte.digit, run_bind (run_skipNumber ds stops n)]
  rfl

theorem reads_skip_negative (k : Nat) :
    Reads skipValue (0x2D :: Text.utf8 (Digits.natText k).toList) () := by
  obtain ⟨first, rest, ds, e⟩ := utf8_natText k
  rw [e]
  intro tail n stops
  rw [skipValue, run_bind (run_fuel _), skipValues, List.cons_append,
    run_bind (run_peekToken (by decide) _ _)]
  simp only []
  rw [if_neg (by decide), if_neg (by decide), if_neg (by decide), if_pos trivial,
    run_bind (run_advance _ _ _), run_bind (run_skipNumber ds stops (n + 1))]
  have place : n + 1 + (digitBytes (first :: rest)).length =
      n + (0x2D :: digitBytes (first :: rest)).length := by
    rw [List.length_cons (a := 0x2D)]
    omega
  rw [← place]
  rfl

/-- An integer is skipped, be it negative or not. -/
theorem reads_skip_int (n : Int) : Reads skipValue (Text.utf8 (Value.ofInt n).chars) () := by
  cases n with
  | ofNat k => exact reads_skip_natText k
  | negSucc k =>
    have minus : String.utf8EncodeChar '-' = [0x2D] := by decide
    have e : Text.utf8 (Value.ofInt (.negSucc k)).chars =
        0x2D :: Text.utf8 (Digits.natText (k + 1)).toList := by
      simp [Value.ofInt, Number.ofInt, Value.chars, Number.text, minus]
    rw [e]
    exact reads_skip_negative (k + 1)

/-! ## §6 Objects -/

/-- The bytes of fields, each with its comma in front unless it comes first. -/
def fieldBytes (first : Bool) : List (String × List UInt8) → List UInt8
  | [] => []
  | (name, v) :: rest =>
    (if first then [] else [0x2C]) ++ 0x22 :: (quoted name ++ 0x3A :: (v ++ fieldBytes false rest))

/-- The bytes of an object. -/
def objectBytes (fields : List (String × List UInt8)) : List UInt8 :=
  0x7B :: (fieldBytes true fields ++ [0x7D])

theorem stops_fieldBytes (fields : List (String × List UInt8)) (tail : List UInt8) :
    Stops (fieldBytes false fields ++ 0x7D :: tail) := by
  cases fields with
  | nil => exact ⟨0x7D, tail, rfl, .inr rfl⟩
  | cons f rest => exact ⟨0x2C, _, rfl, .inl rfl⟩

theorem utf8_fieldChars (fields : List (String × Value)) :
    Text.utf8 (fieldChars fields) =
      fieldBytes true (fields.map fun f => (f.1, Text.utf8 f.2.chars)) := by
  have colon : String.utf8EncodeChar ':' = [0x3A] := by decide
  have comma : String.utf8EncodeChar ',' = [0x2C] := by decide
  induction fields with
  | nil => rfl
  | cons f rest ih =>
    obtain ⟨name, v⟩ := f
    cases rest with
    | nil => simp [fieldChars, fieldBytes, utf8_literal, colon]
    | cons g rest =>
      let more := (g :: rest).map fun f => (f.1, Text.utf8 f.2.chars)
      have next : fieldBytes false more = 0x2C :: Text.utf8 (fieldChars (g :: rest)) := by
        rw [ih]
        rfl
      show Text.utf8 (literal name ++ ':' :: v.chars ++ ',' :: fieldChars (g :: rest)) =
        0x22 :: (quoted name ++ 0x3A :: (Text.utf8 v.chars ++ fieldBytes false more))
      rw [next]
      simp [utf8_literal, colon, comma]

/-- An object is written field by field. -/
theorem textBytes_object (fields : List (String × Value)) :
    Hash.textBytes (Value.object fields).render =
      objectBytes (fields.map fun f => (f.1, Text.utf8 f.2.chars)) := by
  have opening : String.utf8EncodeChar '\x7b' = [0x7B] := by decide
  have closing : String.utf8EncodeChar '\x7d' = [0x7D] := by decide
  rw [Value.render, Text.textBytes_ofList, Value.chars, objectBytes, ← utf8_fieldChars]
  simp [opening, closing]

variable {σ : Type}

/-- What a record has collected after an object's fields: known ones are read, others skipped. -/
inductive Takes (shape : Shape σ α) : σ → List (String × List UInt8) → σ → Prop
  | nil (s : σ) : Takes shape s [] s
  | known {s t u : σ} {name : String} {v : List UInt8} {rest : List (String × List UInt8)}
    (f : Field σ) : shape.fields.find? (fun f => f.name == name) = some f → f.filled s = false →
    Reads (f.read s) v t → Takes shape t rest u → Takes shape s ((name, v) :: rest) u
  | unknown {s u : σ} {name : String} {v : List UInt8} {rest : List (String × List UInt8)} :
    shape.fields.find? (fun f => f.name == name) = none → Reads skipValue v () →
    Takes shape s rest u → Takes shape s ((name, v) :: rest) u

namespace Reader

theorem run_within {r : Reader α} {c c' : Cursor} {a : α} (step : Step) (h : r c = .ok a c') :
    within step r c = .ok a c' := by
  rw [within, h]

theorem run_colon (rest : List UInt8) (n : Nat) :
    colon ⟨0x3A :: rest, n⟩ = .ok () ⟨rest, n + 1⟩ := rfl

theorem run_hasKey (first : Bool) (rest : List UInt8) (n : Nat) :
    hasKey first ⟨(if first then [] else [0x2C]) ++ 0x22 :: rest, n⟩ =
      .ok true ⟨0x22 :: rest, n + (if first then [] else [(0x2C : UInt8)]).length⟩ := by
  cases first <;> rfl

theorem run_hasKey_end (first : Bool) (tail : List UInt8) (n : Nat) :
    hasKey first ⟨0x7D :: tail, n⟩ = .ok false ⟨0x7D :: tail, n⟩ := by
  cases first <;> rfl

end Reader

/-- The value behind a key, with its colon. -/
theorem run_value {r : Reader β} {v : List UInt8} {b : β} (reads : Reads r v b) (step : Step)
    (rest : List (String × List UInt8)) (tail : List UInt8) (n : Nat) :
    within step (do colon; r) ⟨0x3A :: (v ++ (fieldBytes false rest ++ 0x7D :: tail)), n⟩ =
      .ok b ⟨fieldBytes false rest ++ 0x7D :: tail, n + 1 + v.length⟩ := by
  apply run_within
  rw [run_bind (run_colon _ _)]
  exact reads _ (n + 1) (stops_fieldBytes rest tail)

/-- Reading an object's fields collects what `Takes` says. -/
theorem readKeys_takes {shape : Shape σ α} {s u : σ} {fields : List (String × List UInt8)}
    (t : Takes shape s fields u) (first : Bool) (tail : List UInt8) (n steps : Nat)
    (enough : fields.length < steps) :
    shape.readKeys s first steps ⟨fieldBytes first fields ++ 0x7D :: tail, n⟩ =
      .ok u ⟨0x7D :: tail, n + (fieldBytes first fields).length⟩ := by
  have key (name : String) (v : List UInt8) (rest : List (String × List UInt8)) (first : Bool) :
      fieldBytes first ((name, v) :: rest) ++ 0x7D :: tail =
        (if first then [] else [0x2C]) ++ 0x22 :: (quoted name ++ 0x3A ::
          (v ++ (fieldBytes false rest ++ 0x7D :: tail))) := by
    cases first <;> simp [fieldBytes]
  have place (name : String) (v : List UInt8) (rest : List (String × List UInt8)) (first : Bool)
      (n : Nat) : n + (if first then [] else [(0x2C : UInt8)]).length + 1 + (quoted name).length +
        1 + v.length + (fieldBytes false rest).length =
      n + (fieldBytes first ((name, v) :: rest)).length := by
    simp only [fieldBytes, List.length_append, List.length_cons]
    omega
  induction t generalizing first n steps with
  | nil s =>
    obtain ⟨steps, rfl⟩ : ∃ k, steps = k + 1 := ⟨steps - 1, by omega⟩
    rw [Shape.readKeys]
    exact run_bind (run_hasKey_end first tail n)
  | @known s t u name v rest f found new reads _ ih =>
    obtain ⟨steps, rfl⟩ : ∃ k, steps = k + 1 := ⟨steps - 1, by omega⟩
    rw [List.length_cons] at enough
    rw [key, Shape.readKeys, run_bind (run_hasKey first _ n), if_pos rfl,
      run_bind (run_advance _ _ _), run_bind (run_stringBody _ _ _), found]
    dsimp only
    rw [new, if_neg (by decide), run_bind (run_value reads _ rest tail _), ih _ _ _ (by omega),
      place]
  | @unknown s u name v rest found skips _ ih =>
    obtain ⟨steps, rfl⟩ : ∃ k, steps = k + 1 := ⟨steps - 1, by omega⟩
    rw [List.length_cons] at enough
    rw [key, Shape.readKeys, run_bind (run_hasKey first _ n), if_pos rfl,
      run_bind (run_advance _ _ _), run_bind (run_stringBody _ _ _), found]
    dsimp only
    rw [run_bind (run_value skips _ rest tail _), ih _ _ _ (by omega), place]

theorem length_le_fieldBytes (fields : List (String × List UInt8)) (first : Bool) :
    fields.length ≤ (fieldBytes first fields).length := by
  induction fields generalizing first with
  | nil => exact Nat.zero_le _
  | cons f rest ih =>
    have := ih false
    simp only [fieldBytes, List.length_append, List.length_cons]
    omega

/-- A record is read from the text of an object with its fields. -/
theorem run_shape {shape : Shape σ α} {u : σ} {fields : List (String × List UInt8)} {a : α}
    (t : Takes shape shape.start fields u) (whole : shape.whole u = .ok a) :
    shape.reader.run (objectBytes fields) = .ok a := by
  let body : Reader α := do
    let s ← shape.readKeys shape.start true (← fuel)
    shape.complete s
  have inner : body ⟨fieldBytes true fields ++ [0x7D], 1⟩ =
      .ok a ⟨[0x7D], 1 + (fieldBytes true fields).length⟩ := by
    have enough : fields.length < (fieldBytes true fields ++ [0x7D]).length + 1 := by
      have := length_le_fieldBytes fields true
      rw [List.length_append]
      omega
    show (fuel >>= _) _ = _
    rw [run_bind (run_fuel _), run_bind (readKeys_takes t true [] 1 _ enough), Shape.complete,
      whole]
    rfl
  have read : shape.reader ⟨objectBytes fields, 0⟩ =
      .ok a ⟨[], 1 + (fieldBytes true fields).length + 1⟩ := by
    rw [Shape.reader, objectBytes, run_bind (run_peekToken (by decide) _ _)]
    show (advance >>= fun _ => enclosed body endObject) _ = _
    rw [run_bind (run_advance _ _ _), enclosed]
    have attempted : attempt body ⟨fieldBytes true fields ++ [0x7D], 1⟩ =
        .ok (.ok a) ⟨[0x7D], 1 + (fieldBytes true fields).length⟩ := by
      rw [attempt, inner]
    rw [run_bind attempted]
    rfl
  rw [Reader.run, Cursor.ofBytes, run_bind read]
  rfl

end Roster.Json
