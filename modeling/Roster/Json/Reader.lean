/-
Roster.Json.Reader — reading JSON text, one value at a time.

A reader walks a cursor over the bytes that remain and keeps its place also
when it fails, so that a caller who forgives a fault goes on from where it
arose. Numbers, strings and skipped values follow the grammar of JSON; a
skipped value is checked for form only, to any depth. Each loop runs on fuel
that the length of the remaining text bounds.
-/
import Roster.Json.Error

namespace Roster.Json

open Roster.Decimal (Binary64)

/-- The bytes that remain and the number of those before them. -/
structure Cursor where
  rest : List UInt8
  taken : Nat
  deriving DecidableEq, Repr, Inhabited

namespace Cursor

def ofBytes (bytes : List UInt8) : Cursor := ⟨bytes, 0⟩

/-- One byte on. -/
def advance (c : Cursor) : Cursor :=
  match c.rest with
  | [] => c
  | _ :: rest => ⟨rest, c.taken + 1⟩

/-- The offset just after the next byte. -/
def nextOffset (c : Cursor) : Nat := if c.rest.isEmpty then c.taken else c.taken + 1

end Cursor

/-- A reader of `α`. A failed reader still leaves its cursor. -/
abbrev Reader := EStateM Error Cursor

namespace Reader

variable {α : Type}

/-- Fails at the place that the cursor has reached. -/
def failHere (cause : Cause) : Reader α := do throw ⟨cause, [], (← get).taken⟩

/-- Fails at the byte that comes next. -/
def failNext (b : Break) : Reader α := do throw ⟨.broken b, [], (← get).nextOffset⟩

def refuse (m : Mismatch) : Reader α := failHere (.mismatch m)

/-- Runs a reader and hands over its outcome instead of failing. -/
def attempt (r : Reader α) : Reader (Except Error α) := fun c =>
  match r c with
  | .ok a c' => .ok (.ok a) c'
  | .error e c' => .ok (.error e) c'

/-- Marks the faults of a reader as lying one step further down. -/
def within (step : Step) (r : Reader α) : Reader α := fun c =>
  match r c with
  | .ok a c' => .ok a c'
  | .error e c' => .error { e with path := step :: e.path } c'

def peek : Reader (Option UInt8) := do return (← get).rest.head?

def advance : Reader Unit := modify Cursor.advance

/-- The next byte, which is consumed. -/
def next : Reader (Option UInt8) := do
  let b ← peek
  advance
  return b

/-- The blanks of JSON. -/
def isBlank (b : UInt8) : Bool := b == 0x20 || b == 0x0A || b == 0x09 || b == 0x0D

/-- Moves past blanks. -/
def skipBlanks (taken : Nat) : List UInt8 → Cursor
  | [] => ⟨[], taken⟩
  | b :: rest => if isBlank b then skipBlanks (taken + 1) rest else ⟨b :: rest, taken⟩

/-- The next byte that is not a blank; it stays. -/
def peekToken : Reader (Option UInt8) := do
  modify fun c => skipBlanks c.taken c.rest
  peek

def isDigit (b : UInt8) : Bool := 0x30 ≤ b && b ≤ 0x39

def digitValue (b : UInt8) : Nat := b.toNat - 0x30

def peekIsDigit : Reader Bool := do return (← peek).any isDigit

/-- Fuel enough for a loop that consumes a byte in each round. -/
def fuel : Reader Nat := do return (← get).rest.length + 1

/-! ## Words -/

/-- Consumes the given bytes. -/
def word : List UInt8 → Reader Unit
  | [] => pure ()
  | b :: rest => do
    match ← next with
    | none => failHere (.broken .endInValue)
    | some c => if c = b then word rest else failHere (.broken .expectedIdent)

/-- The bytes of a text. -/
def bytesOf (s : String) : List UInt8 := s.toUTF8.toList

/-! ## Numbers -/

/-- The largest natural number that stays an integer. -/
def greatestNat : Nat := 0xFFFFFFFFFFFFFFFF

/-- The largest exponent that is read digit by digit. -/
def greatestExponent : Nat := 0x7FFFFFFF

def powerOfTen (k : Nat) : Binary64 := (Binary64.ofRatio? (Nat.pow 10 k) 1).getD Binary64.zero

/-- Divides by 10^308 while the exponent lies below the table of powers. -/
def lowerScale (x : Binary64) (e : Int) : Nat → Binary64 × Int
  | 0 => (x, e)
  | rounds + 1 =>
    if e < -308 ∧ x.mantissa ≠ 0 then
      lowerScale ((x.div? (powerOfTen 308)).getD Binary64.zero) (e + 308) rounds
    else (x, e)

/--
The floating-point number `significand * 10 ^ e`, computed in two roundings:
the significand first, then its product or quotient with the power of ten.
-/
def scaleDecimal (minus : Bool) (significand : Nat) (e : Int) : Reader Number := do
  let x := (Binary64.ofNat? significand).getD Binary64.zero
  if x.mantissa = 0 then return .float minus Binary64.zero
  if 0 ≤ e then
    if e > 308 then failHere (.broken .numberOutOfRange)
    else
      match x.mul? (powerOfTen e.toNat) with
      | some y => return .float minus y
      | none => failHere (.broken .numberOutOfRange)
  else
    let (x, e) := lowerScale x e 4
    if x.mantissa = 0 ∨ e < -308 then return .float minus Binary64.zero
    else return .float minus ((x.div? (powerOfTen (-e).toNat)).getD Binary64.zero)

def skipDigits (taken : Nat) : List UInt8 → Cursor
  | [] => ⟨[], taken⟩
  | b :: rest => if isDigit b then skipDigits (taken + 1) rest else ⟨b :: rest, taken⟩

/-- Consumes digits. -/
def digits : Reader Unit := modify fun c => skipDigits c.taken c.rest

/-- Consumes digits into an exponent; `none` if it grows past the largest. -/
def exponentDigits (acc : Nat) : Nat → Reader (Option Nat)
  | 0 => return some acc
  | steps + 1 => do
    match ← peek with
    | some b =>
      if isDigit b then
        advance
        let acc := acc * 10 + digitValue b
        if acc > greatestExponent then return none else exponentDigits acc steps
      else return some acc
    | none => return some acc

/-- Reads the exponent after a significand; the cursor stands on the `e`. -/
def exponent (minus : Bool) (significand : Nat) (start : Int) : Reader Number := do
  advance
  let upward ←
    match ← peek with
    | some 0x2B => advance; pure true
    | some 0x2D => advance; pure false
    | _ => pure true
  match ← next with
  | none => failHere (.broken .endInValue)
  | some b =>
    if isDigit b then
      match ← exponentDigits (digitValue b) (← fuel) with
      | some e => scaleDecimal minus significand (if upward then start + e else start - e)
      | none =>
        if significand ≠ 0 ∧ upward then failHere (.broken .numberOutOfRange)
        else
          digits
          return .float minus Binary64.zero
    else failHere (.broken .invalidNumber)

/-- Continues a float whose digits have all been read. -/
def afterDigits (minus : Bool) (significand : Nat) (e : Int) : Reader Number := do
  match ← peek with
  | some b =>
    if b = 0x65 ∨ b = 0x45 then exponent minus significand e
    else scaleDecimal minus significand e
  | none => scaleDecimal minus significand e

/-- Consumes fraction digits while they fit; answers the significand and how many there were. -/
def fractionDigits (significand count : Nat) : Nat → Reader (Nat × Nat)
  | 0 => return (significand, count)
  | steps + 1 => do
    match ← peek with
    | some b =>
      if isDigit b ∧ significand * 10 + digitValue b ≤ greatestNat then
        advance
        fractionDigits (significand * 10 + digitValue b) (count + 1) steps
      else return (significand, count)
    | none => return (significand, count)

/-- Reads the fraction after a significand; the cursor stands on the point. -/
def fraction (minus : Bool) (significand : Nat) (start : Int) : Reader Number := do
  advance
  let (significand, count) ← fractionDigits significand 0 (← fuel)
  let e := start - count
  if ← peekIsDigit then
    digits
    afterDigits minus significand e
  else if count = 0 then
    match ← peek with
    | some _ => failNext .invalidNumber
    | none => failNext .endInValue
  else afterDigits minus significand e

/-- Continues a number after the digits of its integer part. -/
def afterInteger (minus : Bool) (significand : Nat) : Reader Number := do
  match ← peek with
  | some 0x2E => fraction minus significand 0
  | some b =>
    if b = 0x65 ∨ b = 0x45 then exponent minus significand 0 else plain
  | none => plain
where
  /-- An integer, unless it is minus zero or too low. -/
  plain : Reader Number :=
    if !minus then return .nat significand
    else if significand = 0 ∨ significand > 0x8000000000000000 then
      return .float true ((Binary64.ofNat? significand).getD Binary64.zero)
    else return .negative significand

/-- Consumes integer digits while they fit; says whether one is left over. -/
def integerDigits (significand : Nat) : Nat → Reader (Nat × Bool)
  | 0 => return (significand, false)
  | steps + 1 => do
    match ← peek with
    | some b =>
      if isDigit b then
        if significand * 10 + digitValue b ≤ greatestNat then
          advance
          integerDigits (significand * 10 + digitValue b) steps
        else return (significand, true)
      else return (significand, false)
    | none => return (significand, false)

/-- Reads an integer part that is too long for an integer. -/
def longInteger (minus : Bool) (significand : Nat) : Reader Number := do
  let before := (← get).taken
  digits
  let e : Int := (← get).taken - before
  match ← peek with
  | some 0x2E => fraction minus significand e
  | _ => afterDigits minus significand e

/-- Reads a number after its sign. -/
def number (minus : Bool) : Reader Number := do
  match ← next with
  | none => failHere (.broken .endInValue)
  | some b =>
    if b = 0x30 then
      if ← peekIsDigit then failNext .invalidNumber else afterInteger minus 0
    else if isDigit b then
      let (significand, more) ← integerDigits (digitValue b) (← fuel)
      if more then longInteger minus significand else afterInteger minus significand
    else failHere (.broken .invalidNumber)

/-! ## Strings -/

/-- The value of four hexadecimal digits; all four are consumed even if one is none. -/
def hexEscape : Reader Nat := do
  let c ← get
  match c.rest with
  | a :: b :: d :: e :: rest =>
    set (Cursor.mk rest (c.taken + 4))
    match Digits.hexFold? 0 ([a, b, d, e].map fun x => Char.ofNat x.toNat) with
    | some n => return n
    | none => failHere (.broken .invalidEscape)
  | short =>
    set (Cursor.mk [] (c.taken + short.length))
    failHere (.broken .endInString)

/-- Consumes one given byte inside a surrogate pair. -/
def pairByte (wanted : UInt8) : Reader Unit := do
  match ← next with
  | none => failHere (.broken .endInString)
  | some b => if b = wanted then return () else failHere (.broken .unfinishedSurrogate)

/-- The bytes of a character given by its code point. -/
def utf8 (n : Nat) : List UInt8 := bytesOf (String.singleton (Char.ofNat n))

/-- Reads a `\u` escape after the `u`; a character beyond 16 bits takes two of them. -/
def unicodeEscape : Reader (List UInt8) := do
  let n ← hexEscape
  if 0xDC00 ≤ n ∧ n ≤ 0xDFFF then failHere (.broken .loneSurrogate)
  else if 0xD800 ≤ n ∧ n ≤ 0xDBFF then
    pairByte 0x5C
    pairByte 0x75
    let m ← hexEscape
    if 0xDC00 ≤ m ∧ m ≤ 0xDFFF then
      return utf8 (0x10000 + (n - 0xD800) * 0x400 + (m - 0xDC00))
    else failHere (.broken .loneSurrogate)
  else return utf8 n

/-- The byte that a one-letter escape stands for. -/
def shortEscape? (b : UInt8) : Option UInt8 :=
  match b with
  | 0x22 => some 0x22
  | 0x5C => some 0x5C
  | 0x2F => some 0x2F
  | 0x62 => some 0x08
  | 0x66 => some 0x0C
  | 0x6E => some 0x0A
  | 0x72 => some 0x0D
  | 0x74 => some 0x09
  | _ => none

/-- Reads an escape after its backslash. -/
def escape : Reader (List UInt8) := do
  match ← next with
  | none => failHere (.broken .endInString)
  | some b =>
    if b = 0x75 then unicodeEscape
    else
      match shortEscape? b with
      | some x => return [x]
      | none => failHere (.broken .invalidEscape)

/-- Reads string bytes up to the closing quote onto `acc`, last first. -/
def stringBytes (acc : List UInt8) : Nat → Reader (List UInt8)
  | 0 => failHere (.broken .endInString)
  | steps + 1 => do
    match ← peek with
    | none => failHere (.broken .endInString)
    | some b =>
      advance
      if b = 0x22 then return acc
      else if b = 0x5C then
        let bytes ← escape
        stringBytes (bytes.reverse ++ acc) steps
      else if b < 0x20 then failHere (.broken .controlCharacter)
      else stringBytes (b :: acc) steps

/-- Reads a string after its opening quote. -/
def stringBody : Reader String := do
  let bytes ← stringBytes [] (← fuel)
  match String.fromUTF8? ⟨bytes.reverse.toArray⟩ with
  | some s => return s
  | none => failHere (.broken .invalidCodePoint)

/-- Skips an escape after its backslash; surrogates may stand alone. -/
def skipEscape : Reader Unit := do
  match ← next with
  | none => failHere (.broken .endInString)
  | some b =>
    if b = 0x75 then discard hexEscape
    else if (shortEscape? b).isSome then return ()
    else failHere (.broken .invalidEscape)

/-- Skips a string after its opening quote. -/
def skipString : Nat → Reader Unit
  | 0 => failHere (.broken .endInString)
  | steps + 1 => do
    match ← peek with
    | none => failHere (.broken .endInString)
    | some b =>
      if b < 0x20 then failHere (.broken .controlCharacter)
      else
        advance
        if b = 0x22 then return ()
        else if b = 0x5C then
          skipEscape
          skipString steps
        else skipString steps

/-! ## Skipped values -/

/-- Skips digits of which there must be one. -/
def skipSomeDigits (miss : Reader Unit) : Reader Unit := do
  if ← peekIsDigit then digits else miss

def skipExponent : Reader Unit := do
  advance
  match ← peek with
  | some 0x2B | some 0x2D => advance
  | _ => pure ()
  match ← next with
  | some b => if isDigit b then digits else failHere (.broken .invalidNumber)
  | none => failHere (.broken .invalidNumber)

/-- Skips a number after its sign; its size does not matter. -/
def skipNumber : Reader Unit := do
  match ← next with
  | none => failHere (.broken .invalidNumber)
  | some b =>
    if b = 0x30 then
      if ← peekIsDigit then failNext .invalidNumber
    else if isDigit b then digits
    else failHere (.broken .invalidNumber)
  if (← peek) = some 0x2E then
    advance
    skipSomeDigits (failNext .invalidNumber)
  match ← peek with
  | some b => if b = 0x65 ∨ b = 0x45 then skipExponent else return ()
  | none => return ()

/-- A bracket or brace that is still open. -/
inductive Frame where
  | list
  | object
  deriving DecidableEq, Repr

/-- Skips a key and its colon. -/
def skipKey : Reader Unit := do
  match ← peekToken with
  | some 0x22 =>
    advance
    skipString (← fuel)
    match ← peekToken with
    | some 0x3A => advance
    | some _ => failNext .expectedColon
    | none => failNext .endInObject
  | some _ => failNext .keyMustBeString
  | none => failNext .endInObject

/--
After a value (`afterValue`) or an opening bracket: closes frames while they
end, and answers those that stay open once another value is due.
-/
def closeFrames (afterValue : Bool) : List Frame → Reader (List Frame)
  | [] => return []
  | frame :: outer => do
    match ← peekToken with
    | none => failNext (if frame = .list then .endInList else .endInObject)
    | some b =>
      if b = 0x2C ∧ afterValue then
        advance
        return frame :: outer
      else if (b = 0x5D ∧ frame = .list) ∨ (b = 0x7D ∧ frame = .object) then
        advance
        closeFrames true outer
      else if afterValue then
        failNext (if frame = .list then .expectedListCommaOrEnd else .expectedObjectCommaOrEnd)
      else return frame :: outer

/-- Skips values until no frame is open. -/
def skipValues (frames : List Frame) : Nat → Reader Unit
  | 0 => failNext .endInValue
  | steps + 1 => do
    let opened ←
      match ← peekToken with
      | none => failNext .endInValue
      | some b =>
        if b = 0x6E then do
          word (bytesOf "null")
          pure none
        else if b = 0x74 then do
          word (bytesOf "true")
          pure none
        else if b = 0x66 then do
          word (bytesOf "false")
          pure none
        else if b = 0x2D then do
          advance
          skipNumber
          pure none
        else if isDigit b then do
          skipNumber
          pure none
        else if b = 0x22 then do
          advance
          skipString (← fuel)
          pure none
        else if b = 0x5B then do
          advance
          pure (some Frame.list)
        else if b = 0x7B then do
          advance
          pure (some Frame.object)
        else failNext .expectedValue
    let still ←
      match opened with
      | none => closeFrames true frames
      | some frame => closeFrames false (frame :: frames)
    match still with
    | [] => return ()
    | frame :: outer =>
      if frame = .object then skipKey
      skipValues (frame :: outer) steps

/-- Skips one value of any kind. -/
def skipValue : Reader Unit := do skipValues [] (← fuel)

/-! ## Typed scalars -/

/-- Fails on whatever value comes next, naming it and what was expected. -/
def mismatch (expected : String) : Reader α := do
  let found ←
    match ← peek with
    | some 0x6E => do
      word (bytesOf "null")
      pure Found.null
    | some 0x74 => do
      word (bytesOf "true")
      pure (Found.bool true)
    | some 0x66 => do
      word (bytesOf "false")
      pure (Found.bool false)
    | some 0x2D => do
      advance
      pure (Found.number (← number true))
    | some 0x22 => do
      advance
      pure (Found.text (← stringBody))
    | some 0x5B => pure Found.list
    | some 0x7B => pure Found.map
    | some b =>
      if isDigit b then do pure (Found.number (← number false))
      else failNext .expectedValue
    | none => failNext .expectedValue
  refuse (.invalidType found expected)

/-- Reads a string. -/
def text (expected : String) : Reader String := do
  match ← peekToken with
  | none => failNext .endInValue
  | some 0x22 =>
    advance
    stringBody
  | some _ => mismatch expected

/-- Reads a string and turns it into a value that may refuse it. -/
def parsed (expected : String) (parse : String → Except String α) : Reader α := do
  match parse (← text expected) with
  | .ok a => return a
  | .error reason => refuse (.refused reason)

/-- Reads an integer between two bounds; `expected` names their type. -/
def integer (expected : String) (low high : Int) : Reader Int := do
  let n ←
    match ← peekToken with
    | none => failNext .endInValue
    | some 0x2D => do
      advance
      number true
    | some b => if isDigit b then number false else mismatch expected
  match n.toInt? with
  | none => refuse (.invalidType (.number n) expected)
  | some i =>
    if low ≤ i ∧ i ≤ high then return i else refuse (.invalidValue (.number n) expected)

/-- Reads a signed 64-bit integer. -/
def int64 : Reader Int := integer "i64" (-0x8000000000000000) 0x7FFFFFFFFFFFFFFF

/-- Reads an unsigned 16-bit integer. -/
def nat16 : Reader Nat := do return (← integer "u16" 0 0xFFFF).toNat

/-- Reads `null` as nothing and anything else with the given reader. -/
def optional (r : Reader α) : Reader (Option α) := do
  match ← peekToken with
  | some 0x6E =>
    word (bytesOf "null")
    return none
  | _ => return some (← r)

/-- Reads `null`. -/
def unit : Reader Unit := do
  match ← peekToken with
  | none => failNext .endInValue
  | some 0x6E => word (bytesOf "null")
  | some _ => mismatch "unit"

/-- Consumes the colon after a key. -/
def colon : Reader Unit := do
  match ← peekToken with
  | some 0x3A => advance
  | some _ => failNext .expectedColon
  | none => failNext .endInObject

/-- Reads one of the given names. -/
def variantName (known : List String) : Reader String := do
  let name ← text "variant identifier"
  if known.contains name then return name else refuse (.unknownVariant name known)

/--
Reads a choice among names: the name as a string, or an object whose one key is
the name and whose value is `null`.
-/
def choice (known : List String) : Reader String := do
  match ← peekToken with
  | some 0x22 => variantName known
  | some 0x7B =>
    advance
    let name ← variantName known
    colon
    within (.variant name) unit
    match ← peekToken with
    | some 0x7D =>
      advance
      return name
    | some _ => failHere (.broken .expectedValue)
    | none => failHere (.broken .endInObject)
  | some _ => failNext .expectedValue
  | none => failNext .endInValue

/-! ## Lists and objects -/

/-- Whether a list has another item; the cursor is left on it. -/
def hasItem (first : Bool) : Reader Bool := do
  match ← peekToken with
  | none => failNext .endInList
  | some b =>
    if b = 0x5D then return false
    else if first then return true
    else if b = 0x2C then
      advance
      match ← peekToken with
      | some 0x5D => failNext .trailingComma
      | some _ => return true
      | none => failNext .endInValue
    else failNext .expectedListCommaOrEnd

/-- Whether an object has another key; the cursor is left on its quote. -/
def hasKey (first : Bool) : Reader Bool := do
  match ← peekToken with
  | none => failNext .endInObject
  | some b =>
    if b = 0x7D then return false
    else if first then
      if b = 0x22 then return true else failNext .keyMustBeString
    else if b = 0x2C then
      advance
      match ← peekToken with
      | some 0x22 => return true
      | some 0x7D => failNext .trailingComma
      | some _ => failNext .keyMustBeString
      | none => failNext .endInValue
    else failNext .expectedObjectCommaOrEnd

/-- Consumes the end of a list. -/
def endList : Reader Unit := do
  match ← peekToken with
  | some 0x5D => advance
  | some 0x2C =>
    advance
    match ← peekToken with
    | some 0x5D => failNext .trailingComma
    | _ => failNext .trailingCharacters
  | some _ => failNext .trailingCharacters
  | none => failNext .endInList

/-- Consumes the end of an object. -/
def endObject : Reader Unit := do
  match ← peekToken with
  | some 0x7D => advance
  | some 0x2C => failNext .trailingComma
  | some _ => failNext .trailingCharacters
  | none => failNext .endInObject

/-- Runs `inner` and then `close`, also if `inner` failed; its fault goes first. -/
def enclosed (inner : Reader α) (close : Reader Unit) : Reader α := do
  let result ← attempt inner
  let closed ← attempt close
  match result, closed with
  | .ok a, .ok _ => return a
  | .error e, _ => throw e
  | _, .error e => throw e

/-- Items of a list, read with one reader. -/
def itemsOf (item : Reader α) (n : Nat) (acc : List α) : Nat → Reader (List α)
  | 0 => return acc.reverse
  | steps + 1 => do
    if ← hasItem (n = 0) then
      let a ← within (.index n) item
      itemsOf item (n + 1) (a :: acc) steps
    else return acc.reverse

/-- Reads a list whose items all have one kind. -/
def listOf (item : Reader α) : Reader (List α) := do
  match ← peekToken with
  | none => failNext .endInValue
  | some 0x5B =>
    advance
    enclosed (do itemsOf item 0 [] (← fuel)) endList
  | some _ => mismatch "a sequence"

/-! ## Values of any kind -/

/-- The depth to which lists and objects may be nested. -/
def depthLimit : Nat := 127

mutual

/-- Reads a value of any kind that is nested no deeper than `depth`. -/
def anyValue (depth : Nat) : Nat → Reader Value
  | 0 => failNext .endInValue
  | steps + 1 => do
    match ← peekToken with
    | none => failNext .endInValue
    | some b =>
      if b = 0x6E then do
        word (bytesOf "null")
        return .null
      else if b = 0x74 then do
        word (bytesOf "true")
        return .bool true
      else if b = 0x66 then do
        word (bytesOf "false")
        return .bool false
      else if b = 0x2D then do
        advance
        return .number (← number true)
      else if isDigit b then do return .number (← number false)
      else if b = 0x22 then do
        advance
        return .text (← stringBody)
      else if b = 0x5B then
        match depth with
        | 0 => failNext .recursionLimit
        | depth + 1 => do
          advance
          enclosed (do return .list (← anyItems depth true steps)) endList
      else if b = 0x7B then
        match depth with
        | 0 => failNext .recursionLimit
        | depth + 1 => do
          advance
          enclosed (do return .object (← anyFields depth true steps)) endObject
      else failNext .expectedValue

/-- Reads the items of a list. -/
def anyItems (depth : Nat) (first : Bool) : Nat → Reader (List Value)
  | 0 => return []
  | steps + 1 => do
    if ← hasItem first then
      let v ← anyValue depth steps
      let rest ← anyItems depth false steps
      return v :: rest
    else return []

/-- Reads the fields of an object. -/
def anyFields (depth : Nat) (first : Bool) : Nat → Reader (List (String × Value))
  | 0 => return []
  | steps + 1 => do
    if ← hasKey first then
      advance
      let name ← stringBody
      colon
      let v ← anyValue depth steps
      let rest ← anyFields depth false steps
      return (name, v) :: rest
    else return []

end

/-- Reads a value of any kind. -/
def value (depth : Nat) : Reader Value := do anyValue depth (2 * (← fuel))

/-! ## Whole texts -/

/-- Checks that nothing but blanks remains. -/
def finish : Reader Unit := do
  match ← peekToken with
  | some _ => failNext .trailingCharacters
  | none => return ()

/-- Reads a text that holds one value and nothing else. -/
def run (r : Reader α) (bytes : List UInt8) : Except Error α :=
  match (do let a ← r; finish; return a : Reader α) (Cursor.ofBytes bytes) with
  | .ok a _ => .ok a
  | .error e _ => .error e

/-- Reads the value that a text starts with; what follows it is not looked at. -/
def leading (r : Reader α) (bytes : List UInt8) : Except Error α :=
  match r (Cursor.ofBytes bytes) with
  | .ok a _ => .ok a
  | .error e _ => .error e

/-- Reads a text given as a string. -/
def runText (r : Reader α) (s : String) : Except Error α := run r (bytesOf s)

end Reader

end Roster.Json
