/-
Roster.Json.Error — why a JSON text does not give the value asked for.

A fault is one of three kinds. The text may break the grammar, it may end too
early, or it may be well formed and hold the wrong data. Every error carries
the way from the root to the value it was found in and the number of bytes
before it, from which line and column follow.
-/
import Roster.Digits
import Roster.Json.Value
import Roster.Text.Quoted

namespace Roster.Json

/-- Ways to break the grammar, or to end before a value is complete. -/
inductive Break where
  | endInList
  | endInObject
  | endInString
  | endInValue
  | expectedColon
  | expectedListCommaOrEnd
  | expectedObjectCommaOrEnd
  | expectedIdent
  | expectedValue
  | invalidEscape
  | invalidNumber
  | numberOutOfRange
  | invalidCodePoint
  | controlCharacter
  | keyMustBeString
  | loneSurrogate
  | trailingComma
  | trailingCharacters
  | unfinishedSurrogate
  | recursionLimit
  deriving DecidableEq, Repr

namespace Break

def message : Break → String
  | endInList => "EOF while parsing a list"
  | endInObject => "EOF while parsing an object"
  | endInString => "EOF while parsing a string"
  | endInValue => "EOF while parsing a value"
  | expectedColon => "expected `:`"
  | expectedListCommaOrEnd => "expected `,` or `]`"
  | expectedObjectCommaOrEnd => "expected `,` or `\x7d`"
  | expectedIdent => "expected ident"
  | expectedValue => "expected value"
  | invalidEscape => "invalid escape"
  | invalidNumber => "invalid number"
  | numberOutOfRange => "number out of range"
  | invalidCodePoint => "invalid unicode code point"
  | controlCharacter => "control character (\\u0000-\\u001F) found while parsing a string"
  | keyMustBeString => "key must be a string"
  | loneSurrogate => "lone leading surrogate in hex escape"
  | trailingComma => "trailing comma"
  | trailingCharacters => "trailing characters"
  | unfinishedSurrogate => "unexpected end of hex escape"
  | recursionLimit => "recursion limit exceeded"

end Break

/-- What stood where something else was expected. -/
inductive Found where
  | null
  | bool (b : Bool)
  | number (n : Number)
  | text (s : String)
  | list
  | map
  deriving DecidableEq, Repr

namespace Found

def describe : Found → String
  | null => "null"
  | bool b => "boolean `" ++ (if b then "true" else "false") ++ "`"
  | number n =>
    (match n with
      | .float _ _ => "floating point `"
      | _ => "integer `") ++ n.text ++ "`"
  | text s => "string " ++ Text.quoted s
  | list => "sequence"
  | map => "map"

end Found

/-- Well-formed text with the wrong data. -/
inductive Mismatch where
  | invalidType (found : Found) (expected : String)
  | invalidValue (found : Found) (expected : String)
  | invalidLength (found : Nat) (expected : String)
  | missingField (name : String)
  | duplicateField (name : String)
  | unknownVariant (name : String) (known : List String)
  /-- A text that a value of its own kind refuses. -/
  | refused (reason : String)
  deriving DecidableEq, Repr

namespace Mismatch

/-- A list of alternatives in prose. -/
def alternatives (names : List String) : String :=
  let ticked := names.map fun n => "`" ++ n ++ "`"
  match ticked with
  | [] => "there are no variants"
  | [a] => "expected " ++ a
  | [a, b] => "expected " ++ a ++ " or " ++ b
  | many => "expected one of " ++ ", ".intercalate many

def message : Mismatch → String
  | invalidType found expected => "invalid type: " ++ found.describe ++ ", expected " ++ expected
  | invalidValue found expected => "invalid value: " ++ found.describe ++ ", expected " ++ expected
  | invalidLength found expected =>
    "invalid length " ++ Digits.natText found ++ ", expected " ++ expected
  | missingField name => "missing field `" ++ name ++ "`"
  | duplicateField name => "duplicate field `" ++ name ++ "`"
  | unknownVariant name known => "unknown variant `" ++ name ++ "`, " ++ alternatives known
  | refused reason => reason

end Mismatch

/-- A step on the way from the root to a value. -/
inductive Step where
  | key (name : String)
  | index (n : Nat)
  | variant (name : String)
  deriving DecidableEq, Repr

/-- What is wrong. -/
inductive Cause where
  | broken (b : Break)
  | mismatch (m : Mismatch)
  deriving DecidableEq, Repr

namespace Cause

def message : Cause → String
  | broken b => b.message
  | mismatch m => m.message

/-- Whether the text is well formed as far as it was read. -/
def isMismatch : Cause → Bool
  | broken _ => false
  | mismatch _ => true

end Cause

/-- A fault, the way to it, and the number of bytes in front of it. -/
structure Error where
  cause : Cause
  path : List Step
  offset : Nat
  deriving DecidableEq, Repr

namespace Error

/-- The way in writing: names joined by points, positions in brackets. -/
def pathText (path : List Step) : String :=
  path.foldl
    (fun acc step =>
      match step with
      | .index n => acc ++ "[" ++ Digits.natText n ++ "]"
      | .key name | .variant name => if acc.isEmpty then name else acc ++ "." ++ name)
    ""

/-- The message alone. -/
def message (e : Error) : String := e.cause.message

/-- The message after the way to the value, if the value is not the root. -/
def located (e : Error) : String :=
  if e.path.isEmpty then e.message else pathText e.path ++ ": " ++ e.message

/-- Line and column of an offset in a text, both counted from its bytes. -/
def place (text : List UInt8) (offset : Nat) : Nat × Nat :=
  (text.take offset).foldl
    (fun (line, column) (b : UInt8) =>
      if b = 0x0A then (line + 1, 0) else (line, column + 1))
    (1, 0)

/-- The message with the way to the value, line and column. -/
def full (e : Error) (text : List UInt8) : String :=
  let (line, column) := place text e.offset
  e.located ++ " at line " ++ Digits.natText line ++ " column " ++ Digits.natText column

/-- The message with line and column. -/
def placed (e : Error) (text : List UInt8) : String :=
  let (line, column) := place text e.offset
  e.message ++ " at line " ++ Digits.natText line ++ " column " ++ Digits.natText column

end Error

end Roster.Json
