/-
Roster.Json.Value — JSON values and their compact text.

Numbers keep the three forms that reading tells apart: a natural number below
2^64, a negative integer above -2^63 - 1, and a floating-point number. Objects
keep their fields in order. The text has no blanks; inside strings only quotes,
backslashes and the ASCII controls are escaped.
-/
import Roster.Decimal.Binary64

namespace Roster.Json

open Roster.Decimal (Binary64)

/-- A number as JSON text gives it. -/
inductive Number where
  | nat (n : Nat)
  /-- The integer `-n`, with `n` positive. -/
  | negative (n : Nat)
  | float (minus : Bool) (x : Binary64)
  deriving DecidableEq, Repr, Inhabited

namespace Number

def ofInt : Int → Number
  | .ofNat n => nat n
  | .negSucc n => negative (n + 1)

/-- The value of an integer form. -/
def toInt? : Number → Option Int
  | nat n => some (Int.ofNat n)
  | negative n => some (-Int.ofNat n)
  | float _ _ => none

def text : Number → String
  | nat n => Digits.natText n
  | negative n => "-" ++ Digits.natText n
  | float minus x => (if minus then "-" else "") ++ x.text

end Number

/-- A JSON value. -/
inductive Value where
  | null
  | bool (b : Bool)
  | number (n : Number)
  | text (s : String)
  | list (items : List Value)
  | object (fields : List (String × Value))
  deriving Repr, Inhabited

/-- The escaped form of a character inside a JSON string. -/
def escapeChar (c : Char) : List Char :=
  if c = '"' ∨ c = '\\' then ['\\', c]
  else if c.toNat = 0x08 then ['\\', 'b']
  else if c.toNat = 0x09 then ['\\', 't']
  else if c.toNat = 0x0A then ['\\', 'n']
  else if c.toNat = 0x0C then ['\\', 'f']
  else if c.toNat = 0x0D then ['\\', 'r']
  else if c.toNat < 0x20 then '\\' :: 'u' :: Digits.hexField 4 c.toNat
  else [c]

/-- The characters of a JSON string literal. -/
def literal (s : String) : List Char := '"' :: s.toList.flatMap escapeChar ++ ['"']

mutual

/-- The characters of a value's compact text. -/
def Value.chars : Value → List Char
  | .null => "null".toList
  | .bool b => if b then "true".toList else "false".toList
  | .number n => n.text.toList
  | .text s => literal s
  | .list items => '[' :: listChars items ++ [']']
  | .object fields => '\x7b' :: fieldChars fields ++ ['\x7d']

/-- Items with commas between them. -/
def listChars : List Value → List Char
  | [] => []
  | [v] => v.chars
  | v :: w :: rest => v.chars ++ ',' :: listChars (w :: rest)

/-- Fields with commas between them. -/
def fieldChars : List (String × Value) → List Char
  | [] => []
  | [(name, v)] => literal name ++ ':' :: v.chars
  | (name, v) :: f :: rest => literal name ++ ':' :: v.chars ++ ',' :: fieldChars (f :: rest)

end

namespace Value

/-- The compact text. -/
def render (v : Value) : String := String.ofList v.chars

/-- The value of the first field of that name, if the value is an object that has one. -/
def field? (v : Value) (name : String) : Option Value :=
  match v with
  | object fields => fields.lookup name
  | _ => none

def ofInt (n : Int) : Value := number (.ofInt n)

def ofNat (n : Nat) : Value := number (.nat n)

end Value

end Roster.Json
