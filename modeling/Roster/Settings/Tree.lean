/-
Roster.Settings.Tree — settings from several sources, put together.

A setting is a scalar, a list or a table of settings, and knows the source it
is from unless it was made on the way to another. Names with points and
brackets say where in the tables a setting goes. A later source wins, but
tables are merged field by field.
-/
import Roster.Decimal.Binary64

namespace Roster.Settings

open Roster.Decimal (Binary64)

/-- A setting that is not made of others. -/
inductive Scalar where
  | nothing
  | bool (b : Bool)
  | whole (n : Int)
  | real (minus : Bool) (x : Binary64)
  | text (s : String)
  deriving DecidableEq, Repr

inductive Setting where
  | scalar (value : Scalar) (origin : String)
  /-- A list; what is in it does not matter to any setting of the service. -/
  | list (origin : Option String)
  | table (fields : List (String × Setting))
  deriving Repr, Inhabited

/-- A step on the way from a table to a setting. -/
inductive PathStep where
  | child (name : String)
  | position (n : Int)
  deriving DecidableEq, Repr

namespace Setting

/-- Puts a field in place of that of the same name, or at the end. -/
def putField (name : String) (value : Setting) :
    List (String × Setting) → List (String × Setting)
  | [] => [(name, value)]
  | (k, v) :: rest =>
    if k == name then (k, value) :: rest else (k, v) :: putField name value rest

/-- The fields of a table; there are none in anything else. -/
def fields : Setting → List (String × Setting)
  | table fs => fs
  | _ => []

mutual

/-- A setting on top of another at the same place. -/
def atop (old : Option Setting) : Setting → Setting
  | table fs => fieldsAtop (old.getD (table [])) fs
  | scalar value origin => scalar value origin
  | list origin => list origin

/-- Fields on top of a setting, which becomes a table if there are any. -/
def fieldsAtop (old : Setting) : List (String × Setting) → Setting
  | [] => old
  | (name, value) :: rest =>
    fieldsAtop (table (putField name (atop (old.fields.lookup name) value) old.fields)) rest

end

/-- Puts a setting where a path leads. -/
def place (old : Option Setting) (value : Setting) : List PathStep → Setting
  | [] => atop old value
  | .child name :: rest =>
    let fs := (old.map fields).getD []
    table (putField name (place (fs.lookup name) value rest) fs)
  | .position _ :: _ =>
    match old with
    | some (list origin) => list origin
    | _ => list none

end Setting

namespace Path

/-- Characters of a name in a path. -/
def isNameChar (c : Char) : Bool := c.isAlphanum || c == ' ' || c == '_' || c == '-'

/-- A name and what follows it. -/
def name (cs : List Char) : Option (String × List Char) :=
  let word := cs.takeWhile isNameChar
  if word.isEmpty then none else some (String.ofList word, cs.dropWhile isNameChar)

/-- A position in brackets, after the opening one. -/
def position (cs : List Char) : Option (Int × List Char) :=
  let (minus, cs) :=
    match cs with
    | '-' :: rest => (true, rest)
    | _ => (false, cs)
  let digits := cs.takeWhile Char.isDigit
  match Digits.decimalFold? 0 digits, cs.dropWhile Char.isDigit with
  | some n, ']' :: rest => if digits.isEmpty then none else some (if minus then -n else n, rest)
  | _, _ => none

/-- The steps that follow a name. -/
def steps (cs : List Char) : Nat → Option (List PathStep)
  | 0 => none
  | fuel + 1 =>
    match cs with
    | [] => some []
    | '.' :: rest => do
      let (n, rest) ← name rest
      return .child n :: (← steps rest fuel)
    | '[' :: rest => do
      let (n, rest) ← position rest
      return .position n :: (← steps rest fuel)
    | _ => none

/-- The path that a name stands for; one that breaks the rules names a field as it stands. -/
def ofName (s : String) : List PathStep :=
  let path : Option (List PathStep) := do
    let (n, rest) ← name s.toList
    return .child n :: (← steps rest (rest.length + 1))
  path.getD [.child s]

end Path

namespace Setting

/-- Puts the settings of a source, given by name, on top of a table. -/
def overlay (base : Setting) (source : List (String × Setting)) : Setting :=
  source.foldl (fun acc (name, value) => place (some acc) value (Path.ofName name)) base

end Setting

end Roster.Settings
