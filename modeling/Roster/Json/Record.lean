/-
Roster.Json.Record — reading objects with known fields.

A shape lists the fields of a record in order. Its value is read from an object,
where fields may stand in any order, unknown ones are skipped and a known one
must not occur twice, or from a list that holds the fields in order.
-/
import Roster.Json.Reader

namespace Roster.Json

/-- A field of a record that is collected in a `σ`. -/
structure Field (σ : Type) where
  name : String
  /-- Whether the field has been read already. -/
  filled : σ → Bool
  /-- Reads the field's value and keeps it. -/
  read : σ → Reader σ
  /-- Whether a list may end before the field. -/
  optional : Bool

namespace Field

variable {σ α : Type}

/-- A field kept by `set` once `r` has read it; `get` shows whether it is there already. -/
def required (name : String) (get : σ → Option α) (set : σ → α → σ) (r : Reader α) : Field σ where
  name
  filled s := (get s).isSome
  read s := do return set s (← r)
  optional := false

/-- A field at whose place a list may have ended. -/
def defaulted (name : String) (get : σ → Option α) (set : σ → α → σ) (r : Reader α) :
    Field σ :=
  { required name get set r with optional := true }

end Field

/-- A record: a partial value to start from, its fields, and what makes it whole. -/
structure Shape (σ α : Type) where
  /-- The record's name in messages. -/
  title : String
  start : σ
  fields : List (Field σ)
  /-- The whole value, or the name of the first field that is missing. -/
  whole : σ → Except String α

namespace Shape

variable {σ α : Type}

/-- The record's name with its number of fields. -/
def sized (shape : Shape σ α) : String :=
  let n := shape.fields.length
  shape.title ++ " with " ++ Digits.natText n ++ (if n = 1 then " element" else " elements")

/-- Reads the fields of an object into `s`. -/
def readKeys (shape : Shape σ α) (s : σ) (first : Bool) : Nat → Reader σ
  | 0 => return s
  | steps + 1 => do
    if ← Reader.hasKey first then
      Reader.advance
      let name ← Reader.stringBody
      match shape.fields.find? fun f => f.name == name with
      | some f =>
        if f.filled s then Reader.refuse (.duplicateField name)
        else
          let s ← Reader.within (.key name) do
            Reader.colon
            f.read s
          shape.readKeys s false steps
      | none =>
        Reader.within (.key name) do
          Reader.colon
          Reader.skipValue
        shape.readKeys s false steps
    else return s

/-- Reads fields in order from a list, the first of them at position `n`. -/
def readItems (shape : Shape σ α) (s : σ) (n : Nat) (ended : Bool) : List (Field σ) → Reader σ
  | [] => return s
  | f :: rest => do
    if !ended && (← Reader.hasItem (n = 0)) then
      let s ← Reader.within (.index n) (f.read s)
      shape.readItems s (n + 1) false rest
    else if f.optional then shape.readItems s (n + 1) true rest
    else Reader.refuse (.invalidLength n shape.sized)

/-- The whole value of a finished record. -/
def complete (shape : Shape σ α) (s : σ) : Reader α :=
  match shape.whole s with
  | .ok a => return a
  | .error name => Reader.refuse (.missingField name)

/-- Reads the record. -/
def reader (shape : Shape σ α) : Reader α := do
  match ← Reader.peekToken with
  | none => Reader.failNext .endInValue
  | some 0x5B =>
    Reader.advance
    Reader.enclosed
      (do
        let s ← shape.readItems shape.start 0 false shape.fields
        shape.complete s)
      Reader.endList
  | some 0x7B =>
    Reader.advance
    Reader.enclosed
      (do
        let s ← shape.readKeys shape.start true (← Reader.fuel)
        shape.complete s)
      Reader.endObject
  | some _ => Reader.mismatch shape.title

end Shape

/-- A field's value, or the complaint that it is missing. -/
def need {α : Type} (name : String) : Option α → Except String α
  | some a => .ok a
  | none => .error name

end Roster.Json
