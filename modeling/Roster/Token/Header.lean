/-
Roster.Token.Header — the first part of a token.

A header names the algorithm of the signature and may carry many other things,
which are checked for their form and otherwise ignored.
-/
import Roster.Json.Record
import Roster.Token.Key

namespace Roster.Token

open Json (Reader Shape need)

/-- What a header is read for. -/
structure Header where
  algorithm : Algorithm
  deriving DecidableEq, Repr

namespace Header

/-- The header text of tokens signed with an algorithm. -/
def text (a : Algorithm) : String :=
  (Json.Value.object [("typ", .text "JWT"), ("alg", .text a.name)]).render

/-- The names of fields that have been read, and the algorithm. -/
structure Partial where
  seen : List String := []
  algorithm : Option Algorithm := none

/-- A field that is only checked for its form. -/
def checked {α : Type} (name : String) (r : Reader α) : Json.Field Partial where
  name
  filled s := s.seen.contains name
  read s := do
    let _ ← Reader.optional r
    return { s with seen := name :: s.seen }
  optional := false

def anyText : Reader String := Reader.text "a string"

def shape : Shape Partial Header where
  title := "struct Header"
  start := {}
  fields :=
    [checked "typ" anyText,
      .required "alg" Partial.algorithm (fun s x => { s with algorithm := some x })
        Algorithm.reader,
      checked "cty" anyText, checked "jku" anyText, checked "jwk" Key.reader,
      checked "kid" anyText, checked "x5u" anyText, checked "x5c" (Reader.listOf anyText),
      checked "x5t" anyText, checked "x5t#S256" anyText]
  whole s := do return { algorithm := ← need "alg" s.algorithm }

def reader : Reader Header := shape.reader

end Header

end Roster.Token
