/-
Roster.Http.Target — what a request asks for.

A target is a path and perhaps a query; a fragment is dropped. In both, a
percent sign and two hexadecimal digits stand for a byte, and any other percent
sign for itself. A query is pairs joined by ampersands, in which a plus sign
stands for a space.
-/
import Roster.Digits
import Roster.Text.Utf8

namespace Roster.Http

/-- The parts of a text before and after the first character of a kind. -/
def splitFirst (c : Char) (cs : List Char) : List Char × Option (List Char) :=
  (cs.takeWhile (· ≠ c), (cs.dropWhile (· ≠ c)).tail?)

namespace Target

/-- The target without scheme and authority. -/
def relative (cs : List Char) : List Char :=
  if cs.head? = some '/' then cs
  else
    match splitFirst ':' cs with
    | (_, some ('/' :: '/' :: rest)) =>
      let path := rest.dropWhile fun c => c ≠ '/' ∧ c ≠ '?'
      if path.head? = some '/' then path else '/' :: path
    | _ => cs

/-- Path and query of a target; a query that is missing is empty. -/
def parts (target : String) : String × String :=
  let (cs, _) := splitFirst '#' (relative target.toList)
  let (path, query) := splitFirst '?' cs
  (String.ofList path, String.ofList (query.getD []))

end Target

/-- The value of two hexadecimal digits. -/
def hexPair? (a b : UInt8) : Option UInt8 :=
  (Digits.hexFold? 0 [Char.ofNat a.toNat, Char.ofNat b.toNat]).map UInt8.ofNat

/-- Replaces percent escapes by their bytes. -/
def percentDecode : List UInt8 → List UInt8
  | 0x25 :: a :: b :: rest =>
    match hexPair? a b with
    | some x => x :: percentDecode rest
    | none => 0x25 :: percentDecode (a :: b :: rest)
  | x :: rest => x :: percentDecode rest
  | [] => []

/-- The bytes of a text. -/
def bytesOf (s : String) : List UInt8 := s.toUTF8.toList

/-- A piece of a path as text, unless its bytes are no text. -/
def pathText? (piece : String) : Option String := Text.Utf8.strict? (percentDecode (bytesOf piece))

/-- A piece of a query as text. -/
def queryText (piece : List Char) : String :=
  let plain := piece.map fun c => if c = '+' then ' ' else c
  Text.Utf8.lossy (percentDecode (bytesOf (String.ofList plain)))

/--
The pairs of a query; empty pieces are left out, and a piece without a value has
an empty one.
-/
def queryPairs (query : String) : List (String × String) :=
  (query.splitOn "&").filterMap fun piece =>
    if piece.isEmpty then none
    else
      let (name, value) := splitFirst '=' piece.toList
      some (queryText name, queryText (value.getD []))

end Roster.Http
