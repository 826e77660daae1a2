/-
Roster.Http.MediaType — types of content, such as `application/json`.

A type and a subtype, each of token characters, and parameters after semicolons.
The part of the subtype behind its last plus sign is its suffix.
-/
namespace Roster.Http

/-- A type of content, in small letters. -/
structure MediaType where
  type : String
  /-- The subtype without its suffix. -/
  subtype : String
  suffix : Option String
  deriving DecidableEq, Repr

namespace MediaType

/-- The characters of tokens. -/
def isToken (c : Char) : Bool := c.isAlphanum || "!#$%&'*+-.^_`|~".toList.contains c

def isQuotable (c : Char) : Bool := 0x20 ≤ c.toNat && c.toNat != 0x7F

/-- Whether the text after a semicolon is a list of parameters. -/
def areParameters : Nat → List Char → Bool
  | 0, _ => false
  | fuel + 1, cs =>
    match cs with
    | [] => true
    | ' ' :: rest => areParameters fuel rest
    | _ =>
      match (cs.takeWhile isToken).isEmpty, cs.dropWhile isToken with
      | false, '=' :: '"' :: rest =>
        let inside := rest.takeWhile fun c => isQuotable c && c != '"'
        match inside.isEmpty, rest.drop inside.length with
        | false, '"' :: after =>
          match after.dropWhile (· = ' ') with
          | [] => true
          | ';' :: more => areParameters fuel more
          | _ => false
        | _, _ => false
      | false, '=' :: rest =>
        match (rest.takeWhile isToken).isEmpty, rest.dropWhile isToken with
        | _, [] => true
        | false, ';' :: more => areParameters fuel more
        | _, _ => false
      | _, _ => false

/-- The parts of a subtype around its last plus sign, unless it begins there. -/
def splitSuffix (cs : List Char) : List Char × Option (List Char) :=
  let suffix := (cs.reverse.takeWhile (· ≠ '+')).reverse
  let front := cs.take (cs.length - suffix.length - 1)
  if suffix.length = cs.length then (cs, none)
  else if front.isEmpty then (cs, none)
  else (front, some suffix)

def ofText? (s : String) : Option MediaType :=
  let type := s.toList.takeWhile isToken
  match s.toList.dropWhile isToken with
  | '/' :: rest =>
    let subtype := rest.takeWhile isToken
    let well :=
      match rest.dropWhile isToken with
      | [] => true
      | ';' :: more => !subtype.isEmpty && areParameters (more.length + 1) more
      | _ => false
    if type.isEmpty || !well then none
    else
      let lower (cs : List Char) := String.ofList (cs.map Char.toLower)
      let (front, suffix) := splitSuffix subtype
      some ⟨lower type, lower front, suffix.map lower⟩
  | _ => none

/-- Whether content of the type is JSON. -/
def isJson (m : MediaType) : Bool :=
  m.type == "application" && (m.subtype == "json" || m.suffix == some "json")

end MediaType

end Roster.Http
