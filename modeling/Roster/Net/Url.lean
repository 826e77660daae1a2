/-
Roster.Net.Url — where something is, as one text.

A scheme and a colon come first. Two slashes then begin an authority: what
stands before its last at sign is a user and perhaps a password, the rest a host
and perhaps a port. A path and a query follow, and a fragment is dropped. Tabs
and line ends count for nothing, nor do controls and spaces around the text.
-/
import Roster.Http.Target
import Roster.Net.Address

namespace Roster.Net

open Roster.Http (splitFirst)

/-- The parts of a URL, with percent escapes as they stand. -/
structure Url where
  scheme : String
  user : String
  password : String
  host : String
  port : Option Nat
  path : String
  query : String
  deriving DecidableEq, Repr

namespace Url

/-- Why a text is no URL. -/
inductive Flaw where
  | noScheme
  | emptyHost
  | badPort
  /-- Brackets around something else than an address of version 6. -/
  | badAddress
  | badCharacter
  deriving DecidableEq, Repr

def Flaw.message : Flaw → String
  | noScheme => "relative URL without a base"
  | emptyHost => "empty host"
  | badPort => "invalid port number"
  | badAddress => "invalid IPv6 address"
  | badCharacter => "invalid domain character"

/-! ## Pieces of an authority -/

def greatestPort : Nat := 65535

/-- Schemes whose URLs always have a host. -/
def hostedSchemes : List String := ["http", "https", "ws", "wss", "ftp"]

/-- Whether a character ends an authority. -/
def endsAuthority (c : Char) : Bool := c == '/' || c == '?' || c == '#'

def isSchemeChar (c : Char) : Bool := c.isAlphanum || c == '+' || c == '-' || c == '.'

/-- The scheme in small letters and what follows its colon. -/
def scheme? (cs : List Char) : Option (String × List Char) :=
  match splitFirst ':' cs with
  | (c :: scheme, some rest) =>
    if c.isAlpha && scheme.all isSchemeChar then
      some (String.ofList ((c :: scheme).map Char.toLower), rest)
    else none
  | _ => none

/-- What stands before the last at sign, if there is one, and what comes after it. -/
def splitUser (cs : List Char) : Option (List Char) × List Char :=
  let host := (cs.reverse.takeWhile (· ≠ '@')).reverse
  if host.length = cs.length then (none, cs)
  else (some (cs.take (cs.length - host.length - 1)), host)

/-- The host in front of an authority: a colon ends it, but not inside brackets. -/
def splitHost (inBrackets : Bool) : List Char → List Char × List Char
  | [] => ([], [])
  | c :: rest =>
    if c = ':' ∧ !inBrackets then ([], c :: rest)
    else
      let inBrackets := if c = '[' then true else if c = ']' then false else inBrackets
      let (host, after) := splitHost inBrackets rest
      (c :: host, after)

/-- Characters that no host holds. -/
def isForbidden (c : Char) : Bool :=
  c.toNat == 0 || "\t\n\r #/:<>?@[\\]^|".toList.contains c

/-- What is wrong with a host. -/
def hostFlaw? (host : List Char) : Option Flaw :=
  match host with
  | '[' :: inside =>
    if host.getLast? = some ']' then
      match Address.ofText? (String.ofList inside.dropLast) with
      | some (.v6 _) => none
      | _ => some .badAddress
    else some .badAddress
  | _ => if host.any isForbidden then some .badCharacter else none

/-- Reads a port, which may be missing behind its colon; a backslash ends it. -/
def portOf (cs : List Char) : Except Flaw (Option Nat) :=
  let digits := cs.takeWhile Char.isDigit
  let port := digits.foldl (fun n c => n * 10 + (Digits.decimalValue? c).getD 0) 0
  let next := (cs.drop digits.length).head?
  if port > greatestPort then .error .badPort
  else if next ≠ none ∧ next ≠ some '\\' then .error .badPort
  else .ok (if digits.isEmpty then none else some port)

/-! ## Whole texts -/

/-- An authority, without its path: user, password, host and port. -/
def authority (hosted : Bool) (cs : List Char) (ended : Bool) :
    Except Flaw (List Char × List Char × List Char × Option Nat) := do
  let (before, cs) := splitUser cs
  let (user, password) := splitFirst ':' (before.getD [])
  let password := password.getD []
  if before = some [] ∧ cs = [] ∧ ended then throw .emptyHost
  let (host, after) := splitHost false cs
  if host.isEmpty ∧ hosted then throw .emptyHost
  if let some flaw := hostFlaw? host then throw flaw
  if host.isEmpty ∧ after ≠ [] then throw .emptyHost
  let port ← portOf (after.drop 1)
  if host.isEmpty ∧ (user ≠ [] ∨ password ≠ []) then throw .emptyHost
  return (user, password, host, port)

/-- What follows the slashes in front of an authority, of which some schemes may have any number. -/
def afterSlashes? (hosted : Bool) (cs : List Char) : Option (List Char) :=
  if hosted then some (cs.dropWhile fun c => c = '/' ∨ c = '\\')
  else
    match cs with
    | '/' :: '/' :: rest => some rest
    | _ => none

/-- The text that counts. -/
def counting (s : String) : List Char :=
  let isOuter (c : Char) : Bool := c.toNat ≤ 0x20
  let front := s.toList.dropWhile isOuter
  ((front.reverse.dropWhile isOuter).reverse).filter fun c => c ≠ '\t' ∧ c ≠ '\n' ∧ c ≠ '\r'

/-- Reads a URL. -/
def parse (s : String) : Except Flaw Url := do
  let some (scheme, rest) := scheme? (counting s) | throw .noScheme
  let hosted := hostedSchemes.contains scheme
  let inside (c : Char) : Bool := !endsAuthority c && !(hosted && c == '\\')
  let (front, rest) :=
    match afterSlashes? hosted rest with
    | some rest => (some (rest.takeWhile inside), rest.dropWhile inside)
    | none => (none, rest)
  let (user, password, host, port) ←
    match front with
    | some cs => authority hosted cs !rest.isEmpty
    | none => pure ([], [], [], none)
  let (rest, _) := splitFirst '#' rest
  let (path, query) := splitFirst '?' rest
  return ⟨scheme, String.ofList user, String.ofList password, String.ofList host, port,
    String.ofList path, String.ofList (query.getD [])⟩

end Url

end Roster.Net
