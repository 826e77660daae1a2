/-
Roster.Token.Claims — what a token says about its bearer.

The claims are written as a JSON object in a fixed order and read from any JSON
object that holds them. They are then read once more for the registered claims
alone: there, a claim that occurs twice is an error, an expiry must be a
natural number, and an audience of any kind is one that nobody here answers to.
-/
import Roster.Json.Scalars
import Roster.User

namespace Roster.Token

open Json (Reader Value Shape need)

/-- Which half of a pair a token is. -/
inductive Use where
  | access
  | refresh
  deriving DecidableEq, Repr, Inhabited

namespace Use

def name : Use → String
  | access => "access"
  | refresh => "refresh"

def all : List Use := [access, refresh]

def ofName? (text : String) : Option Use := all.find? fun u => u.name == text

@[simp]
theorem ofName?_name (u : Use) : ofName? u.name = some u := by cases u <;> decide

end Use

/-- The claims of a token. -/
structure Claims where
  /-- The user whom the token speaks for. -/
  sub : Uuid
  email : String
  use : Use
  /-- Expiry, in seconds since 1970. -/
  exp : Int
  /-- Time of issue, in seconds since 1970. -/
  iat : Int
  /-- Differs between any two tokens. -/
  jti : Uuid
  deriving DecidableEq

namespace Claims

def identity (c : Claims) : Identity := ⟨c.sub, c.email⟩

/-- The JSON object of the claims. -/
def toJson (c : Claims) : Value :=
  .object
    [("sub", .text c.sub.text), ("email", .text c.email), ("token_use", .text c.use.name),
      ("exp", .ofInt c.exp), ("iat", .ofInt c.iat), ("jti", .text c.jti.text)]

/-- Claims that have been read so far. -/
structure Partial where
  sub : Option Uuid := none
  email : Option String := none
  use : Option Use := none
  exp : Option Int := none
  iat : Option Int := none
  jti : Option Uuid := none

def useReader : Reader Use := Reader.named (Use.all.map Use.name) Use.ofName?

/-- The record of claims in JSON. -/
def shape : Shape Partial Claims where
  title := "struct TokenClaims"
  start := {}
  fields :=
    [.required "sub" Partial.sub (fun s x => { s with sub := some x }) Reader.uuid,
      .required "email" Partial.email (fun s x => { s with email := some x })
        (Reader.text "a string"),
      .required "token_use" Partial.use (fun s x => { s with use := some x }) useReader,
      .required "exp" Partial.exp (fun s x => { s with exp := some x }) Reader.int64,
      .required "iat" Partial.iat (fun s x => { s with iat := some x }) Reader.int64,
      .required "jti" Partial.jti (fun s x => { s with jti := some x }) Reader.uuid]
  whole s := do
    return {
      sub := ← need "sub" s.sub
      email := ← need "email" s.email
      use := ← need "token_use" s.use
      exp := ← need "exp" s.exp
      iat := ← need "iat" s.iat
      jti := ← need "jti" s.jti }

def reader : Reader Claims := shape.reader

end Claims

/-! ## Registered claims -/

/-- The registered claims as a check of a token needs them. -/
structure Registered where
  /-- The expiry, if there is one that can be understood. -/
  exp : Option Nat
  /-- Whether an audience is named. -/
  hasAudience : Bool
  deriving DecidableEq

namespace Registered

/-- Registered claims that have been read so far; a claim that makes no sense counts as read. -/
structure Partial where
  exp : Option (Option Nat) := none
  nbf : Option Unit := none
  sub : Option Unit := none
  iss : Option Unit := none
  aud : Option Bool := none

/--
Reads an instant. A value of another kind is passed over if it is a scalar;
a list or object is given up after its bracket, unless it is empty.
-/
def instant : Reader (Option Nat) := do
  match ← Reader.attempt instantOrFail with
  | .ok n => return some n
  | .error _ => return none
where
  instantOrFail : Reader Nat := do
    match ← Reader.peekToken with
    | none => Reader.failNext .endInValue
    | some 0x2D => do
      Reader.advance
      natural (← Reader.number true)
    | some 0x5B => do
      Reader.advance
      Reader.enclosed (Reader.refuse (.invalidType .list "an instant")) Reader.endList
    | some 0x7B => do
      Reader.advance
      Reader.enclosed (Reader.refuse (.invalidType .map "an instant")) Reader.endObject
    | some b =>
      if Reader.isDigit b then do natural (← Reader.number false)
      else Reader.mismatch "an instant"
  natural : Json.Number → Reader Nat
    | .nat n => return n
    | n => Reader.refuse (.invalidType (.number n) "an instant")

/-- Reads any value to its end and forgives what is wrong with it. -/
def anything : Reader (Option Value) := do
  match ← Reader.attempt (Reader.optional (Reader.value (Reader.depthLimit - 1))) with
  | .ok v => return v
  | .error _ => return none

/-- Whether a value names an audience: a text or a list of texts. -/
def isAudience : Value → Bool
  | .text _ => true
  | .list items => items.all fun v => match v with
    | .text _ => true
    | _ => false
  | _ => false

def shape : Shape Partial Registered where
  title := "struct ClaimsForValidation"
  start := {}
  fields :=
    [.defaulted "exp" Partial.exp (fun s x => { s with exp := some x }) instant,
      .defaulted "nbf" Partial.nbf (fun s _ => { s with nbf := some () }) (discard instant),
      .defaulted "sub" Partial.sub (fun s _ => { s with sub := some () }) (discard anything),
      .defaulted "iss" Partial.iss (fun s _ => { s with iss := some () }) (discard anything),
      .defaulted "aud" Partial.aud (fun s x => { s with aud := some x })
        (do return (← anything).any isAudience)]
  whole s := .ok { exp := s.exp.getD none, hasAudience := s.aud.getD false }

def reader : Reader Registered := shape.reader

end Registered

end Roster.Token
