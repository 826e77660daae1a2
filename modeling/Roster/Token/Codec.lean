/-
Roster.Token.Codec — tokens as text: header, claims and signature, joined by points.

The header and the claims are JSON in url-safe base64, and the signature is the
base64 text of a keyed hash over the two with the point between them. A token
is taken apart from its right end and judged in a fixed order: its form, the
header, the algorithm, the signature, the claims, the expiry, the audience.
-/
import Roster.Token.Claims
import Roster.Token.Header

namespace Roster.Token

/-- Why a token is refused. -/
inductive Flaw where
  /-- Not three parts. -/
  | form
  | encoding (flaw : Base64.Flaw)
  /-- The text of a part is no JSON of the right kind. -/
  | content (text : String)
  | algorithm
  | signature
  | noExpiry
  | expired
  | audience
  deriving DecidableEq, Repr

namespace Flaw

def message : Flaw → String
  | form => "InvalidToken"
  | encoding flaw => "Base64 error: " ++ flaw.message
  | content text => "JSON error: " ++ text
  | algorithm => "InvalidAlgorithm"
  | signature => "InvalidSignature"
  | noExpiry => "Missing required claim: exp"
  | expired => "ExpiredSignature"
  | audience => "InvalidAudience"

end Flaw

/-- The characters before and after the last point. -/
def splitLast? (cs : List Char) : Option (List Char × List Char) :=
  let after := (cs.reverse.takeWhile (· ≠ '.')).reverse
  match cs.reverse.dropWhile (· ≠ '.') with
  | _ :: before => some (before.reverse, after)
  | [] => none

/-- A token taken apart. -/
structure Parts where
  header : String
  claims : String
  signature : String
  deriving DecidableEq, Repr

namespace Parts

/-- The part that is signed. -/
def message (p : Parts) : String := p.header ++ "." ++ p.claims

def ofText? (token : String) : Option Parts := do
  let (message, signature) ← splitLast? token.toList
  let (header, claims) ← splitLast? message
  return ⟨String.ofList header, String.ofList claims, String.ofList signature⟩

end Parts

/-- The bytes of a part. -/
def bytesOf (part : String) : Except Flaw (List UInt8) :=
  (Base64.urlSafe.decode part).mapError Flaw.encoding

/-- Reads the JSON text of a part. -/
def readPart {α : Type} (r : Json.Reader α) (bytes : List UInt8) : Except Flaw α :=
  (r.run bytes).mapError fun e => Flaw.content (e.placed bytes)

/-- The algorithm that tokens are signed with. -/
def signing : Algorithm := .hs512

/-- Seconds for which an expired token is still accepted. -/
def leeway : Int := 60

/-- The signed text of claims; for an algorithm that is no keyed hash the signature is empty. -/
def encode (a : Algorithm) (secret : String) (c : Claims) : String :=
  let part (json : String) := Base64.urlSafe.encode (Hash.textBytes json)
  let message := part (Header.text a) ++ "." ++ part c.toJson.render
  message ++ "." ++ (a.signature? secret message).getD ""

/-- Reads header and claims without a look at signature, algorithm or expiry. -/
def readClaims (p : Parts) : Except Flaw (Claims × Registered) := do
  let bytes ← bytesOf p.claims
  let claims ← readPart Claims.reader bytes
  let registered ← readPart Registered.reader bytes
  return (claims, registered)

def readHeader (p : Parts) : Except Flaw Header := do
  readPart Header.reader (← bytesOf p.header)

/-- The parts of a token. -/
def parts (token : String) : Except Flaw Parts :=
  match Parts.ofText? token with
  | some p => .ok p
  | none => .error .form

/--
The claims of a token that is signed with the secret and has not expired at `now`.
Seconds are counted in unsigned words. While the clock stands within the leeway
after 1970, the difference is none: it wraps around to an instant behind every
expiry, or the arithmetic stops, and no token is accepted.
-/
def verify (secret : String) (now : Moment) (token : String) : Except Flaw Claims := do
  let p ← parts token
  let header ← readHeader p
  if header.algorithm ≠ signing then throw .algorithm
  if signing.signature? secret p.message ≠ some p.signature then throw .signature
  let (claims, registered) ← readClaims p
  match registered.exp with
  | none => throw .noExpiry
  | some exp =>
    if now.seconds < leeway ∨ (exp : Int) < now.seconds - leeway then throw .expired
    if registered.hasAudience then throw .audience
    return claims

/-- Whom a token speaks for, whether or not it is signed and current. -/
def subject (token : String) : Except Flaw Identity := do
  let p ← parts token
  let _ ← readHeader p
  let (claims, registered) ← readClaims p
  if registered.hasAudience then throw .audience
  return claims.identity

/-- The message of a token whose subject cannot be read. -/
def malformed (flaw : Flaw) : String := "Malformed token: " ++ flaw.message

end Roster.Token
