/-
Roster.Token.Algorithm — the signature algorithms that a header can name.

All are known by name; only the keyed hashes can be computed here, and only
HS512 is ever accepted.
-/
import Roster.Base64
import Roster.Hash.Hmac
import Roster.Json.Scalars

namespace Roster.Token

/-- A signature algorithm. -/
inductive Algorithm where
  | hs256
  | hs384
  | hs512
  | es256
  | es384
  | rs256
  | rs384
  | rs512
  | ps256
  | ps384
  | ps512
  | edDSA
  deriving DecidableEq, Repr, Inhabited

namespace Algorithm

def name : Algorithm → String
  | hs256 => "HS256"
  | hs384 => "HS384"
  | hs512 => "HS512"
  | es256 => "ES256"
  | es384 => "ES384"
  | rs256 => "RS256"
  | rs384 => "RS384"
  | rs512 => "RS512"
  | ps256 => "PS256"
  | ps384 => "PS384"
  | ps512 => "PS512"
  | edDSA => "EdDSA"

/-- The algorithms in the order in which messages list them. -/
def all : List Algorithm :=
  [hs256, hs384, hs512, es256, es384, rs256, rs384, rs512, ps256, ps384, ps512, edDSA]

def ofName? (text : String) : Option Algorithm := all.find? fun a => a.name == text

@[simp]
theorem ofName?_name (a : Algorithm) : ofName? a.name = some a := by cases a <;> decide

def reader : Json.Reader Algorithm := Json.Reader.named (all.map name) ofName?

/-- The keyed hash of an algorithm that is one. -/
def keyedHash? : Algorithm → Option (List UInt8 → List UInt8 → List UInt8)
  | hs256 => some Hash.hmacSha256
  | hs384 => some Hash.hmacSha384
  | hs512 => some Hash.hmacSha512
  | _ => none

/-- The text of the signature over a message under a secret, for the keyed hashes. -/
def signature? (a : Algorithm) (secret message : String) : Option String :=
  a.keyedHash?.map fun hash =>
    Base64.urlSafe.encode (hash (Hash.textBytes secret) (Hash.textBytes message))

end Algorithm

end Roster.Token
