/-
Roster.Token.Key — the form of a key that a header may carry.

A key is an object with common fields, all optional, and the fields of one of
four kinds of key. It is only checked: nothing is ever verified with it.
-/
import Roster.Token.Algorithm

namespace Roster.Token.Key

open Json (Reader Value Found Mismatch)

/-- The name under which messages report a value. -/
def found : Value → Found
  | .null => .null
  | .bool b => .bool b
  | .number n => .number n
  | .text s => .text s
  | .list _ => .list
  | .object _ => .map

/-- A check of a value. -/
abbrev Check := Value → Except Mismatch Unit

def isText : Check
  | .text _ => .ok ()
  | v => .error (.invalidType (found v) "a string")

/-- The check of every item of a list. -/
def isListOf (item : Check) : Check
  | .list items => items.forM item
  | v => .error (.invalidType (found v) "a sequence")

/-- One of the given names, as a text or as an object with the name as its one key. -/
def isNameOf (known : List String) : Check
  | .text s => if known.contains s then .ok () else .error (.unknownVariant s known)
  | .object [(s, v)] =>
    if !known.contains s then .error (.unknownVariant s known)
    else
      match v with
      | .null => .ok ()
      | v => .error (.invalidType (found v) "unit")
  | .object fields => .error (.invalidValue (found (.object fields)) "map with a single key")
  | v => .error (.invalidType (found v) "string or map")

/-- Algorithms that a key can be meant for. -/
def algorithmNames : List String :=
  ["HS256", "HS384", "HS512", "ES256", "ES384", "RS256", "RS384", "RS512", "PS256", "PS384",
    "PS512", "EdDSA", "RSA1_5", "RSA-OAEP", "RSA-OAEP-256"]

/-- The common fields, each of which may be absent or null. -/
def commonFields : List (String × Check) :=
  [("use", isText), ("key_ops", isListOf isText), ("alg", isNameOf algorithmNames),
    ("kid", isText), ("x5u", isText), ("x5c", isListOf isText), ("x5t", isText),
    ("x5t#S256", isText)]

/-- Checks the common fields in the order of the object. -/
def checkCommon (seen : List String) : List (String × Value) → Except Mismatch Unit
  | [] => .ok ()
  | (name, v) :: rest =>
    match commonFields.lookup name with
    | none => checkCommon seen rest
    | some check => do
      if seen.contains name then throw (.duplicateField name)
      match v with
      | .null => pure ()
      | v => check v
      checkCommon (name :: seen) rest

/-- Curves by name. -/
def curves : List String := ["P-256", "P-384", "P-521", "Ed25519"]

/-- The kinds of key: the fields that each must have. -/
def kinds : List (List (String × Check)) :=
  [[("kty", isNameOf ["EC"]), ("crv", isNameOf curves), ("x", isText), ("y", isText)],
    [("kty", isNameOf ["RSA"]), ("n", isText), ("e", isText)],
    [("kty", isNameOf ["oct"]), ("k", isText)],
    [("kty", isNameOf ["OKP"]), ("crv", isNameOf curves), ("x", isText)]]

/-- Whether an object has each field of a kind exactly once and in form. -/
def hasKind (fields : List (String × Value)) (kind : List (String × Check)) : Bool :=
  kind.all fun (name, check) =>
    match fields.filter fun f => f.1 == name with
    | [(_, v)] => (check v).toBool
    | _ => false

/-- Checks the fields of a key. -/
def check (fields : List (String × Value)) : Except Mismatch Unit := do
  checkCommon [] fields
  if kinds.any (hasKind fields) then pure ()
  else throw (.refused "data did not match any variant of untagged enum AlgorithmParameters")

/-- Reads a key inside a header. -/
def reader : Reader Unit := do
  match ← Reader.peekToken with
  | some 0x7B =>
    match ← Reader.value (Reader.depthLimit - 1) with
    | .object fields =>
      match check fields with
      | .ok () => return ()
      | .error m => Reader.refuse m
    | v => Reader.refuse (.invalidType (found v) "struct Jwk")
  | none => Reader.failNext .endInValue
  | some 0x5B =>
    Reader.advance
    Reader.enclosed (Reader.refuse (.invalidType .list "struct Jwk")) Reader.endList
  | some _ => Reader.mismatch "struct Jwk"

end Roster.Token.Key
