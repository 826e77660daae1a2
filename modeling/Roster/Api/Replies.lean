/-
Roster.Api.Replies — what clients are answered.

Each reply is a JSON object with its fields in a fixed order; the small ones can
also be read back.
-/
import Roster.Api.Forms
import Roster.Token.Issuer

namespace Roster.Api

open Json (Reader Shape Field need Value)

/-- A reply that only says something. -/
structure Message where
  text : String
  deriving DecidableEq, Repr

namespace Message

def reader : Reader Message := (textShape "struct MessageResponse" "message" Message.mk).reader

def toJson (m : Message) : Value := .object [("message", .text m.text)]

end Message

/-- A reply that says what went wrong. -/
structure Problem where
  text : String
  deriving DecidableEq, Repr

namespace Problem

def reader : Reader Problem := (textShape "struct ErrorResponse" "error" Problem.mk).reader

def toJson (p : Problem) : Value := .object [("error", .text p.text)]

end Problem

/-- A reply that names the workspace that was created. -/
structure Created where
  text : String
  workspace : Uuid
  deriving DecidableEq

namespace Created

def reader : Reader Created :=
  (pairShape "struct CreateWorkspaceResponse" "message" "workspace_id" anyText Reader.uuid
    Created.mk).reader

def toJson (c : Created) : Value :=
  .object [("message", .text c.text), ("workspace_id", .text c.workspace.text)]

end Created

end Roster.Api

namespace Roster

open Json (Reader Shape Field need Value)

namespace Token.Pair

/-- Fields of a pair that have been read so far. -/
structure Partial where
  access : Option String := none
  refresh : Option String := none
  kind : Option String := none
  expiresIn : Option Int := none

def shape : Shape Partial Pair where
  title := "struct TokenPair"
  start := {}
  fields :=
    [.required "access_token" Partial.access (fun s x => { s with access := some x }) Api.anyText,
      .required "refresh_token" Partial.refresh (fun s x => { s with refresh := some x })
        Api.anyText,
      .required "token_type" Partial.kind (fun s x => { s with kind := some x }) Api.anyText,
      .required "expires_in" Partial.expiresIn (fun s x => { s with expiresIn := some x })
        Reader.int64]
  whole s := do
    return {
      access := ← need "access_token" s.access
      refresh := ← need "refresh_token" s.refresh
      kind := ← need "token_type" s.kind
      expiresIn := ← need "expires_in" s.expiresIn }

def toJson (p : Pair) : Value :=
  .object
    [("access_token", .text p.access), ("refresh_token", .text p.refresh),
      ("token_type", .text p.kind), ("expires_in", .ofInt p.expiresIn)]

end Token.Pair

namespace OwnerInfo

def toJson (o : OwnerInfo) : Value :=
  .object
    [("user_id", .text o.user.text), ("display_name", .text o.name), ("email", .text o.email)]

end OwnerInfo

namespace WorkspaceDetails

def toJson (d : WorkspaceDetails) : Value :=
  .object
    [("workspace_id", .text d.workspace.text), ("workspace_name", .text d.name),
      ("workspace_type", .text d.type.name), ("owner", d.owner.toJson),
      ("member_count", .ofNat d.memberCount), ("caller_role", .text d.callerRole.name)]

end WorkspaceDetails

namespace Identity

def toJson (i : Identity) : Value :=
  .object [("user_id", .text i.user.text), ("email", .text i.email)]

end Identity

end Roster
