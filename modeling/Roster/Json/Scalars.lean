/-
Roster.Json.Scalars — how identifiers, ranks and types of workspace stand in JSON.

An identifier is a string in one of its four spellings. Ranks and types are
their names, as a string or as an object with the name as its one key and `null` behind it.
-/
import Roster.Json.Record
import Roster.Uuid
import Roster.Workspace

namespace Roster.Json.Reader

/-- Reads an identifier. -/
def uuid : Reader Uuid :=
  parsed "a formatted UUID string" fun s =>
    match Uuid.parse s with
    | .ok u => .ok u
    | .error flaw => .error ("UUID parsing failed: " ++ flaw.message)

/-- Reads a name of a finite type. -/
def named {α : Type} [Inhabited α] (known : List String) (ofName? : String → Option α) :
    Reader α := do
  let name ← choice known
  match ofName? name with
  | some a => return a
  | none => refuse (.unknownVariant name known)

def role : Reader Role := named (Role.all.map Role.name) Role.ofName?

def workspaceType : Reader WorkspaceType :=
  named (WorkspaceType.all.map WorkspaceType.name) WorkspaceType.ofName?

end Roster.Json.Reader
