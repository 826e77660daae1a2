/-
Roster.Api.Route — which request means which operation.

Every path of the service serves one method. A path is matched piece by piece
between slashes; where a fixed path and one with a parameter both fit, the
fixed one is meant. Another method on a path that is there is told which
methods the path serves.
-/
import Roster.Settings.Service

namespace Roster.Api

/-- An operation of the service. -/
inductive Endpoint where
  | health
  | metrics
  /-- The description of the service for programs. -/
  | document
  /-- Leads on to the pages that document the service. -/
  | docsEntry
  /-- One of those pages, given by what follows in the path. -/
  | docsPage
  | signup
  | login
  | refresh
  | createWorkspace
  | deleteWorkspace
  | listWorkspaces
  | workspaceDetails
  | updateWorkspace
  | addMember
  | removeMember
  | changeRole
  | leave
  | transferOwnership
  | countMembers
  deriving DecidableEq, Repr

namespace Endpoint

/-- Whether an operation is open to guessing, and so has an allowance of its own. -/
def isSignIn : Endpoint → Bool
  | signup | login | refresh => true
  | _ => false

end Endpoint

/-- A method that the service knows. -/
inductive Verb where
  | get
  | post
  | put
  | delete
  deriving DecidableEq, Repr

namespace Verb

def name : Verb → String
  | get => "GET"
  | post => "POST"
  | put => "PUT"
  | delete => "DELETE"

/-- Whether a method asks for the operation; HEAD asks for what GET does. -/
def serves (v : Verb) (method : String) : Bool :=
  method == v.name || (v == get && method == "HEAD")

/-- The methods that a path serves, in writing. -/
def allow (v : Verb) : String := if v = get then "GET,HEAD" else v.name

end Verb

/-- A piece of a pattern. -/
inductive Piece where
  | fixed (text : String)
  /-- Any piece that is not empty. -/
  | parameter (name : String)
  /-- All that follows, which is not empty. -/
  | rest (name : String)
  deriving DecidableEq, Repr

namespace Piece

def text : Piece → String
  | fixed t => t
  | parameter n => ":" ++ n
  | rest n => "*" ++ n

/-- What the parameter stands for, if pieces of a path match a pattern; `""` without a parameter. -/
def match? : List Piece → List String → Option String
  | [], [] => some ""
  | fixed t :: pattern, p :: path => if t == p then match? pattern path else none
  | parameter _ :: pattern, p :: path =>
    if p.isEmpty then none else (match? pattern path).map fun _ => p
  | rest _ :: _, p :: path =>
    let r := "/".intercalate (p :: path)
    if r.isEmpty then none else some r
  | _, _ => none

end Piece

/-- A path with its method and what it means. -/
structure Route where
  verb : Verb
  pattern : List Piece
  endpoint : Endpoint
  deriving DecidableEq, Repr

namespace Route

open Piece in
/-- The pieces of a pattern, from its text. -/
def piecesOf (text : String) : List Piece :=
  (text.splitOn "/").map fun p =>
    match p.toList with
    | ':' :: name => parameter (String.ofList name)
    | '*' :: name => rest (String.ofList name)
    | _ => fixed p

def of (verb : Verb) (pattern : String) (endpoint : Endpoint) : Route :=
  ⟨verb, piecesOf pattern, endpoint⟩

/-- The pattern as text. -/
def text (r : Route) : String := "/".intercalate (r.pattern.map Piece.text)

/-- The paths that are always there, fixed ones first. -/
def common : List Route :=
  [of .get "/health" .health,
    of .get "/metrics" .metrics,
    of .get "/.well-known/openapi.json" .document,
    of .post "/v1/auth/signup" .signup,
    of .post "/v1/auth/login" .login,
    of .post "/v1/auth/refresh" .refresh,
    of .post "/v1/workspaces/create" .createWorkspace,
    of .get "/v1/workspaces/all" .listWorkspaces,
    of .delete "/v1/workspaces/delete/:id" .deleteWorkspace,
    of .put "/v1/workspaces/update/:id" .updateWorkspace,
    of .get "/v1/workspaces/:id" .workspaceDetails,
    of .post "/v1/workspace/member/:id/add" .addMember,
    of .delete "/v1/workspace/member/:id/remove" .removeMember,
    of .post "/v1/workspace/member/:id/change-role" .changeRole,
    of .post "/v1/workspace/member/:id/leave" .leave,
    of .post "/v1/workspace/member/:id/transfer-ownership" .transferOwnership,
    of .get "/v1/workspace/member/:id/count-members" .countMembers]

/-- The paths of the pages that document the service. -/
def documentation : List Route :=
  [of .get "/docs" .docsEntry, of .get "/docs/" .docsPage, of .get "/docs/*rest" .docsPage]

/-- All paths of a service. -/
def all (docs : Settings.Docs) : List Route :=
  match docs with
  | .pub => documentation ++ common
  | .disabled => common

/-- The route of a path, and what its parameter stands for. -/
def find? (routes : List Route) (path : String) : Option (Route × String) :=
  let pieces := path.splitOn "/"
  routes.findSome? fun r => (Piece.match? r.pattern pieces).map fun parameter => (r, parameter)

end Route

end Roster.Api
