/-
Roster.Api.Document — the description of the service for programs.

An OpenAPI document: each operation with its parameters, its body and its
answers, the schemas of bodies and answers, and how callers prove who they are.
-/
import Roster.Json.Value
import Roster.Role
import Roster.Workspace

namespace Roster.Api.Document

open Json (Value)

/-! ## Schemas -/

def ref (name : String) : Value := .object [("$ref", .text ("#/components/schemas/" ++ name))]

/-- A text field, with an example if there is one. -/
def textField (sample : Option String) : Value :=
  .object (("type", .text "string") :: (sample.map fun s => ("example", .text s)).toList)

def uuidField : Value := .object [("type", .text "string"), ("format", .text "uuid")]

def int64Type : List (String × Value) := [("type", .text "integer"), ("format", .text "int64")]

def int64Field : Value := .object int64Type

/-- A record, all of whose fields are required. -/
def record (description : Option String) (fields : List (String × Value)) : Value :=
  .object
    ([("type", .text "object")] ++ (description.map fun d => ("description", .text d)).toList ++
      [("required", .list (fields.map fun f => .text f.1)), ("properties", .object fields)])

/-- A choice among names. -/
def choice (description : String) (names : List String) : Value :=
  .object
    [("type", .text "string"), ("description", .text description),
      ("enum", .list (names.map .text))]

def schemas : List (String × Value) :=
  [("ErrorResponse",
      record none [("error", textField (some "Only owner or admin can add members"))]),
    ("MessageResponse", record none [("message", textField (some "Member added successfully"))]),
    ("SignupRequest",
      record none
        [("name", textField (some "Aspen")), ("email", textField (some "aspen@x.com")),
          ("password", textField (some "pw1"))]),
    ("LoginRequest",
      record none
        [("email", textField (some "aspen@x.com")), ("password", textField (some "pw1"))]),
    ("RefreshRequest", record none [("refresh_token", textField none)]),
    ("WorkspaceRequest",
      record (some "Body for both create and update.")
        [("name", .object
            [("type", .text "string"), ("example", .text "Eng"), ("maxLength", .ofNat 50),
              ("minLength", .ofNat 3)]),
          ("workspace_type", ref "WorkspaceType")]),
    ("CreateWorkspaceResponse",
      record none
        [("message", textField (some "Workspace created successfully")),
          ("workspace_id", uuidField)]),
    ("MemberRoleRequest",
      record (some "Body for add and change-role.")
        [("email", textField (some "bob@x.com")), ("role", ref "Role")]),
    ("TokenPair",
      record (some "Token pair returned to the client")
        [("access_token", textField none), ("refresh_token", textField none),
          ("token_type", textField (some "Bearer")),
          ("expires_in", .object
            (int64Type ++ [("description", .text "Access token lifetime in seconds")]))]),
    ("Role",
      choice
        ("Role a member holds inside a workspace.\n\n" ++
          "Privilege is ordered OWNER > ADMIN > MEMBER for policy checks only; the\n" ++
          "variant order carries no meaning for display.")
        (Role.all.map Role.name)),
    ("WorkspaceType",
      choice "Workspace classification." (WorkspaceType.all.map WorkspaceType.name)),
    ("WorkspaceDetails",
      record (some "Workspace as seen by one of its active members.")
        [("workspace_id", uuidField), ("workspace_name", textField none),
          ("workspace_type", ref "WorkspaceType"), ("owner", ref "OwnerInfo"),
          ("member_count", int64Field), ("caller_role", ref "Role")]),
    ("OwnerInfo",
      record none
        [("user_id", uuidField), ("display_name", textField none), ("email", textField none)])]

/-! ## Operations -/

/-- What an answer holds: the type of its content and a schema. -/
abbrev Body := Option (String × Value)

def nothing : Body := none

def jsonBody (schema : Value) : Body := some ("application/json", schema)

def content (mediaType : String) (schema : Value) : String × Value :=
  ("content", .object [(mediaType, .object [("schema", schema)])])

/-- An answer: its status, what it means, and what it holds. -/
abbrev Answer := Nat × String × Body

/-- An answer that says what went wrong. -/
def problem (status : Nat) (description : String) : Answer :=
  (status, description, jsonBody (ref "ErrorResponse"))

def reply (description schema : String) : Answer := (200, description, jsonBody (ref schema))

def notAuthenticated : Answer := problem 401 "Not authenticated"

def answerField (a : Answer) : String × Value :=
  let (status, description, body) := a
  (Digits.natText status,
    .object (("description", .text description) :: (body.map fun (t, s) => content t s).toList))

structure Operation where
  path : String
  method : String
  id : String
  summary : String
  tag : String
  /-- Whether the caller must be known. -/
  secured : Bool
  parameters : List Value
  body : Option String
  answers : List Answer

def pathId : Value :=
  .object
    [("name", .text "id"), ("in", .text "path"), ("description", .text "Workspace ID"),
      ("required", .bool true), ("schema", uuidField)]

/-- A parameter that names a user. -/
def userParameter (name : String) : Value :=
  .object
    [("name", .text name), ("in", .text "path"), ("required", .bool true),
      ("schema", textField none), ("example", .text "bob@x.com")]

namespace Operation

def toJson (o : Operation) : Value :=
  .object
    ([("tags", .list [.text o.tag]), ("summary", .text o.summary), ("operationId", .text o.id)] ++
      (if o.parameters.isEmpty then [] else [("parameters", .list o.parameters)]) ++
      (o.body.map fun schema =>
        ("requestBody", Value.object
          [content "application/json" (ref schema), ("required", .bool true)])).toList ++
      [("responses", .object (o.answers.map answerField))] ++
      (if o.secured then [("security", .list [.object [("bearer_auth", .list [])]])] else []))

end Operation

/-- An operation that needs no known caller and reads a body. -/
def signIn (name summary schema : String) (answers : List Answer) : Operation :=
  ⟨"/v1/auth/" ++ name, "post", name, summary, "Authentication", false, [], some schema,
    answers ++ [problem 500 "Internal server error"]⟩

def workspaceOperation (path method id summary : String) (parameters : List Value)
    (body : Option String) (answers : List Answer) : Operation :=
  ⟨"/v1/workspaces/" ++ path, method, id, summary, "Workspaces", true, parameters, body, answers⟩

def memberOperation (path method id summary : String) (more : List Value)
    (body : Option String) (answers : List Answer) : Operation :=
  ⟨"/v1/workspace/member/\x7bid\x7d/" ++ path, method, id, summary, "Members", true,
    pathId :: more, body, answers⟩

def operations : List Operation :=
  [⟨"/health", "get", "health_check", "Service health check", "Observability", false, [], none,
      [(200, "Service is healthy", nothing), (503, "Store is unreachable", nothing)]⟩,
    signIn "signup" "Register a new user" "SignupRequest"
      [reply "User registered" "TokenPair", problem 400 "Validation error",
        problem 409 "Email already registered"],
    signIn "login" "Login with email and password" "LoginRequest"
      [reply "Login successful" "TokenPair", problem 400 "Validation error",
        problem 401 "Invalid credentials"],
    signIn "refresh" "Exchange a refresh token for a new token pair" "RefreshRequest"
      [reply "Tokens rotated" "TokenPair", problem 400 "Validation error",
        problem 401 "Invalid or reused refresh token"],
    workspaceOperation "create" "post" "create_workspace" "Create a workspace owned by the caller"
      [] (some "WorkspaceRequest")
      [reply "Workspace created" "CreateWorkspaceResponse", problem 400 "Validation error",
        notAuthenticated],
    workspaceOperation "delete/\x7bid\x7d" "delete" "delete_workspace"
      "Soft delete a workspace (owner only)" [pathId] none
      [reply "Workspace deleted" "MessageResponse", notAuthenticated, problem 403 "Not the owner",
        problem 404 "Workspace not found"],
    workspaceOperation "all" "get" "list_workspaces"
      "List every workspace the caller is an active member of" [] none
      [(200, "Workspaces", jsonBody (.object
          [("type", .text "array"), ("items", ref "WorkspaceDetails")])),
        notAuthenticated],
    workspaceOperation "\x7bid\x7d" "get" "get_workspace" "Workspace details as seen by the caller"
      [pathId] none
      [reply "Workspace details" "WorkspaceDetails", notAuthenticated, problem 403 "Not a member"],
    workspaceOperation "update/\x7bid\x7d" "put" "update_workspace"
      "Rename or re-type a workspace (owner or admin)" [pathId] (some "WorkspaceRequest")
      [reply "Workspace updated" "MessageResponse", problem 400 "Validation error",
        notAuthenticated, problem 403 "Insufficient permission",
        problem 404 "Workspace not found"],
    memberOperation "add" "post" "add_member"
      "Add a user to the workspace, or reactivate a former member" [] (some "MemberRoleRequest")
      [reply "Member added" "MessageResponse",
        problem 400 "Already an active member, or invalid body", notAuthenticated,
        problem 403 "Insufficient permission", problem 404 "Workspace or user not found",
        problem 409 "Concurrent modification"],
    memberOperation "remove" "delete" "remove_member"
      "Remove a member (the owner can never be removed)" [userParameter "email"] none
      [reply "Member removed" "MessageResponse", notAuthenticated,
        problem 403 "Insufficient permission or target not a member",
        problem 404 "Workspace or user not found"],
    memberOperation "change-role" "post" "change_role" "Change a member's role" []
      (some "MemberRoleRequest")
      [reply "Role changed" "MessageResponse", problem 400 "Validation error", notAuthenticated,
        problem 403 "Insufficient permission or target not a member",
        problem 404 "Workspace or user not found"],
    memberOperation "leave" "post" "leave" "Leave the workspace" [] none
      [reply "Left workspace" "MessageResponse", problem 400 "The owner cannot leave",
        notAuthenticated, problem 403 "Not a member", problem 404 "Workspace not found"],
    memberOperation "transfer-ownership" "post" "transfer_ownership"
      "Hand ownership to another active member; the caller becomes ADMIN"
      [userParameter "newOwnerEmail"] none
      [reply "Ownership transferred" "MessageResponse", problem 400 "Cannot transfer to yourself",
        notAuthenticated, problem 403 "Not the owner, or new owner not a member",
        problem 404 "Workspace or user not found"],
    memberOperation "count-members" "get" "count_members" "Number of active members" [] none
      [(200, "Active member count", some ("text/plain", int64Field)), notAuthenticated]]

/-! ## The document -/

def tag (name description : String) : Value :=
  .object [("name", .text name), ("description", .text description)]

def value : Value :=
  .object
    [("openapi", .text "3.0.3"),
      ("info", .object
        [("title", .text "workspace-service"),
          ("description", .text "Workspace membership authorization and session token service"),
          ("license", .object [("name", .text "")]), ("version", .text "1.0.0")]),
      ("paths", .object (operations.map fun o => (o.path, .object [(o.method, o.toJson)]))),
      ("components", .object
        [("schemas", .object schemas),
          ("securitySchemes", .object
            [("bearer_auth", .object
              [("type", .text "http"), ("scheme", .text "bearer"),
                ("bearerFormat", .text "JWT")])])]),
      ("tags", .list
        [tag "Authentication" "Signup, login and token rotation",
          tag "Workspaces" "Workspace lifecycle",
          tag "Members" "Workspace membership and roles",
          tag "Observability" "Service health and monitoring"])]

end Roster.Api.Document
