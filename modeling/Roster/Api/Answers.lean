/-
Roster.Api.Answers — what each operation answers.

An operation first asks who the caller is, then reads the parameter of its
path, then its query or body, and only then does its work; the first of these
that fails gives the answer. Whatever the caller sent and could not be read, or
breaks a rule, is a failed validation.
-/
import Roster.Api.Document
import Roster.Api.Replies
import Roster.Api.Route
import Roster.ApiError
import Roster.Http.Boundary
import Roster.Http.MediaType
import Roster.Http.Target
import Roster.Http.Traffic
import Roster.Service.Credentials
import Roster.Service.Workspaces

namespace Roster.Api

open Http (Reply Content)

/-! ## Reading what was sent -/

/-- The bytes that a body may have. -/
def greatestBody : Nat := 2 * 1024 * 1024

/-- Whether a request says that its body is JSON. -/
def saysJson (r : Http.Request) : Bool :=
  (((r.headers.first? "content-type").bind Http.visible?).bind Http.MediaType.ofText?).any
    Http.MediaType.isJson

/-- What is said about a body that cannot be read. -/
def bodyProblem (e : Json.Error) (body : List UInt8) : String :=
  (if e.cause.isMismatch then "Failed to deserialize the JSON body into the target type: "
    else "Failed to parse the request body as JSON: ") ++ e.full body

/-- The form in the body of a request, if it keeps its rules. -/
def formOf (α : Type) [Form α] (r : Http.Request) : Except Failure α :=
  if !saysJson r then
    .error (.validationFailed "Expected request with `Content-Type: application/json`")
  else if r.body.length > greatestBody then
    .error (.validationFailed "Failed to buffer the request body: length limit exceeded")
  else
    match (Form.reader : Json.Reader α).leading r.body with
    | .error e => .error (.validationFailed (bodyProblem e r.body))
    | .ok form =>
      let report := Form.report form
      if report.isEmpty then .ok form else .error (.validationFailed report.text)

/-- The one value of a name in a query. -/
def queryField (name query : String) : Except Failure String :=
  let complain (m : Json.Mismatch) : Except Failure String :=
    .error (.validationFailed ("Failed to deserialize query string: " ++ m.message))
  match (Http.queryPairs query).filter fun p => p.1 == name with
  | [] => complain (.missingField name)
  | [(_, value)] => .ok value
  | _ => complain (.duplicateField name)

/-- The workspace that a path names. -/
def workspaceOf (parameter : String) : Except Failure Uuid :=
  let complain (text : String) : Except Failure Uuid :=
    .error (.validationFailed ("Invalid URL: " ++ text))
  match Http.pathText? parameter with
  | none => complain "Invalid UTF-8 in `id`"
  | some text =>
    match Uuid.parse text with
    | .ok id => .ok id
    | .error flaw => complain ("UUID parsing failed: " ++ flaw.message)

/-! ## Operations -/

/-- What the service was set up with. -/
structure Setup where
  settings : Settings
  issuer : Token.Issuer
  hasher : Password.Hasher
  origins : Http.Origins

/-- A request on its way to an operation: who sent it, and what its path's parameter stands for. -/
structure Errand where
  request : Http.Request
  identity : Option Identity
  parameter : String

/-- Work on a request, which may be answered by an error. -/
abbrev Work := ExceptT ApiError Program

namespace Work

variable {α : Type}

/-- Does an action; a refusal becomes the error that callers see. -/
def act (a : Action α) : Work α :=
  ExceptT.mk ((ExceptT.run a).bind fun r => .done (r.mapError ApiError.ofFailure))

/-- A value that was read, or the error that it could not be. -/
def take (r : Except Failure α) : Work α := ExceptT.mk (.done (r.mapError ApiError.ofFailure))

/-- The caller, who must be known. -/
def caller (e : Errand) : Work Identity :=
  match e.identity with
  | some i => return i
  | none => throw (.unauthorized "Authentication required")

/-- The caller and the workspace that the path names. -/
def callerAt (e : Errand) : Work (Identity × Uuid) := do
  let i ← caller e
  return (i, ← take (workspaceOf e.parameter))

end Work

/-- An answer with a JSON body. -/
def done (v : Json.Value) : Work Reply := return Reply.json 200 v

/-- An answer that only says something. -/
def said (text : String) : Work Reply := done (Message.toJson ⟨text⟩)

def pairReply (p : Token.Pair) : Work Reply := done p.toJson

/-- The state of the service, which is bad if the store cannot be reached. -/
def healthReply (s : Settings) (storeUp : Bool) : Reply :=
  Reply.json (if storeUp then 200 else 503)
    (.object
      [("status", .text (if storeUp then "healthy" else "unhealthy")),
        ("service", .text s.serviceName), ("version", .text s.serviceVersion),
        ("environment", .text s.mode.name),
        ("checks", .object [("store", .text (if storeUp then "up" else "down"))])])

def health (s : Settings) : Work Reply :=
  ExceptT.mk ((Program.request (.store .healthCheck)).bind fun r =>
    .done (.ok (healthReply s r.toBool)))

def metricsReply (traffic : Option Http.Traffic) : Reply :=
  match traffic with
  | some t => Reply.ofContent 200 (.text (Http.Traffic.text t))
  | none => Reply.ofContent 503 (.text "metrics recorder not installed")

/-- The files of the pages that document the service, with their types. -/
def docsFiles : List (String × String) :=
  [("index.html", "text/html"), ("oauth2-redirect.html", "text/html"), ("index.css", "text/css"),
    ("swagger-ui.css", "text/css"), ("favicon-16x16.png", "image/png"),
    ("favicon-32x32.png", "image/png")] ++
    ["swagger-initializer.js", "swagger-ui.js", "swagger-ui-bundle.js", "swagger-ui-es-bundle.js",
      "swagger-ui-es-bundle-core.js", "swagger-ui-standalone-preset.js"].map
      (fun name => (name, "text/javascript")) ++
    ["swagger-ui.css.map", "swagger-ui.js.map", "swagger-ui-bundle.js.map",
      "swagger-ui-es-bundle.js.map", "swagger-ui-es-bundle-core.js.map",
      "swagger-ui-standalone-preset.js.map"].map (fun name => (name, "application/json"))

/-- One of those files; the front page if the path names none. -/
def docsReply (parameter : String) : Reply :=
  let name := (Http.pathText? parameter).getD ""
  let name := if name == "" || name == "/" then "index.html" else name
  match docsFiles.lookup name with
  | some mediaType => Reply.ofContent 200 (.file name mediaType)
  | none => Reply.empty 404

namespace Endpoint

/-- What an operation answers. -/
def work (setup : Setup) (traffic : Option Http.Traffic) (e : Errand) : Endpoint → Work Reply
  | health => Api.health setup.settings
  | metrics => return metricsReply traffic
  | document => done Document.value
  | docsEntry => return (Reply.empty 303).put "location" "/docs/"
  | docsPage => return docsReply e.parameter
  | signup => do
    let f ← Work.take (formOf Signup e.request)
    pairReply (← Work.act
      (Service.Credentials.signup setup.issuer setup.hasher f.name f.email f.password))
  | login => do
    let f ← Work.take (formOf Login e.request)
    pairReply (← Work.act (Service.Credentials.login setup.issuer setup.hasher f.email f.password))
  | refresh => do
    let f ← Work.take (formOf Renewal e.request)
    pairReply (← Work.act (Service.Credentials.refresh setup.issuer f.token))
  | createWorkspace => do
    let i ← Work.caller e
    let f ← Work.take (formOf WorkspaceForm e.request)
    let id ← Work.act (Service.Workspaces.create f.name f.type i)
    done (Created.toJson ⟨"Workspace created successfully", id⟩)
  | deleteWorkspace => do
    let (i, id) ← Work.callerAt e
    Work.act (Service.Workspaces.delete id i)
    said "Workspace deleted successfully"
  | listWorkspaces => do
    let i ← Work.caller e
    let rows ← Work.act (Service.Workspaces.list i)
    done (.list (rows.map WorkspaceDetails.toJson))
  | workspaceDetails => do
    let (i, id) ← Work.callerAt e
    done (← Work.act (Service.Workspaces.details id i)).toJson
  | updateWorkspace => do
    let (i, id) ← Work.callerAt e
    let f ← Work.take (formOf WorkspaceForm e.request)
    Work.act (Service.Workspaces.update id i f.name f.type)
    said "Workspace updated successfully"
  | addMember => do
    let (i, id) ← Work.callerAt e
    let f ← Work.take (formOf MemberRole e.request)
    Work.act (Service.Members.add id i f.email f.role)
    said "Member added successfully"
  | removeMember => do
    let (i, id) ← Work.callerAt e
    let email ← Work.take (queryField "email" e.request.query)
    Work.act (Service.Members.remove id i email)
    said "Member removed successfully"
  | changeRole => do
    let (i, id) ← Work.callerAt e
    let f ← Work.take (formOf MemberRole e.request)
    Work.act (Service.Members.changeRole id i f.email f.role)
    said "Member role updated successfully"
  | leave => do
    let (i, id) ← Work.callerAt e
    Work.act (Service.Members.leave id i)
    said "Left workspace successfully"
  | transferOwnership => do
    let (i, id) ← Work.callerAt e
    let email ← Work.take (queryField "newOwnerEmail" e.request.query)
    Work.act (Service.Members.transferOwnership id i email)
    said "Ownership transferred successfully"
  | countMembers => do
    let (_, id) ← Work.callerAt e
    done (.ofNat (← Work.act (Service.Members.count id)))

end Endpoint

/-- An error as an answer. -/
def errorReply (e : ApiError) : Reply :=
  let r := Reply.json e.status e.body
  match e.retryAfter with
  | some n => r.put "retry-after" (Digits.natText n)
  | none => r

/-- What an operation answers, errors included. -/
def Endpoint.answer (setup : Setup) (traffic : Option Http.Traffic) (e : Errand)
    (endpoint : Endpoint) : Program Reply :=
  (ExceptT.run (endpoint.work setup traffic e)).bind fun r =>
    match r with
    | .ok reply => .done reply
    | .error error => .done (errorReply error)

end Roster.Api
