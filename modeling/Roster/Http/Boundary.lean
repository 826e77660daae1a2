/-
Roster.Http.Boundary — headers that stand on every answer.

Each answer carries an identifier of its request, the caller's own if it gave a
usable one, and headers that tell browsers to be strict; pages that document
the service may run their own scripts. Which web origins may read an answer is
said to every caller, and questions about that are answered at once.
-/
import Roster.Http.Message

namespace Roster.Http

/-! ## Identifiers of requests -/

def requestIdName : String := "x-request-id"

/-- The longest identifier that is taken over. -/
def greatestRequestId : Nat := 128

/-- The caller's identifier of a request: its first value, if that is visible and not too long. -/
def callerId? (hs : Headers) : Option String :=
  ((hs.first? requestIdName).bind visible?).filter fun s =>
    s != "" && decide (s.length ≤ greatestRequestId)

/-! ## Strictness -/

/-- Whether a path belongs to the pages that document the service. -/
def isDocumentation (path : String) : Bool :=
  path.startsWith "/docs" || path == "/.well-known/openapi.json"

def commonHeaders : Headers :=
  [("x-content-type-options", "nosniff"),
    ("strict-transport-security", "max-age=31536000; includeSubDomains"),
    ("cache-control", "no-store")]

/-- What may be loaded and framed by an answer to an ordinary request. -/
def strictPolicy : Headers :=
  [("content-security-policy", "default-src 'none'; frame-ancestors 'none'"),
    ("x-frame-options", "DENY")]

/-- What may be loaded and framed by the pages that document the service. -/
def documentationPolicy : Headers :=
  [("content-security-policy", "; ".intercalate
      ["default-src 'self'", "script-src 'self' 'unsafe-inline'",
        "style-src 'self' 'unsafe-inline'", "img-src 'self' data:", "font-src 'self'",
        "connect-src 'self'"]),
    ("x-frame-options", "SAMEORIGIN")]

/-- The headers on every answer to a request for a path. -/
def securityHeaders (path : String) : Headers :=
  commonHeaders ++ (if isDocumentation path then documentationPolicy else strictPolicy)

/-! ## Web origins -/

/-- The web origins whose pages may read answers. -/
inductive Origins where
  | any
  | only (origins : List String)
  deriving DecidableEq, Repr

namespace Origins

/-- The origins of the settings; the first that can be no header value is refused. -/
def ofList (origins : List String) : Except String Origins :=
  if "*" ∈ origins then .ok any
  else
    match origins.find? fun o => !isHeaderValue o with
    | some o => .error o
    | none => .ok (only origins)

/-- What is said about the origin of a request. -/
def allowed (o : Origins) (hs : Headers) : Headers :=
  match o with
  | any => [("access-control-allow-origin", "*")]
  | only origins =>
    match hs.first? "origin" with
    | some origin => if origin ∈ origins then [("access-control-allow-origin", origin)] else []
    | none => []

/-- The request headers on which answers depend. -/
def vary : Headers :=
  [("vary", "origin, access-control-request-method, access-control-request-headers")]

/-- The headers on every answer. -/
def headers (o : Origins) (hs : Headers) : Headers := o.allowed hs ++ vary

/-- The answer to a question what a page of another origin may send. -/
def preflight (o : Origins) (hs : Headers) : Reply :=
  (Reply.empty 200).putAll
    (o.headers hs ++
      [("access-control-allow-methods", "GET,POST,PUT,DELETE,OPTIONS"),
        ("access-control-allow-headers", "authorization,content-type")])

end Origins

end Roster.Http
