/-
Roster.Settings.Service — all settings of the service.

Each setting but the listening address is the text of one variable. In
development a variable that is not set has a default; in production nearly all
must be set. The settings together must pass a few checks before the service
may start.
-/
import Roster.ApiError
import Roster.Limiter
import Roster.Settings.Source

namespace Roster

namespace Settings

/-- What the service runs for. -/
inductive Mode where
  | dev
  | prod
  deriving DecidableEq, Repr

namespace Mode

def name : Mode → String
  | dev => "Dev"
  | prod => "Prod"

/-- Reads a mode in letters of any case. -/
def ofText? (s : String) : Option Mode :=
  match Text.lowercase s with
  | "dev" => some dev
  | "prod" => some prod
  | _ => none

end Mode

/-- Whether the pages that document the service are there. -/
inductive Docs where
  | pub
  | disabled
  deriving DecidableEq, Repr

namespace Docs

def name : Docs → String
  | pub => "Public"
  | disabled => "Disabled"

def ofText? (s : String) : Option Docs :=
  match Text.lowercase s with
  | "public" => some pub
  | "disabled" => some disabled
  | _ => none

end Docs

structure Database where
  /-- Where the database is; without it everything is kept in memory. -/
  address : Option String
  maxConnections : Nat
  minConnections : Nat
  deriving DecidableEq, Repr

/-- The signing key of tokens and how long they last. -/
structure Signing where
  secret : String
  accessMinutes : Int
  refreshDays : Int
  deriving DecidableEq, Repr

/-- What is wrong with the settings. -/
inductive Flaw where
  | source (f : SourceFlaw)
  | unknownMode (text : String)
  | unknownDocs (text : String)
  | unset (variableName : String)
  | number (variableName : String) (f : NumberFlaw)
  | noPort
  | accessMinutes
  | refreshDays
  | connections
  | anyOrigin
  deriving DecidableEq, Repr

/-- The longest life of an access token, in minutes. -/
def greatestMinutes : Nat := 1440

/-- The longest life of a refresh token, in days. -/
def greatestDays : Nat := 365

namespace Flaw

def message : Flaw → String
  | source f => f.message
  | unknownMode text => "Invalid environment: " ++ text
  | unknownDocs text => "Invalid swagger mode: " ++ text
  | unset name => name ++ " is required in production but not set"
  | number name f => name ++ ": " ++ f.message
  | noPort => "PORT must be greater than 0"
  | accessMinutes =>
    "JWT_ACCESS_TOKEN_EXPIRY_MINUTES must be between 1 and " ++ Digits.natText greatestMinutes
  | refreshDays =>
    "JWT_REFRESH_TOKEN_EXPIRY_DAYS must be between 1 and " ++ Digits.natText greatestDays
  | connections => "DATABASE_MIN_CONNECTIONS cannot exceed DATABASE_MAX_CONNECTIONS"
  | anyOrigin => "Wildcard CORS origin not allowed in production"

def toApiError (f : Flaw) : ApiError := .config f.message

end Flaw

end Settings

open Settings in
/-- The settings of the service. -/
structure Settings where
  listen : Listen
  mode : Mode
  serviceName : String
  serviceVersion : String
  logLevel : String
  /-- Where traces are sent. -/
  traces : Option String
  database : Database
  signing : Signing
  /-- The web origins that may call the service; a star means all. -/
  origins : List String
  docs : Docs
  /-- What one address may ask of the sign-in routes. -/
  authAllowance : Allowance
  /-- What one address may ask of the whole service. -/
  allowance : Allowance
  deriving DecidableEq, Repr

namespace Settings

/-! ## Checks -/

/-- The first check that the settings fail. -/
def flaw? (s : Settings) : Option Flaw :=
  if s.listen.port = 0 then some .noPort
  else if s.signing.accessMinutes < 1 ∨ greatestMinutes < s.signing.accessMinutes then
    some .accessMinutes
  else if s.signing.refreshDays < 1 ∨ greatestDays < s.signing.refreshDays then some .refreshDays
  else if s.database.maxConnections < s.database.minConnections then some .connections
  else if s.mode = .prod ∧ "*" ∈ s.origins then some .anyOrigin
  else none

/-! ## Variables -/

/-- The text of a variable, or its default in development. -/
def textOf (mode : Mode) (env : Variables) (name default : String) : Except Flaw String :=
  match env.lookup name, mode with
  | some v, _ => .ok v
  | none, .dev => .ok default
  | none, .prod => .error (.unset name)

def numberOf (mode : Mode) (env : Variables) (kind : NumberKind) (name default : String) :
    Except Flaw Int := do
  match kind.parse (← textOf mode env name default) with
  | .ok n => return n
  | .error f => .error (.number name f)

def natOf (mode : Mode) (env : Variables) (kind : NumberKind) (name default : String) :
    Except Flaw Nat := do
  return (← numberOf mode env kind name default).toNat

/-- The text of a variable that may be missing or empty. -/
def someText? (env : Variables) (name : String) : Option String :=
  (env.lookup name).filter fun v => v != ""

def databaseAddress (mode : Mode) (env : Variables) : Except Flaw (Option String) :=
  match mode with
  | .prod => some <$> textOf mode env "DATABASE_URL" ""
  | .dev => .ok (someText? env "DATABASE_URL")

/-- The pieces between commas, trimmed, without the empty ones. -/
def originsOf (s : String) : List String :=
  ((s.splitOn ",").map Text.trim).filter fun o => o != ""

def modeOf (env : Variables) : Except Flaw Mode :=
  let text := (env.lookup "ENVIRONMENT").getD "dev"
  match Mode.ofText? text with
  | some m => .ok m
  | none => .error (.unknownMode text)

def docsOf (text : String) : Except Flaw Docs :=
  match Docs.ofText? text with
  | some d => .ok d
  | none => .error (.unknownDocs text)

def defaultSecret : String := "dev-only-signing-secret-do-not-deploy"

/-- The settings that variables and a listening address give; the first fault counts. -/
def ofVariables (listen : Listen) (env : Variables) : Except Flaw Settings := do
  let mode ← modeOf env
  let text := textOf mode env
  let nat := natOf mode env
  let number := numberOf mode env .int64
  let serviceName ← text "SERVICE_NAME" "workspace-service"
  let serviceVersion ← text "SERVICE_VERSION" "1.0.0"
  let logLevel ← text "LOG_LEVEL" "info"
  let address ← databaseAddress mode env
  let maxConnections ← nat .nat32 "DATABASE_MAX_CONNECTIONS" "10"
  let minConnections ← nat .nat32 "DATABASE_MIN_CONNECTIONS" "1"
  let secret ← text "JWT_SECRET" defaultSecret
  let accessMinutes ← number "JWT_ACCESS_TOKEN_EXPIRY_MINUTES" "15"
  let refreshDays ← number "JWT_REFRESH_TOKEN_EXPIRY_DAYS" "7"
  let origins ← text "ALLOWED_ORIGINS" "http://localhost:3000"
  let docs ← docsOf (← text "ENABLE_SWAGGER" "public")
  let authAttempts ← nat .nat32 "RATE_LIMIT_AUTH_ATTEMPTS" "10"
  let authSeconds ← nat .nat64 "RATE_LIMIT_AUTH_WINDOW_SECONDS" "60"
  let attempts ← nat .nat32 "RATE_LIMIT_GLOBAL_IP_LIMIT" "100"
  let seconds ← nat .nat64 "RATE_LIMIT_GLOBAL_IP_WINDOW_SECONDS" "60"
  return {
    listen, mode, serviceName, serviceVersion, logLevel, docs
    traces := someText? env "OTLP_ENDPOINT"
    database := ⟨address, maxConnections, minConnections⟩
    signing := ⟨secret, accessMinutes, refreshDays⟩
    origins := originsOf origins
    authAllowance := ⟨authAttempts, authSeconds⟩
    allowance := ⟨attempts, seconds⟩ }

/-- The settings, if they pass all checks. -/
def checked (s : Settings) : Except Flaw Settings :=
  match s.flaw? with
  | some f => .error f
  | none => .ok s

/--
The settings of a service that is started in a directory with these files. The
file `.env` there may set variables that the environment does not.
-/
def load (files : List (String × String)) (environment : Variables) : Except Flaw Settings := do
  let env := ((files.lookup ".env").map (EnvFile.load environment)).getD environment
  match Listen.load files env with
  | .error f => .error (.source f)
  | .ok listen => checked (← ofVariables listen env)

end Settings

end Roster
