/-
Roster.Proofs.Settings.Production — what production settings are made of.

In production a default stands for nothing: the settings are read off exactly if
every variable is set and is a text of its kind (`Declared`, `ofVariables_prod`),
so each setting is its own variable, read. Together with the checks (`Accepted`)
this is all that it takes to start in production (`load_prod`).
-/
import Roster.Proofs.Settings.Checks

namespace Roster.Settings

open Token (bind_eq_ok ok_bind)

variable {files : List (String × String)} {environment env : Variables} {s : Settings}

/-! ## §1 Single variables -/

/-- A variable is set, and its text is a number of the kind. -/
def Holds (env : Variables) (kind : NumberKind) (name : String) (n : Int) : Prop :=
  ∃ text, env.lookup name = some text ∧ kind.parse text = .ok n

/-- What is read as a kind of number without a sign is no negative number. -/
theorem NumberKind.parse_nonneg {kind : NumberKind} (unsigned : kind.lowest = none) {text : String}
    {n : Int} (h : kind.parse text = .ok n) : 0 ≤ n := by
  have upward {digits : List Char} (read : NumberKind.parse.upward kind digits = .ok n) :
      0 ≤ n := by
    obtain ⟨m, -, rest⟩ := bind_eq_ok.1 read
    cases rest
    exact Int.natCast_nonneg m
  unfold NumberKind.parse at h
  split at h
  · cases h
  · cases h
  · cases h
  · exact upward h
  · rename_i signed
    rw [unsigned] at signed
    cases signed
  · exact upward h

theorem textOf_prod {name default text : String} :
    textOf .prod env name default = .ok text ↔ env.lookup name = some text := by
  unfold textOf
  cases env.lookup name <;> simp

theorem numberOf_prod {kind : NumberKind} {name default : String} {n : Int} :
    numberOf .prod env kind name default = .ok n ↔ Holds env kind name n := by
  unfold numberOf
  constructor
  · intro h
    obtain ⟨text, found, h⟩ := bind_eq_ok.1 h
    refine ⟨text, textOf_prod.1 found, ?_⟩
    split at h
    · rename_i m read
      cases h
      exact read
    · cases h
  · rintro ⟨text, found, read⟩
    rw [textOf_prod.2 found, ok_bind, read]
    rfl

theorem natOf_prod {kind : NumberKind} (unsigned : kind.lowest = none) {name default : String}
    {n : Nat} : natOf .prod env kind name default = .ok n ↔ Holds env kind name n := by
  unfold natOf
  constructor
  · intro h
    obtain ⟨m, read, h⟩ := bind_eq_ok.1 h
    cases h
    obtain ⟨text, found, read⟩ := numberOf_prod.1 read
    refine ⟨text, found, ?_⟩
    rw [read, Int.toNat_of_nonneg (NumberKind.parse_nonneg unsigned read)]
  · intro h
    rw [numberOf_prod.2 h]
    rfl

theorem databaseAddress_prod {address : Option String} :
    databaseAddress .prod env = .ok address ↔
      ∃ url, env.lookup "DATABASE_URL" = some url ∧ address = some url := by
  unfold databaseAddress textOf
  cases env.lookup "DATABASE_URL" <;> simp [eq_comm]

theorem docsOf_eq_ok {text : String} {docs : Docs} :
    docsOf text = .ok docs ↔ Docs.ofText? text = some docs := by
  unfold docsOf
  cases Docs.ofText? text <;> simp

/-- Production must be asked for, in letters of any case. -/
theorem modeOf_prod :
    modeOf env = .ok .prod ↔
      ∃ text, env.lookup "ENVIRONMENT" = some text ∧ Text.lowercase text = "prod" := by
  have named {text : String} : Mode.ofText? text = some .prod ↔ Text.lowercase text = "prod" := by
    unfold Mode.ofText?
    split <;> simp_all
  have byDefault : Mode.ofText? "dev" = some .dev := by decide +kernel
  unfold modeOf
  cases found : env.lookup "ENVIRONMENT" with
  | none => simp [byDefault]
  | some text =>
    rw [Option.getD_some]
    simp only [Option.some.injEq, exists_eq_left', ← named]
    cases Mode.ofText? text <;> simp

/-! ## §2 All variables -/

/-- The variables that must be set in production, besides the one that asks for it. -/
def required : List String :=
  ["SERVICE_NAME", "SERVICE_VERSION", "LOG_LEVEL", "DATABASE_URL", "DATABASE_MAX_CONNECTIONS",
    "DATABASE_MIN_CONNECTIONS", "JWT_SECRET", "JWT_ACCESS_TOKEN_EXPIRY_MINUTES",
    "JWT_REFRESH_TOKEN_EXPIRY_DAYS", "ALLOWED_ORIGINS", "ENABLE_SWAGGER",
    "RATE_LIMIT_AUTH_ATTEMPTS", "RATE_LIMIT_AUTH_WINDOW_SECONDS", "RATE_LIMIT_GLOBAL_IP_LIMIT",
    "RATE_LIMIT_GLOBAL_IP_WINDOW_SECONDS"]

/-- Each setting is what a variable of its own holds. -/
structure Declared (env : Variables) (s : Settings) : Prop where
  mode : s.mode = .prod ∧
    ∃ text, env.lookup "ENVIRONMENT" = some text ∧ Text.lowercase text = "prod"
  serviceName : env.lookup "SERVICE_NAME" = some s.serviceName
  serviceVersion : env.lookup "SERVICE_VERSION" = some s.serviceVersion
  logLevel : env.lookup "LOG_LEVEL" = some s.logLevel
  traces : s.traces = someText? env "OTLP_ENDPOINT"
  address : ∃ url, env.lookup "DATABASE_URL" = some url ∧ s.database.address = some url
  maxConnections : Holds env .nat32 "DATABASE_MAX_CONNECTIONS" s.database.maxConnections
  minConnections : Holds env .nat32 "DATABASE_MIN_CONNECTIONS" s.database.minConnections
  secret : env.lookup "JWT_SECRET" = some s.signing.secret
  accessMinutes : Holds env .int64 "JWT_ACCESS_TOKEN_EXPIRY_MINUTES" s.signing.accessMinutes
  refreshDays : Holds env .int64 "JWT_REFRESH_TOKEN_EXPIRY_DAYS" s.signing.refreshDays
  origins : ∃ text, env.lookup "ALLOWED_ORIGINS" = some text ∧ s.origins = originsOf text
  docs : ∃ text, env.lookup "ENABLE_SWAGGER" = some text ∧ Docs.ofText? text = some s.docs
  authAttempts : Holds env .nat32 "RATE_LIMIT_AUTH_ATTEMPTS" s.authAllowance.attempts
  authSeconds : Holds env .nat64 "RATE_LIMIT_AUTH_WINDOW_SECONDS" s.authAllowance.seconds
  attempts : Holds env .nat32 "RATE_LIMIT_GLOBAL_IP_LIMIT" s.allowance.attempts
  seconds : Holds env .nat64 "RATE_LIMIT_GLOBAL_IP_WINDOW_SECONDS" s.allowance.seconds

theorem Holds.isSome {kind : NumberKind} {name : String} {n : Int} (h : Holds env kind name n) :
    (env.lookup name).isSome := by
  obtain ⟨text, found, -⟩ := h
  exact Option.isSome_of_eq_some found

theorem Declared.isSome (h : Declared env s) : ∀ name ∈ required, (env.lookup name).isSome := by
  obtain ⟨url, address, -⟩ := h.address
  obtain ⟨text, origins, -⟩ := h.origins
  obtain ⟨word, docs, -⟩ := h.docs
  simp only [required, List.forall_mem_cons, h.serviceName, h.serviceVersion, h.logLevel, address,
    h.maxConnections.isSome, h.minConnections.isSome, h.secret, h.accessMinutes.isSome,
    h.refreshDays.isSome, origins, docs, h.authAttempts.isSome, h.authSeconds.isSome,
    h.attempts.isSome, h.seconds.isSome, Option.isSome_some, true_and]
  exact List.forall_mem_nil _

/-- Production settings are read exactly if each of them is declared. -/
theorem ofVariables_prod {listen : Listen} :
    ofVariables listen env = .ok s ∧ s.mode = .prod ↔ s.listen = listen ∧ Declared env s := by
  constructor
  · rintro ⟨read, prod⟩
    obtain ⟨mode, hmode, read⟩ := bind_eq_ok.1 read
    obtain ⟨serviceName, hname, read⟩ := bind_eq_ok.1 read
    obtain ⟨serviceVersion, hversion, read⟩ := bind_eq_ok.1 read
    obtain ⟨logLevel, hlevel, read⟩ := bind_eq_ok.1 read
    obtain ⟨address, haddress, read⟩ := bind_eq_ok.1 read
    obtain ⟨maxConnections, hmax, read⟩ := bind_eq_ok.1 read
    obtain ⟨minConnections, hmin, read⟩ := bind_eq_ok.1 read
    obtain ⟨secret, hsecret, read⟩ := bind_eq_ok.1 read
    obtain ⟨accessMinutes, hminutes, read⟩ := bind_eq_ok.1 read
    obtain ⟨refreshDays, hdays, read⟩ := bind_eq_ok.1 read
    obtain ⟨origins, horigins, read⟩ := bind_eq_ok.1 read
    obtain ⟨word, hword, read⟩ := bind_eq_ok.1 read
    obtain ⟨docs, hdocs, read⟩ := bind_eq_ok.1 read
    obtain ⟨authAttempts, hauthAttempts, read⟩ := bind_eq_ok.1 read
    obtain ⟨authSeconds, hauthSeconds, read⟩ := bind_eq_ok.1 read
    obtain ⟨attempts, hattempts, read⟩ := bind_eq_ok.1 read
    obtain ⟨seconds, hseconds, read⟩ := bind_eq_ok.1 read
    cases read
    obtain rfl : mode = .prod := prod
    exact ⟨rfl, {
      mode := ⟨rfl, modeOf_prod.1 hmode⟩
      serviceName := textOf_prod.1 hname
      serviceVersion := textOf_prod.1 hversion
      logLevel := textOf_prod.1 hlevel
      traces := rfl
      address := databaseAddress_prod.1 haddress
      maxConnections := (natOf_prod rfl).1 hmax
      minConnections := (natOf_prod rfl).1 hmin
      secret := textOf_prod.1 hsecret
      accessMinutes := numberOf_prod.1 hminutes
      refreshDays := numberOf_prod.1 hdays
      origins := ⟨origins, textOf_prod.1 horigins, rfl⟩
      docs := ⟨word, textOf_prod.1 hword, docsOf_eq_ok.1 hdocs⟩
      authAttempts := (natOf_prod rfl).1 hauthAttempts
      authSeconds := (natOf_prod rfl).1 hauthSeconds
      attempts := (natOf_prod rfl).1 hattempts
      seconds := (natOf_prod rfl).1 hseconds }⟩
  · rintro ⟨rfl, h⟩
    obtain ⟨prod, asked⟩ := h.mode
    obtain ⟨pieces, horigins, origins⟩ := h.origins
    obtain ⟨word, hword, docs⟩ := h.docs
    refine ⟨?_, prod⟩
    unfold ofVariables
    simp only [modeOf_prod.2 asked, textOf_prod.2 h.serviceName, textOf_prod.2 h.serviceVersion,
      textOf_prod.2 h.logLevel, databaseAddress_prod.2 h.address,
      (natOf_prod rfl).2 h.maxConnections, (natOf_prod rfl).2 h.minConnections,
      textOf_prod.2 h.secret, numberOf_prod.2 h.accessMinutes, numberOf_prod.2 h.refreshDays,
      textOf_prod.2 horigins, textOf_prod.2 hword, docsOf_eq_ok.2 docs,
      (natOf_prod rfl).2 h.authAttempts, (natOf_prod rfl).2 h.authSeconds,
      (natOf_prod rfl).2 h.attempts, (natOf_prod rfl).2 h.seconds, ok_bind]
    rw [← prod, ← h.traces, ← origins]
    rfl

/-- The variables leave nothing open but the listening address. -/
theorem Declared.unique {t : Settings} (h : Declared env s) (k : Declared env t)
    (listen : s.listen = t.listen) : s = t := by
  obtain ⟨first, -⟩ := ofVariables_prod.2 ⟨listen, h⟩
  obtain ⟨second, -⟩ := ofVariables_prod.2 ⟨rfl, k⟩
  exact Except.ok.inj (first.symm.trans second)

/-! ## §3 Starting in production -/

/-- The variables as they stand after the file `.env`. -/
def inEffect (files : List (String × String)) (environment : Variables) : Variables :=
  ((files.lookup ".env").map (EnvFile.load environment)).getD environment

theorem checked_eq_ok {s t : Settings} : s.checked = .ok t ↔ s = t ∧ s.Accepted := by
  unfold checked
  rw [← flaw?_eq_none]
  cases s.flaw? <;> simp

/-- Production settings are loaded exactly if all are declared and pass the checks. -/
theorem load_prod :
    load files environment = .ok s ∧ s.mode = .prod ↔
      Listen.load files (inEffect files environment) = .ok s.listen ∧
        Declared (inEffect files environment) s ∧ s.Accepted := by
  have opened : load files environment =
      ((Listen.load files (inEffect files environment)).mapError .source >>= fun listen =>
        ofVariables listen (inEffect files environment) >>= checked) := by
    unfold load inEffect
    dsimp only
    cases Listen.load files _ <;> rfl
  rw [opened]
  cases Listen.load files (inEffect files environment) with
  | error f => simp [Except.mapError, bind, Except.bind]
  | ok listen =>
    show (ofVariables listen (inEffect files environment) >>= checked) = .ok s ∧ _ ↔ _
    constructor
    · rintro ⟨h, prod⟩
      obtain ⟨t, read, h⟩ := bind_eq_ok.1 h
      obtain ⟨rfl, accepted⟩ := checked_eq_ok.1 h
      obtain ⟨rfl, declared⟩ := ofVariables_prod.1 ⟨read, prod⟩
      exact ⟨rfl, declared, accepted⟩
    · rintro ⟨same, declared, accepted⟩
      obtain ⟨read, prod⟩ := ofVariables_prod.2 ⟨(Except.ok.inj same).symm, declared⟩
      exact ⟨bind_eq_ok.2 ⟨s, read, checked_eq_ok.2 ⟨rfl, accepted⟩⟩, prod⟩

/-- Among the origins of a text is what stands between two commas, trimmed, unless that is empty. -/
theorem mem_originsOf {text o : String} :
    o ∈ originsOf text ↔ o ≠ "" ∧ ∃ piece ∈ text.splitOn ",", Text.trim piece = o := by
  simp [originsOf, and_comm]

/--
Settings that were loaded for production, from whatever files and variables.
Every variable is set but perhaps the address for traces, and each setting is
what its own variable holds, which leaves no room for any default. No piece
between the commas of the origins is a star but for blanks, and a service with
the settings names its origins one by one. It has a port, no more connections at
rest than at most, and its issuer of tokens fails on an empty secret only.
-/
theorem production_hardened (loaded : load files environment = .ok s) (prod : s.mode = .prod) :
    (∀ name ∈ required, ((inEffect files environment).lookup name).isSome) ∧
    Declared (inEffect files environment) s ∧
    (∀ t, Declared (inEffect files environment) t → t.listen = s.listen → t = s) ∧
    (∀ text, (inEffect files environment).lookup "ALLOWED_ORIGINS" = some text →
      ∀ piece ∈ text.splitOn ",", Text.trim piece ≠ "*") ∧
    (∀ hasher counting world site, Site.make s hasher counting world = .ok site →
      site.setup.origins = .only s.origins) ∧
    s.listen.port ≠ 0 ∧ s.database.minConnections ≤ s.database.maxConnections ∧
    ∀ f, Token.Issuer.make s.signing.secret s.signing.accessMinutes s.signing.refreshDays =
      .error f → f = .emptySecret ∧ s.signing.secret = "" := by
  obtain ⟨-, declared, accepted⟩ := load_prod.1 ⟨loaded, prod⟩
  have starless := accepted.origins prod
  refine ⟨declared.isSome, declared, fun t other => other.unique declared, ?_, ?_, accepted.port,
    accepted.connections, fun f => accepted.issuer_error⟩
  · intro text found piece mem star
    obtain ⟨text', found', origins⟩ := declared.origins
    obtain rfl : text = text' := Option.some.inj (found.symm.trans found')
    rw [origins, mem_originsOf] at starless
    exact starless ⟨by decide, piece, mem, star⟩
  · intro hasher counting world site made
    obtain ⟨_, origins, -, -, -, named, rfl⟩ := Site.make_eq_ok.1 made
    exact Http.Origins.eq_only_of_ofList starless named

/-- The variables of a small service in production. -/
def smallProduction : Variables :=
  [("ENVIRONMENT", "PrOd"), ("SERVICE_NAME", "roster"), ("SERVICE_VERSION", "1"),
    ("LOG_LEVEL", "info"), ("DATABASE_URL", "postgres://localhost/roster"),
    ("DATABASE_MAX_CONNECTIONS", "4"), ("DATABASE_MIN_CONNECTIONS", "+4"), ("JWT_SECRET", "secret"),
    ("JWT_ACCESS_TOKEN_EXPIRY_MINUTES", "15"), ("JWT_REFRESH_TOKEN_EXPIRY_DAYS", "30"),
    ("ALLOWED_ORIGINS", " https://a.org, ,*.b.org "), ("ENABLE_SWAGGER", "Disabled"),
    ("RATE_LIMIT_AUTH_ATTEMPTS", "5"), ("RATE_LIMIT_AUTH_WINDOW_SECONDS", "60"),
    ("RATE_LIMIT_GLOBAL_IP_LIMIT", "100"), ("RATE_LIMIT_GLOBAL_IP_WINDOW_SECONDS", "60")]

theorem production_hardened_small :
    let s : Settings := { Site.small.setup.settings with
      mode := .prod
      database := ⟨some "postgres://localhost/roster", 4, 4⟩
      origins := ["https://a.org", "*.b.org"] }
    (load [] smallProduction = .ok s ∧ s.mode = .prod) ∧
      ∀ name ∈ required, ((inEffect [] smallProduction).lookup name).isSome := by
  intro s
  have pieces : s.origins = originsOf " https://a.org, ,*.b.org " := by
    have split : " https://a.org, ,*.b.org ".splitOn "," = [" https://a.org", " ", "*.b.org "] :=
      (Text.splitOn_singleton _ ',').trans (by decide +kernel)
    rw [originsOf, split]
    decide +kernel
  have declared : Declared smallProduction s := {
    mode := ⟨rfl, _, rfl, by decide +kernel⟩
    serviceName := rfl
    serviceVersion := rfl
    logLevel := rfl
    traces := rfl
    address := ⟨_, rfl, rfl⟩
    maxConnections := ⟨_, rfl, by decide +kernel⟩
    minConnections := ⟨_, rfl, by decide +kernel⟩
    secret := rfl
    accessMinutes := ⟨_, rfl, by decide +kernel⟩
    refreshDays := ⟨_, rfl, by decide +kernel⟩
    origins := ⟨_, rfl, pieces⟩
    docs := ⟨_, rfl, by decide +kernel⟩
    authAttempts := ⟨_, rfl, by decide +kernel⟩
    authSeconds := ⟨_, rfl, by decide +kernel⟩
    attempts := ⟨_, rfl, by decide +kernel⟩
    seconds := ⟨_, rfl, by decide +kernel⟩ }
  have listen : Listen.load [] smallProduction = .ok s.listen := by decide +kernel
  have loaded := load_prod.2 ⟨listen, declared, flaw?_eq_none.1 (by decide)⟩
  exact ⟨loaded, (production_hardened loaded.1 loaded.2).1⟩

end Roster.Settings
