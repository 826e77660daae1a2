/-
Roster.Site — the whole service, from request to answer.

A request passes several layers on its way in, and its answer passes them on
its way out: questions of browsers about other origins are answered first; then
come the headers on every answer, the request's identifier, the count of
requests, the allowance of the caller's address, who the caller is, and at last
the operation, which for signing in has an allowance of its own.
-/
import Roster.Api.Answers

namespace Roster

open Api (Setup Errand Endpoint Route Verb)
open Http (Reply)

/-- The service and all that it remembers between requests. -/
structure Site where
  setup : Setup
  /-- The allowance of each address for signing in. -/
  signIns : Limiter
  /-- The allowance of each address for all requests. -/
  requests : Limiter
  /-- How many requests there were, if they are counted. -/
  traffic : Option Http.Traffic
  world : World

namespace Site

/-- Why a service cannot be set up. -/
inductive Flaw where
  | issuer (f : Token.Issuer.Flaw)
  /-- A number of an allowance for which there is no word. -/
  | overflow (o : Quota.Overflow)
  /-- A web origin that can be no header value. -/
  | origin (text : String)
  deriving DecidableEq, Repr

def Flaw.message : Flaw → String
  | issuer f => f.message
  | overflow o => o.message
  | origin text =>
    (ApiError.config ("Invalid CORS origin '" ++ text ++
      "': failed to parse header value")).message

/-- Sets a service up. -/
def make (settings : Settings) (hasher : Password.Hasher) (counting : Bool) (world : World) :
    Except Flaw Site := do
  let issuer ← (Token.Issuer.make settings.signing.secret settings.signing.accessMinutes
    settings.signing.refreshDays).mapError .issuer
  let signIns ← (Limiter.ofAllowance settings.authAllowance).mapError .overflow
  let requests ← (Limiter.ofAllowance settings.allowance).mapError .overflow
  let origins ← (Http.Origins.ofList settings.origins).mapError .origin
  return {
    setup := { settings, issuer, hasher, origins }
    signIns
    requests
    traffic := if counting then some [] else none
    world }

end Site

/-- Work that the service does on a request. -/
abbrev Serving := StateM Site

namespace Serving

/-- Does a part of the work that only concerns the surroundings. -/
def surroundings {α : Type} (f : World → α × World) : Serving α := fun site =>
  let (a, world) := f site.world
  (a, { site with world })

def now : Serving Reading := surroundings World.readClock

def drawId : Serving Uuid := surroundings World.drawId

/-! ## Allowances -/

/-- The address that a request is from: the first that a proxy names, or that of the connection. -/
def clientAddress (r : Http.Request) : Option Net.Address :=
  let forwarded := ((r.headers.first? "x-forwarded-for").bind Http.visible?).bind fun v =>
    Net.Address.ofText? (Text.trim ((v.splitOn ",").headD ""))
  forwarded.orElse fun _ => r.peer

def tooMany (wait : Nat) : Reply :=
  Api.errorReply (.tooManyRequests "Too many requests from this IP. Please try again later."
    (some (Limiter.retrySeconds wait)))

/-- Goes on while an address keeps to its allowance; an unknown address has none to keep to. -/
def limited (get : Site → Limiter) (set : Site → Limiter → Site) (r : Http.Request)
    (inner : Serving Reply) : Serving Reply := do
  match clientAddress r with
  | none => inner
  | some a =>
    let t ← now
    let (verdict, limiter) := (get (← MonadState.get)).check a t
    modify fun site => set site limiter
    match verdict with
    | .admitted => inner
    | .refused wait => return tooMany wait

/-! ## The caller -/

/-- The token of a request that carries one. -/
def bearer? (hs : Http.Headers) : Option String := do
  let value ← hs.first? "authorization"
  let scheme := value.toList.take 7
  if (scheme.map Char.toLower) = "bearer ".toList then
    let value ← Http.visible? value
    some (String.ofList (Text.trimFront (value.toList.drop 7)))
  else none

/-- Who sent a request; a token that is not good leaves them unknown. -/
def caller (r : Http.Request) : Serving (Option Identity) := do
  match bearer? r.headers with
  | none => return none
  | some token =>
    let t ← now
    let issuer := (← get).setup.issuer
    return (issuer.validate t token .access).map Token.Claims.identity

/-! ## Operations -/

/-- Does the operation that a path and a method mean, or says why there is none. -/
def operation (r : Http.Request) (target : Option (Route × String)) : Serving Reply := do
  let identity ← caller r
  match target with
  | none => return Reply.empty 404
  | some (route, parameter) =>
    let work : Serving Reply :=
      if route.verb.serves r.method then fun site =>
        let (reply, world) :=
          (route.endpoint.answer site.setup site.traffic ⟨r, identity, parameter⟩).run site.world
        (reply, { site with world })
      else return Reply.empty 405
    if route.endpoint.isSignIn then
      limited Site.signIns (fun site l => { site with signIns := l }) r work
    else work

/-- Counts a request once it has been answered. -/
def counted (r : Http.Request) (target : Option (Route × String)) (inner : Serving Reply) :
    Serving Reply := do
  let reply ← inner
  let path := (target.map fun t => t.1.text).getD "unmatched"
  let key : Http.TrafficKey := ⟨r.method, path, reply.status⟩
  modify fun site => { site with traffic := site.traffic.map (Http.Traffic.record key) }
  return reply

/-- Gives a request its identifier, inside and on the answer. -/
def identified (r : Http.Request) (inner : Http.Request → Serving Reply) : Serving Reply := do
  let id ←
    match Http.callerId? r.headers with
    | some id => pure id
    | none => do pure (← drawId).text
  let reply ← inner { r with headers := r.headers.put Http.requestIdName id }
  return reply.put Http.requestIdName id

/-- What a request gets that is no question about other origins. -/
def inner (r : Http.Request) (target : Option (Route × String)) : Serving Reply := do
  let reply ← identified r fun r =>
    counted r target
      (limited Site.requests (fun site l => { site with requests := l }) r (operation r target))
  return reply.putAll (Http.securityHeaders r.path)

/-- What a path says about the methods it serves, to a request with another one. -/
def allowHeader (r : Http.Request) (target : Option (Route × String)) : Http.Headers :=
  match target with
  | some (route, _) =>
    if route.verb.serves r.method then [] else [("allow", route.verb.allow)]
  | none => []

/-- The content that is sent; an answer to HEAD has none. -/
def sent (r : Http.Request) (target : Option (Route × String)) (reply : Reply) : Reply :=
  if r.method == "HEAD" && target.any fun t => t.1.verb.serves r.method then
    { reply with content := .empty }
  else reply

/-- Answers a request. -/
def serve (r : Http.Request) : Serving Reply := do
  let setup := (← get).setup
  let target := Route.find? (Route.all setup.settings.docs) r.path
  let reply ←
    if r.method == "OPTIONS" then pure (setup.origins.preflight r.headers)
    else do
      let reply ← inner r target
      pure { reply with headers := reply.headers ++ setup.origins.headers r.headers }
  return sent r target (reply.putAll (allowHeader r target))

end Serving

end Roster
