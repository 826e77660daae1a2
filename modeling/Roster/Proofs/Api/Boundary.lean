/-
Roster.Proofs.Api.Boundary — what a request may do depends on the token it carries.

Requests pass the layers of the service one by one. Each layer turns a request
away or hands it on, with the streams further on and all else as it was, and
`Ending` says how that may end: the request was turned away, or a program ran
that does what was asked for (§1). Each layer has one lemma (§2), the last one
for the service as a whole (`serve_ends`). What is possible without a token, in
whose name a request with a token acts, and what leaves the tables alone, is
then read off the call that was asked for (§3).
-/
import Roster.Proofs.Api.Calls
import Roster.Proofs.Service.Accounts
import Roster.Proofs.Text.Splitting
import Roster.Site

namespace Roster

open Service (Office Command)
open Api (Endpoint Route Does Wish)
open Http (Reply Content)

/-! ## §1 Endings -/

/-- The same surroundings, with the streams further on. -/
structure World.Later (w v : World) : Prop where
  rest : v = { w with supply := v.supply }
  before : w.supply.Before v.supply

namespace World.Later

variable {w v u : World}

theorem refl (w : World) : w.Later w := ⟨rfl, .refl _⟩

theorem trans (h : w.Later v) (k : v.Later u) : w.Later u where
  rest := by rw [k.rest, h.rest]
  before := h.before.trans k.before

theorem published (h : w.Later v) : v.published = w.published := by rw [h.rest]

theorem working (h : w.Later v) : v.working = w.working := by rw [h.rest]

theorem readClock (w : World) : w.Later w.readClock.2 :=
  ⟨rfl, rfl, rfl, rfl, Nat.le_refl _, Nat.le_refl _, Nat.le_succ _⟩

theorem drawId (w : World) : w.Later w.drawId.2 :=
  ⟨rfl, rfl, rfl, rfl, Nat.le_succ _, Nat.le_refl _, Nat.le_refl _⟩

end World.Later

/--
How a request may end, where `asked` was asked for: with a status, a content and
the surroundings after it. It is turned away only if it was not entitled to
that, or asked for nothing.
-/
inductive Ending (o : Office) (asked : Option Wish) (entitled : Prop)
    (w : World) : Nat → Content → World → Prop
  | turnedAway {status : Nat} {content : Content} {v : World} :
    w.Later v → status ≠ 200 → ¬(entitled ∧ asked.isSome = true) →
      Ending o asked entitled w status content v
  | done {x : Wish} {p : Program Reply} {v : World} :
    asked = some x → w.Later v → Does o p x →
      Ending o asked entitled w (p.run v).1.status (p.run v).1.content (p.run v).2

namespace Ending

variable {o : Office} {asked : Option Wish} {entitled : Prop}
  {w v u : World} {status : Nat} {content : Content}

/-- Layers that only draw from the streams change nothing about the ending. -/
theorem earlier (later : w.Later v) (h : Ending o asked entitled v status content u) :
    Ending o asked entitled w status content u := by
  cases h with
  | turnedAway after bad not => exact .turnedAway (later.trans after) bad not
  | done found after does => exact .done found (later.trans after) does

theorem of_imp {entitled' : Prop} (h : Ending o asked entitled w status content u)
    (imp : entitled' → entitled) : Ending o asked entitled' w status content u := by
  cases h with
  | turnedAway after bad not => exact .turnedAway after bad fun k => not ⟨imp k.1, k.2⟩
  | done found after does => exact .done found after does

/-- Nothing is published, unless a call was asked for and carried out. -/
theorem published_or (h : Ending o asked entitled w status content u) :
    u.published = w.published ∨ ∃ c v, asked = some (.ok (some c)) ∧ w.Later v ∧
      status = (c.reply (o.carry c v).1).status ∧ u = (o.carry c v).2 := by
  cases h with
  | turnedAway later => exact .inl later.published
  | @done x p v found later does =>
    cases x with
    | error f =>
      rw [Does.run_error does]
      exact .inl later.published
    | ok asked =>
      cases asked with
      | none => exact .inl ((Does.published_of_none does v).trans later.published)
      | some c =>
        rw [Does.run_call does]
        exact .inr ⟨c, v, found, later, rfl, rfl⟩

/-- No unit of work is left open. -/
theorem closed (h : Ending o asked entitled w status content u) (closed : w.working = none) :
    u.working = none := by
  cases h with
  | turnedAway later => exact later.working.trans closed
  | done => rfl

/-- Who is entitled to an error gets it. -/
theorem of_error {f : ApiError} (h : Ending o (some (.error f)) entitled w status content u)
    (may : entitled) : status = f.status ∧ content = .json f.body := by
  cases h with
  | turnedAway _ _ not => exact absurd ⟨may, rfl⟩ not
  | done found _ does =>
    cases found
    rw [Does.run_error does]
    exact ⟨Api.status_errorReply f, Api.content_errorReply f⟩

/-- Who is entitled to a call gets it. -/
theorem of_call {c : Command} (h : Ending o (some (.ok (some c))) entitled w status content u)
    (may : entitled) :
    ∃ v, w.Later v ∧ status = (c.reply (o.carry c v).1).status ∧
      content = (c.reply (o.carry c v).1).content ∧ u = (o.carry c v).2 := by
  cases h with
  | turnedAway _ _ not => exact absurd ⟨may, rfl⟩ not
  | @done x p v found later does =>
    cases found
    rw [Does.run_call does]
    exact ⟨v, later, rfl, rfl, rfl⟩

end Ending

/-! ## §2 Layers -/

namespace Serving

/-- How often the clock is read for the address of a request. -/
def addressReadings (r : Http.Request) : Nat := if (clientAddress r).isSome then 1 else 0

/-- How often the clock is read for the token of a request. -/
def tokenReadings (r : Http.Request) : Nat := if (bearer? r.headers).isSome then 1 else 0

end Serving

namespace Site

/-- The service with other surroundings. -/
def within (site : Site) (world : World) : Site := { site with world }

/-- A reading of the clock that is still to come. -/
def reading (site : Site) (n : Nat) : Reading :=
  site.world.supply.clock (site.world.supply.nextReading + n)

/-- What the token of a request says, judged at the given reading. -/
def claimsAt? (site : Site) (n : Nat) (r : Http.Request) : Option Token.Claims :=
  (Serving.bearer? r.headers).bind fun token =>
    site.setup.issuer.validate (site.reading n) token .access

/-- An allowance has room for the address of a request, at the given reading. -/
def HasRoomAt (site : Site) (l : Limiter) (n : Nat) (r : Http.Request) : Prop :=
  ∀ a ∈ Serving.clientAddress r, (l.check a (site.reading n)).1 = .admitted

/-- The service once one of its allowances has judged a request. -/
def judging (get : Site → Limiter) (set : Site → Limiter → Site) (r : Http.Request)
    (site : Site) : Site :=
  match Serving.clientAddress r with
  | none => site
  | some a =>
    let later := site.within site.world.readClock.2
    set later ((get later).check a (site.reading 0)).2

/-- One of the allowances of the service: where it is kept, and where nothing else is. -/
structure Keeps (get : Site → Limiter) (set : Site → Limiter → Site) : Prop where
  get_within : ∀ site world, get (site.within world) = get site
  world : ∀ site l, (set site l).world = site.world
  setup : ∀ site l, (set site l).setup = site.setup

theorem keeps_signIns : Keeps Site.signIns fun site l => { site with signIns := l } :=
  ⟨fun _ _ => rfl, fun _ _ => rfl, fun _ _ => rfl⟩

theorem keeps_requests : Keeps Site.requests fun site l => { site with requests := l } :=
  ⟨fun _ _ => rfl, fun _ _ => rfl, fun _ _ => rfl⟩

/-- The route that the path of a request is on, and what its parameter stands for. -/
def target? (site : Site) (r : Http.Request) : Option (Route × String) :=
  Route.find? (Route.all site.setup.settings.docs) r.path

/-- The allowance for signing in has room for a request, if that is what it is for. -/
def MaySignIn (site : Site) (n : Nat) (r : Http.Request) : Prop :=
  (∃ t ∈ site.target? r, t.1.endpoint.isSignIn = true) → site.HasRoomAt site.signIns n r

/-- What a request asks for in the name of a caller, if its path and method mean an operation. -/
def asked? (site : Site) (identity : Option Identity) (r : Http.Request) : Option Wish :=
  (site.target? r).bind fun t =>
    if t.1.verb.serves r.method then some (t.1.endpoint.call ⟨r, identity, t.2⟩) else none

/-- What the token of a request says, if it carries one that is accepted. -/
def claims? (site : Site) (r : Http.Request) : Option Token.Claims :=
  site.claimsAt? (Serving.addressReadings r) r

/-- The allowances let a request pass. -/
def Admits (site : Site) (r : Http.Request) : Prop :=
  site.HasRoomAt site.requests 0 r ∧
    site.MaySignIn (Serving.addressReadings r + Serving.tokenReadings r) r

variable {site other : Site} {r : Http.Request} {get : Site → Limiter}
  {set : Site → Limiter → Site}

theorem reading_readClock (n : Nat) :
    (site.within site.world.readClock.2).reading n = site.reading (n + 1) := by
  show site.world.supply.clock (site.world.supply.nextReading + 1 + n) = _
  rw [reading, Nat.add_assoc, Nat.add_comm 1]

theorem target?_congr (h : other.setup = site.setup) : other.target? r = site.target? r := by
  rw [target?, target?, h]

theorem asked?_congr (h : other.setup = site.setup) (identity : Option Identity) :
    other.asked? identity r = site.asked? identity r := by
  rw [asked?, asked?, target?_congr h]

theorem asked?_eq_some {identity : Option Identity} {x : Wish} :
    site.asked? identity r = some x ↔ ∃ t ∈ site.target? r, t.1.verb.serves r.method = true ∧
      t.1.endpoint.call ⟨r, identity, t.2⟩ = x := by
  simp [asked?, Option.bind_eq_some_iff]

theorem Keeps.setup_judging (k : Keeps get set) (r : Http.Request) (site : Site) :
    (site.judging get set r).setup = site.setup := by
  unfold judging
  cases Serving.clientAddress r with
  | none => rfl
  | some a => exact k.setup _ _

theorem Keeps.reading_judging (k : Keeps get set) (r : Http.Request) (site : Site) (n : Nat) :
    (site.judging get set r).reading n = site.reading (Serving.addressReadings r + n) := by
  unfold judging Serving.addressReadings
  cases Serving.clientAddress r with
  | none => simp
  | some a =>
    show (set _ _).reading n = site.reading (1 + n)
    rw [reading, k.world, ← reading, reading_readClock, Nat.add_comm]

theorem Keeps.later_judging (k : Keeps get set) (r : Http.Request) (site : Site) :
    site.world.Later (site.judging get set r).world := by
  unfold judging
  cases Serving.clientAddress r with
  | none => exact .refl _
  | some a =>
    show site.world.Later (set _ _).world
    rw [k.world]
    exact .readClock _

end Site

namespace Serving

variable {site : Site} {r : Http.Request} {get : Site → Limiter} {set : Site → Limiter → Site}

/-- Who sent a request, and the service once that has been judged. -/
theorem caller_eq (r : Http.Request) (site : Site) :
    caller r site = ((site.claimsAt? 0 r).map Token.Claims.identity,
      if (bearer? r.headers).isSome then site.within site.world.readClock.2 else site) := by
  unfold caller Site.claimsAt?
  cases bearer? r.headers <;> rfl

/-- What becomes of a request once an allowance has judged it. -/
def ruling (inner : Serving Reply) : Limiter.Verdict → Serving Reply
  | .admitted => inner
  | .refused wait => pure (tooMany wait)

/-- An allowance hands a request on or turns it away. -/
theorem limited_cases (k : Site.Keeps get set) (inner : Serving Reply) :
    (site.HasRoomAt (get site) 0 r ∧
      limited get set r inner site = inner (site.judging get set r)) ∨
    ¬site.HasRoomAt (get site) 0 r ∧ ∃ wait,
      limited get set r inner site = (tooMany wait, site.judging get set r) := by
  unfold limited Site.judging Site.HasRoomAt
  cases clientAddress r with
  | none => exact .inl ⟨by simp, rfl⟩
  | some a =>
    let later := site.within site.world.readClock.2
    have judged : ((get later).check a (site.reading 0)).1 =
        ((get site).check a (site.reading 0)).1 := by rw [k.get_within]
    show (_ ∧ ruling inner ((get later).check a (site.reading 0)).1 _ = _) ∨
      _ ∧ ∃ wait, ruling inner ((get later).check a (site.reading 0)).1 _ = _
    rw [judged]
    cases h : ((get site).check a (site.reading 0)).1 with
    | admitted => exact .inl ⟨fun b hb => Option.some.inj hb ▸ h, rfl⟩
    | refused wait => exact .inr ⟨fun room => by simp [room a rfl] at h, wait, rfl⟩

/-- The work on a request ends in one of the two ways. -/
def Ends (o : Office) (asked : Option Wish) (entitled : Prop)
    (work : Serving Reply) (site : Site) : Prop :=
  Ending o asked entitled site.world (work site).1.status (work site).1.content (work site).2.world

variable {o : Office} {asked : Option Wish} {entitled : Prop}

theorem limited_ends (k : Site.Keeps get set) {inner : Serving Reply}
    (h : Ends o asked entitled inner (site.judging get set r)) :
    Ends o asked (site.HasRoomAt (get site) 0 r ∧ entitled) (limited get set r inner) site := by
  have later := k.later_judging r site
  unfold Ends at h ⊢
  rcases limited_cases k inner with ⟨-, run⟩ | ⟨full, wait, run⟩
  · rw [run]
    exact (h.earlier later).of_imp And.right
  · rw [run]
    exact .turnedAway later (show 429 ≠ 200 by decide) fun both => full both.1.1

/-- The work that a route means, for a request with one of its methods. -/
def perform (r : Http.Request) (identity : Option Identity) (route : Route) (parameter : String) :
    Serving Reply :=
  if route.verb.serves r.method then fun site =>
    let (reply, world) :=
      (route.endpoint.answer site.setup site.traffic ⟨r, identity, parameter⟩).run site.world
    (reply, { site with world })
  else pure (Reply.empty 405)

theorem perform_ends (r : Http.Request) (identity : Option Identity) {route : Route}
    {parameter : String} (site : Site) (found : site.target? r = some (route, parameter)) :
    Ends site.setup.office (site.asked? identity r) True (perform r identity route parameter)
      site := by
  unfold Ends perform
  by_cases serves : route.verb.serves r.method = true
  · rw [if_pos serves]
    have asked : site.asked? identity r =
        some (route.endpoint.call ⟨r, identity, parameter⟩) := by
      simp [Site.asked?, found, serves]
    exact .done asked (.refl _) (Api.answer_does ..)
  · rw [if_neg serves]
    have nothing : site.asked? identity r = none := by simp [Site.asked?, found, serves]
    exact .turnedAway (.refl _) (show 405 ≠ 200 by decide) fun k => by simp [nothing] at k

/-- The operation of a route, for a caller. -/
def meant (r : Http.Request) (identity : Option Identity) : Option (Route × String) → Serving Reply
  | none => pure (Reply.empty 404)
  | some (route, parameter) =>
    if route.endpoint.isSignIn then
      limited Site.signIns (fun site l => { site with signIns := l }) r
        (perform r identity route parameter)
    else perform r identity route parameter

theorem operation_eq (r : Http.Request) (target : Option (Route × String)) (site : Site) :
    operation r target site = meant r (caller r site).1 target (caller r site).2 := by
  cases target with
  | none => rfl
  | some t =>
    obtain ⟨route, parameter⟩ := t
    rfl

theorem meant_ends (r : Http.Request) (identity : Option Identity) (site : Site) :
    Ends site.setup.office (site.asked? identity r) (site.MaySignIn 0 r)
      (meant r identity (site.target? r)) site := by
  cases found : site.target? r with
  | none =>
    have nothing : site.asked? identity r = none := by simp [Site.asked?, found]
    exact .turnedAway (.refl _) (show 404 ≠ 200 by decide) fun k => by simp [nothing] at k
  | some t =>
    obtain ⟨route, parameter⟩ := t
    rw [meant]
    split
    · rename_i signIn
      have setup := Site.keeps_signIns.setup_judging r site
      have h := perform_ends r identity _ ((Site.target?_congr setup).trans found)
      rw [setup, Site.asked?_congr setup] at h
      refine (limited_ends Site.keeps_signIns h).of_imp fun may => ⟨?_, trivial⟩
      exact may ⟨_, found, signIn⟩
    · exact (perform_ends r identity site found).of_imp fun _ => trivial

theorem operation_ends (r : Http.Request) (site : Site) :
    Ends site.setup.office (site.asked? ((site.claimsAt? 0 r).map Token.Claims.identity) r)
      (site.MaySignIn (tokenReadings r) r) (operation r (site.target? r)) site := by
  let identity := (site.claimsAt? 0 r).map Token.Claims.identity
  unfold Ends
  rw [operation_eq, caller_eq, tokenReadings]
  split
  · have h := meant_ends r identity (site.within site.world.readClock.2)
    refine Ending.of_imp (h.earlier (.readClock _)) fun may signIn a ha => ?_
    rw [Site.reading_readClock]
    exact may signIn a ha
  · exact meant_ends r identity site

/-- The layer that counts a request leaves the ending as it is. -/
theorem counted_ends {work : Serving Reply} (r : Http.Request) (target : Option (Route × String))
    (h : Ends o asked entitled work site) : Ends o asked entitled (counted r target work) site := h

/-- The allowance of all requests, then the token, then the operation. -/
theorem admitted_ends (r : Http.Request) (site : Site) :
    Ends site.setup.office (site.asked? ((site.claims? r).map Token.Claims.identity) r)
      (site.Admits r)
      (limited Site.requests (fun site l => { site with requests := l }) r
        (operation r (site.target? r))) site := by
  let judged := site.judging Site.requests (fun site l => { site with requests := l }) r
  have setup : judged.setup = site.setup := Site.keeps_requests.setup_judging r site
  have h := operation_ends r judged
  rw [setup, Site.asked?_congr setup, Site.target?_congr setup] at h
  have reading (n : Nat) : judged.reading n = site.reading (addressReadings r + n) :=
    Site.keeps_requests.reading_judging r site n
  have claims : judged.claimsAt? 0 r = site.claims? r := by
    rw [Site.claims?, Site.claimsAt?, Site.claimsAt?, reading, setup, Nat.add_zero]
  have signIns : judged.signIns = site.signIns := by
    show (Site.judging _ _ _ _).signIns = _
    unfold Site.judging
    cases clientAddress r <;> rfl
  rw [claims] at h
  refine (limited_ends Site.keeps_requests h).of_imp fun may => ⟨may.1, fun signIn a ha => ?_⟩
  rw [signIns, reading]
  exact may.2 (Site.target?_congr setup ▸ signIn) a ha

/-- A request with the identifier that it is given. -/
def tagged (r : Http.Request) (id : String) : Http.Request :=
  { r with headers := r.headers.put Http.requestIdName id }

theorem clientAddress_tagged (r : Http.Request) (id : String) :
    clientAddress (tagged r id) = clientAddress r := by
  unfold clientAddress tagged
  rw [Http.Headers.first?_put_of_ne _ _ (by decide)]

theorem bearer?_tagged (r : Http.Request) (id : String) :
    bearer? (tagged r id).headers = bearer? r.headers := by
  unfold bearer? tagged
  rw [Http.Headers.first?_put_of_ne _ _ (by decide)]

/-- The identifier changes nothing about what a request asks for, or whether it may. -/
theorem asked?_tagged (site : Site) (identity : Option Identity) (r : Http.Request) (id : String) :
    site.asked? identity (tagged r id) = site.asked? identity r := by
  unfold Site.asked?
  refine congrArg _ (funext fun t => ?_)
  have same := Endpoint.call_identified t.1.endpoint ⟨r, identity, t.2⟩ id
  exact congrArg (fun x => if t.1.verb.serves r.method then some x else none) same

theorem claims?_tagged (site : Site) (r : Http.Request) (id : String) :
    site.claims? (tagged r id) = site.claims? r := by
  unfold Site.claims? Site.claimsAt? addressReadings
  rw [bearer?_tagged, clientAddress_tagged]

theorem admits_tagged (site : Site) (r : Http.Request) (id : String) :
    site.Admits (tagged r id) ↔ site.Admits r := by
  unfold Site.Admits Site.MaySignIn Site.HasRoomAt addressReadings tokenReadings
  rw [bearer?_tagged, clientAddress_tagged]
  exact Iff.rfl

/-- The work on a request once it has its identifier. -/
theorem tagged_ends (r : Http.Request) (id : String) (site : Site) :
    Ends site.setup.office (site.asked? ((site.claims? r).map Token.Claims.identity) r)
      (site.Admits r)
      (counted (tagged r id) (site.target? r)
        (limited Site.requests (fun site l => { site with requests := l }) (tagged r id)
          (operation (tagged r id) (site.target? r)))) site := by
  have h := admitted_ends (tagged r id) site
  rw [asked?_tagged, claims?_tagged, admits_tagged] at h
  exact counted_ends _ _ h

theorem inner_ends (r : Http.Request) (site : Site) :
    Ends site.setup.office (site.asked? ((site.claims? r).map Token.Claims.identity) r)
      (site.Admits r) (inner r (site.target? r)) site := by
  unfold inner identified
  cases Http.callerId? r.headers with
  | some id => exact tagged_ends r id site
  | none =>
    have h := tagged_ends r site.world.drawId.1.text (site.within site.world.drawId.2)
    exact h.earlier (.drawId _)

/-- The content that is sent to a request whose path and method mean an operation. -/
def shownTo (r : Http.Request) (content : Content) : Content :=
  if r.method = "HEAD" then .empty else content

/-- A question about other origins is answered without any of the other layers. -/
theorem serve_options (h : r.method = "OPTIONS") : (serve r site).2 = site := by
  unfold serve
  simp only [h]
  rfl

/-- Any other request is answered by the layers behind, with headers on top. -/
theorem serve_eq (h : r.method ≠ "OPTIONS") (site : Site) :
    let answered := inner r (site.target? r) site
    serve r site = (sent r (site.target? r)
      (({ answered.1 with
        headers := answered.1.headers ++ site.setup.origins.headers r.headers } : Reply).putAll
          (allowHeader r (site.target? r))), answered.2) := by
  have other : (r.method == "OPTIONS") = false := by simp [h]
  unfold serve
  simp only [other]
  rfl

theorem status_sent (r : Http.Request) (target : Option (Route × String)) (reply : Reply) :
    (sent r target reply).status = reply.status := by
  unfold sent
  split <;> rfl

/-- The service as a whole: what is asked for is done, in the name of whom the token names. -/
theorem serve_ends (h : r.method ≠ "OPTIONS") (site : Site) :
    let asked := site.asked? ((site.claims? r).map Token.Claims.identity) r
    ∃ content, (asked.isSome = true → (serve r site).1.content = shownTo r content) ∧
      Ending site.setup.office asked (site.Admits r) site.world (serve r site).1.status content
        (serve r site).2.world := by
  intro asked
  rw [serve_eq h]
  refine ⟨(inner r (site.target? r) site).1.content, fun some => ?_, ?_⟩
  · obtain ⟨x, hx⟩ := Option.isSome_iff_exists.1 some
    obtain ⟨t, found, serves, -⟩ := Site.asked?_eq_some.1 hx
    have found : site.target? r = Option.some t := found
    have matched : (site.target? r).any (fun t => t.1.verb.serves r.method) = true := by
      simp [found, serves]
    rw [sent, shownTo, matched, Bool.and_true]
    by_cases head : r.method = "HEAD"
    · rw [if_pos head, if_pos (by simp [head])]
    · rw [if_neg head, if_neg (by simp [head])]
      rfl
  · rw [status_sent]
    exact inner_ends r site

end Serving

/-! ## §3 The boundary -/

namespace Site

variable {site : Site} {r : Http.Request}

/-- A call that is asked for is one that its operation makes. -/
theorem suits_of_asked {identity : Option Identity} {c : Command}
    (h : site.asked? identity r = some (.ok (some c))) :
    ∃ route parameter, site.target? r = some (route, parameter) ∧
      route.verb.serves r.method = true ∧
      route.endpoint.Suits ⟨r, identity, parameter⟩ c ∧
      (route.endpoint.isGuarded = true → identity ≠ none) := by
  obtain ⟨⟨route, parameter⟩, found, serves, called⟩ := asked?_eq_some.1 h
  refine ⟨route, parameter, found, serves, Endpoint.suits_call _ _ c called, ?_⟩
  rintro guarded rfl
  rw [Endpoint.call_unknown guarded rfl] at called
  cases called

/-- No route serves OPTIONS. -/
theorem method_of_asked {identity : Option Identity} {x : Wish}
    (h : site.asked? identity r = some x) : r.method ≠ "OPTIONS" := by
  intro options
  obtain ⟨t, -, serves, -⟩ := asked?_eq_some.1 h
  rw [options] at serves
  revert serves
  cases t.1.verb <;> decide

/-- What GET and HEAD ask for only looks at what is stored. -/
theorem isReading_of_asked {identity : Option Identity} {c : Command}
    (safe : r.method = "GET" ∨ r.method = "HEAD")
    (h : site.asked? identity r = some (.ok (some c))) : c.isReading = true := by
  obtain ⟨route, parameter, found, serves, suits, -⟩ := suits_of_asked h
  refine suits.reading (Api.isReading_of_get site.setup.settings.docs route ?_ ?_)
  · obtain ⟨q, hq, matched⟩ := List.exists_of_findSome?_eq_some found
    obtain ⟨_, -, e⟩ := Option.map_eq_some_iff.1 matched
    cases e
    exact hq
  · rcases safe with get | head
    · rw [get] at serves
      revert serves
      cases route.verb <;> decide
    · rw [head] at serves
      revert serves
      cases route.verb <;> decide

end Site

namespace Serving

variable {site : Site} {r : Http.Request}

/-- Whatever is published is the work of a call that was asked for in the name of the token. -/
theorem published_or (site : Site) (r : Http.Request) :
    (serve r site).2.world.published = site.world.published ∨
    ∃ c v, site.asked? ((site.claims? r).map Token.Claims.identity) r = some (.ok (some c)) ∧
      site.world.Later v ∧
      (serve r site).1.status = (c.reply (site.setup.office.carry c v).1).status ∧
      (serve r site).2.world = (site.setup.office.carry c v).2 := by
  by_cases h : r.method = "OPTIONS"
  · exact .inl (by rw [serve_options h])
  · obtain ⟨content, -, ends⟩ := serve_ends h site
    exact ends.published_or

theorem closed_serve (r : Http.Request) (closed : site.world.working = none) :
    (serve r site).2.world.working = none := by
  by_cases h : r.method = "OPTIONS"
  · rw [serve_options h]
    exact closed
  · obtain ⟨content, -, ends⟩ := serve_ends h site
    exact ends.closed closed

/-- Without a token, only calls about accounts can be made. -/
theorem tables_of_unknown (closed : site.world.working = none) (unknown : site.claims? r = none) :
    (serve r site).2.world.published.workspaces = site.world.published.workspaces ∧
      (serve r site).2.world.published.memberships = site.world.published.memberships := by
  rcases published_or site r with same | ⟨c, v, asked, later, -, run⟩
  · rw [same]
    exact ⟨rfl, rfl⟩
  · rw [unknown] at asked
    obtain ⟨route, parameter, -, -, suits, guarded⟩ := Site.suits_of_asked asked
    have signIn : c.isSignIn = true :=
      suits.signing (Bool.eq_false_iff.2 fun g => guarded g rfl)
    have apart := Command.sameApart_of_isSignIn site.setup.office signIn
      (later.working.trans closed)
    rw [run, ← later.published]
    exact ⟨apart.workspaces, apart.memberships⟩

/-- Without a token, an operation on workspaces and members is answered in one way. -/
theorem refused_of_unknown (unknown : site.claims? r = none) (may : site.Admits r) {route : Route}
    {parameter : String} (found : site.target? r = some (route, parameter))
    (serves : route.verb.serves r.method = true) (guarded : route.endpoint.isGuarded = true) :
    (serve r site).1.status = 401 ∧ (serve r site).1.content =
      shownTo r (.json (ApiError.unauthorized "Authentication required").body) := by
  have asked : site.asked? ((site.claims? r).map Token.Claims.identity) r =
      some (.error (.unauthorized "Authentication required")) := by
    rw [unknown]
    exact Site.asked?_eq_some.2 ⟨_, found, serves, Endpoint.call_unknown guarded rfl⟩
  obtain ⟨content, shown, ends⟩ := serve_ends (Site.method_of_asked asked) site
  rw [asked] at shown ends
  obtain ⟨status, body⟩ := ends.of_error may
  exact ⟨status, by rw [shown rfl, body]⟩

/-- What fails, and what only looks, changes nothing. -/
theorem published_of_unsuccessful
    (h : (serve r site).1.status ≠ 200 ∨ r.method ∈ ["GET", "HEAD", "OPTIONS"]) :
    (serve r site).2.world.published = site.world.published := by
  rcases published_or site r with same | ⟨c, v, asked, later, status, run⟩
  · exact same
  · rw [run, ← later.published]
    rcases h with failed | safe
    · cases outcome : (site.setup.office.carry c v).1 with
      | ok a =>
        rw [status, outcome] at failed
        exact absurd rfl failed
      | error f => exact Command.published_of_error _ outcome
    · have reads : c.isReading = true := by
        refine Site.isReading_of_asked ?_ asked
        simpa [Site.method_of_asked asked] using safe
      exact Command.published_of_isReading _ reads v

/-- With a token, the call that is asked for is carried out. -/
theorem carried_of_known {claims : Token.Claims} (known : site.claims? r = some claims)
    (may : site.Admits r) {c : Command}
    (asked : site.asked? (some claims.identity) r = some (.ok (some c))) :
    (∀ a ∈ c.actor?, a.user = claims.sub) ∧ ∃ w, site.world.Later w ∧
      let outcome := site.setup.office.carry c w
      (serve r site).1.status = (c.reply outcome.1).status ∧
        (serve r site).1.content = shownTo r (c.reply outcome.1).content ∧
        (serve r site).2.world = outcome.2 := by
  obtain ⟨content, shown, ends⟩ := serve_ends (Site.method_of_asked asked) site
  rw [known, Option.map_some, asked] at shown ends
  obtain ⟨w, later, status, body, run⟩ := ends.of_call may
  obtain ⟨route, parameter, -, -, suits, -⟩ := Site.suits_of_asked asked
  refine ⟨fun a ha => ?_, w, later, status, body ▸ shown rfl, run⟩
  cases suits.actor a ha
  rfl

end Serving

namespace Site

open Serving in
/--
What a request may do depends on the token it carries. Without an accepted one,
workspaces and memberships stay as they are, and an operation on them is
answered with 401 and one body, whatever else is sent. With one, the call that
is asked for, and no other, is carried out in the name of the token's subject.
And all tables stay as they are if the answer is not a success, and for each
request with GET, HEAD or OPTIONS.
-/
theorem token_boundary (site : Site) (r : Http.Request) (closed : site.world.working = none) :
    let reply := (serve r site).1
    let after := (serve r site).2.world
    (site.claims? r = none →
      after.published.workspaces = site.world.published.workspaces ∧
      after.published.memberships = site.world.published.memberships ∧
      (site.Admits r → ∀ route parameter, site.target? r = some (route, parameter) →
        route.verb.serves r.method = true → route.endpoint.isGuarded = true →
          reply.status = 401 ∧ reply.content =
            shownTo r (.json (ApiError.unauthorized "Authentication required").body))) ∧
    (∀ claims, site.claims? r = some claims → site.Admits r →
      match site.asked? (some claims.identity) r with
      | some (.ok (some c)) =>
        (∀ a ∈ c.actor?, a.user = claims.sub) ∧ ∃ w, site.world.Later w ∧
          let outcome := site.setup.office.carry c w
          reply.status = (c.reply outcome.1).status ∧
            reply.content = shownTo r (c.reply outcome.1).content ∧ after = outcome.2
      | _ => after.published = site.world.published) ∧
    (reply.status ≠ 200 ∨ r.method ∈ ["GET", "HEAD", "OPTIONS"] →
      after.published = site.world.published) ∧
    after.working = none := by
  refine ⟨fun unknown => ?_, fun claims known may => ?_, published_of_unsuccessful,
    closed_serve r closed⟩
  · obtain ⟨workspaces, memberships⟩ := tables_of_unknown closed unknown
    exact ⟨workspaces, memberships, fun may route parameter found serves guarded =>
      refused_of_unknown unknown may found serves guarded⟩
  · split
    · rename_i c asked
      exact carried_of_known known may asked
    · rename_i nothing
      rcases published_or site r with same | ⟨c, v, asked, -⟩
      · exact same
      · rw [known] at asked
        exact absurd asked (nothing c)

/-- A service over an empty store, from which nobody has asked anything yet. -/
def small : Site where
  setup := {
    settings := {
      listen := ⟨8080, .v4 0 0 0 0⟩
      mode := .dev
      serviceName := "roster"
      serviceVersion := "1"
      logLevel := "info"
      traces := none
      database := ⟨none, 1, 1⟩
      signing := ⟨"secret", 15, 30⟩
      origins := []
      docs := .disabled
      authAllowance := ⟨5, 60⟩
      allowance := ⟨100, 60⟩ }
    issuer := Office.small.issuer
    hasher := Office.small.hasher
    origins := .only [] }
  signIns := .ofQuota (.spread ⟨5, 60⟩)
  requests := .ofQuota (.spread ⟨100, 60⟩)
  traffic := none
  world := .idle .empty .counting

open Serving in
/-- Whoever is unknown is told so, and not that the path names no workspace. -/
theorem token_boundary_malformed :
    let r : Http.Request := ⟨"DELETE", "/v1/workspaces/delete/no-id", "", [], [], none⟩
    small.world.working = none ∧ small.claims? r = none ∧ small.Admits r ∧
      small.target? r =
        some (.of .delete "/v1/workspaces/delete/:id" .deleteWorkspace, "no-id") ∧
      (serve r small).2.world.published.workspaces = small.world.published.workspaces ∧
      (serve r small).1.status = 401 := by
  intro r
  have closed : small.world.working = none := rfl
  have unknown : small.claims? r = none := rfl
  have may : small.Admits r := by
    have nowhere : clientAddress r = none := rfl
    unfold Site.Admits Site.MaySignIn Site.HasRoomAt
    simp [nowhere]
  have found : small.target? r =
      some (.of .delete "/v1/workspaces/delete/:id" .deleteWorkspace, "no-id") := by
    have split (s : String) : s.splitOn "/" = (s.toList.splitOnP (· == '/')).map String.ofList :=
      Text.splitOn_singleton s '/'
    show Route.find? (Route.all .disabled) "/v1/workspaces/delete/no-id" = _
    simp only [Route.find?, Route.all, Route.common, Route.of, Route.piecesOf, split]
    decide +kernel
  obtain ⟨workspaces, -, refused⟩ := (token_boundary small r closed).1 unknown
  exact ⟨closed, unknown, may, found, workspaces, (refused may _ _ found rfl rfl).1⟩

end Site

end Roster
