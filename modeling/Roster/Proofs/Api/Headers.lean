/-
Roster.Proofs.Api.Headers — what stands on every answer.

The identifier of a request is put on by one layer, the headers for browsers by
the one around it, and what is said about web origins and methods comes last.
A layer that puts headers in place decides the values of their names and leaves
all others alone (`all_putAll_of_mem`, `all_putAll_of_not_mem`), so a name keeps
the value of the outermost layer that puts it, whatever the layers behind have
answered (`all_serve`, `all_inner`). An identifier that the service draws comes
from a stream that only ever goes on, so it is drawn once (`World.drawId_ne`,
`before_after`).
-/
import Mathlib.Algebra.Ring.Int.Defs
import Roster.Proofs.Api.Fields
import Roster.Proofs.Uuid

namespace Roster

open Http (Headers Reply)
open Api (Route)

/-! ## §1 Values of a name -/

namespace Http.Headers

variable {hs more : Headers} {name : String}

theorem all_append : Headers.all (hs ++ more) name = hs.all name ++ more.all name :=
  List.filterMap_append

theorem all_eq_nil (h : name ∉ hs.map Prod.fst) : hs.all name = [] := by
  refine List.filterMap_eq_nil_iff.2 fun row mem => if_neg ?_
  rintro rfl
  exact h (List.mem_map_of_mem mem)

theorem putAll_cons (row : String × String) :
    hs.putAll (row :: more) = (hs.put row.1 row.2).putAll more := rfl

theorem all_putAll_of_not_mem (h : name ∉ more.map Prod.fst) :
    (hs.putAll more).all name = hs.all name := by
  induction more generalizing hs with
  | nil => rfl
  | cons row rest ih =>
    rw [List.map_cons, List.mem_cons, not_or] at h
    rw [putAll_cons, ih h.2, all_put_of_ne _ _ h.1]

/-- Of names that differ, each has the one value that is put. -/
theorem all_putAll_of_mem {value : String} (differ : (more.map Prod.fst).Nodup)
    (mem : (name, value) ∈ more) : (hs.putAll more).all name = [value] := by
  induction more generalizing hs with
  | nil => cases mem
  | cons row rest ih =>
    rw [List.map_cons, List.nodup_cons] at differ
    rw [putAll_cons]
    rcases List.mem_cons.1 mem with rfl | mem
    · rw [all_putAll_of_not_mem differ.1, all_put]
    · exact ih differ.2 mem

end Http.Headers

namespace Http.Reply

theorem headers_put (reply : Reply) (name value : String) :
    (reply.put name value).headers = reply.headers.put name value := rfl

theorem headers_putAll (reply : Reply) (hs : Headers) :
    (reply.putAll hs).headers = reply.headers.putAll hs := rfl

end Http.Reply

/-! ## §2 Identifiers -/

namespace Http

/-- What a caller may choose to call a request: visible, and neither empty nor long. -/
structure UsableId (id : String) : Prop where
  length : 1 ≤ id.length ∧ id.length ≤ 128
  visible : ∀ c ∈ id.toList, 0x20 ≤ c.toNat ∧ c.toNat ≤ 0x7E ∨ c = '\t'

theorem isVisible_iff {c : Char} :
    isVisible c = true ↔ 0x20 ≤ c.toNat ∧ c.toNat ≤ 0x7E ∨ c = '\t' := by
  have tab : c.toNat = 0x09 ↔ c = '\t' := by
    rw [← Char.toNat_inj]
    rfl
  rw [← tab]
  simp only [isVisible, Bool.or_eq_true, Bool.and_eq_true, decide_eq_true_eq, beq_iff_eq]
  omega

theorem callerId?_eq_some {hs : Headers} {id : String} :
    callerId? hs = some id ↔ hs.first? "x-request-id" = some id ∧ UsableId id := by
  have visible {v : String} : visible? v = some id ↔
      v = id ∧ ∀ c ∈ id.toList, 0x20 ≤ c.toNat ∧ c.toNat ≤ 0x7E ∨ c = '\t' := by
    simp only [← isVisible_iff, ← List.all_eq_true]
    unfold visible?
    split
    · rename_i all
      exact ⟨fun same => Option.some.inj same ▸ ⟨rfl, all⟩, fun h => congrArg some h.1⟩
    · rename_i not
      exact ⟨fun none => by simp at none, fun h => absurd (h.1 ▸ h.2) not⟩
  have length : (id != "" && decide (id.length ≤ greatestRequestId)) = true ↔
      1 ≤ id.length ∧ id.length ≤ 128 := by
    rw [Bool.and_eq_true, bne_iff_ne, decide_eq_true_eq, Nat.one_le_iff_ne_zero, ne_eq, ne_eq,
      String.length_eq_zero_iff]
    rfl
  rw [callerId?, Option.filter_eq_some_iff, Option.bind_eq_some_iff, length]
  simp only [visible]
  constructor
  · rintro ⟨⟨v, first, rfl, all⟩, short⟩
    exact ⟨first, short, all⟩
  · rintro ⟨first, short, all⟩
    exact ⟨⟨id, first, rfl, all⟩, short⟩

end Http

/-! ## §3 Streams -/

theorem Ending.before {o : Service.Office} {asked : Option Api.Wish} {entitled : Prop}
    {w v : World} {status : Nat} {content : Http.Content}
    (h : Ending o asked entitled w status content v) : w.supply.Before v.supply := by
  cases h with
  | turnedAway later => exact later.before
  | done _ later _ => exact later.before.trans (Program.before_run _ _)

/-- Where the stream repeats nothing, what has been drawn is not drawn again. -/
theorem World.drawId_ne {w v : World} (differ : Function.Injective w.supply.id)
    (later : w.drawId.2.supply.Before v.supply) : v.drawId.1 ≠ w.drawId.1 := by
  have stream : v.supply.id = w.supply.id := later.id
  have further : w.supply.nextId + 1 ≤ v.supply.nextId := later.nextId
  show v.supply.id v.supply.nextId ≠ w.supply.id w.supply.nextId
  rw [stream]
  exact differ.ne (by omega)

/-! ## §4 Layers -/

namespace Serving

variable {site : Site} {r : Http.Request}

/-- The identifier of a request, and the service once there is one. -/
def identifier (r : Http.Request) (site : Site) : String × Site :=
  match Http.callerId? r.headers with
  | some id => (id, site)
  | none => (site.world.drawId.1.text, site.within site.world.drawId.2)

/-- The layers that deal with a request once it has its identifier. -/
def behind (r : Http.Request) (target : Option (Route × String)) : Serving Reply :=
  counted r target
    (limited Site.requests (fun site l => { site with requests := l }) r (operation r target))

/-- The layers behind, the identifier on their answer, and the headers for browsers on that. -/
theorem inner_eq (r : Http.Request) (target : Option (Route × String)) (site : Site) :
    let id := (identifier r site).1
    let worked := behind (tagged r id) target (identifier r site).2
    inner r target site =
      ((worked.1.put Http.requestIdName id).putAll (Http.securityHeaders r.path), worked.2) := by
  unfold inner identified identifier
  cases Http.callerId? r.headers <;> rfl

theorem headers_inner (r : Http.Request) (target : Option (Route × String)) (site : Site) :
    let id := (identifier r site).1
    let worked := behind (tagged r id) target (identifier r site).2
    (inner r target site).1.headers =
      (worked.1.headers.put Http.requestIdName id).putAll (Http.securityHeaders r.path) := by
  intro id worked
  rw [inner_eq, Reply.headers_putAll, Reply.headers_put]

theorem securityHeaders_nodup (path : String) :
    ((Http.securityHeaders path).map Prod.fst).Nodup := by
  unfold Http.securityHeaders
  cases Http.isDocumentation path <;> decide

/-- The identifier is put on before the headers for browsers, which leave it alone. -/
theorem all_inner_id (r : Http.Request) (target : Option (Route × String)) (site : Site) :
    (inner r target site).1.headers.all "x-request-id" = [(identifier r site).1] := by
  have apart : "x-request-id" ∉ (Http.securityHeaders r.path).map Prod.fst := by
    unfold Http.securityHeaders
    cases Http.isDocumentation r.path <;> decide
  rw [headers_inner, Headers.all_putAll_of_not_mem apart]
  exact Headers.all_put ..

theorem all_inner {name value : String} (target : Option (Route × String)) (site : Site)
    (mem : (name, value) ∈ Http.securityHeaders r.path) :
    (inner r target site).1.headers.all name = [value] := by
  rw [headers_inner]
  exact Headers.all_putAll_of_mem (securityHeaders_nodup _) mem

/-- The names of what the outermost layers say. -/
def outerNames : List String := ["access-control-allow-origin", "vary", "allow"]

theorem headers_sent (r : Http.Request) (target : Option (Route × String)) (reply : Reply) :
    (sent r target reply).headers = reply.headers := by
  unfold sent
  split <;> rfl

theorem names_originsHeaders (o : Http.Origins) (hs : Headers) :
    ∀ row ∈ o.headers hs, row.1 ∈ outerNames := by
  unfold Http.Origins.headers Http.Origins.allowed
  intro row mem
  rcases List.mem_append.1 mem with allowed | vary
  · split at allowed
    · cases List.mem_singleton.1 allowed
      decide
    · split at allowed
      · split at allowed
        · cases List.mem_singleton.1 allowed
          simp [outerNames]
        · cases allowed
      · cases allowed
  · cases List.mem_singleton.1 vary
    decide

theorem names_allowHeader (r : Http.Request) (target : Option (Route × String)) :
    ∀ row ∈ allowHeader r target, row.1 ∈ outerNames := by
  unfold allowHeader
  intro row mem
  split at mem
  · split at mem
    · cases mem
    · cases List.mem_singleton.1 mem
      simp [outerNames]
  · cases mem

/-- No other name gets a value from the outermost layers. -/
theorem all_serve (h : r.method ≠ "OPTIONS") (site : Site) {name : String}
    (other : name ∉ outerNames) :
    (serve r site).1.headers.all name = (inner r (site.target? r) site).1.headers.all name := by
  have apart {more : Headers} (names : ∀ row ∈ more, row.1 ∈ outerNames) :
      name ∉ more.map Prod.fst := by
    intro mem
    obtain ⟨row, found, rfl⟩ := List.mem_map.1 mem
    exact other (names row found)
  have origins := apart (names_originsHeaders site.setup.origins r.headers)
  have allow := apart (names_allowHeader r (site.target? r))
  rw [serve_eq h, headers_sent, Reply.headers_putAll, Headers.all_putAll_of_not_mem allow,
    Headers.all_append, Headers.all_eq_nil origins, List.append_nil]

/-! ## §5 Fresh identifiers -/

/-- The streams only ever go on. -/
theorem before_serve (r : Http.Request) (site : Site) :
    site.world.supply.Before (serve r site).2.world.supply := by
  by_cases h : r.method = "OPTIONS"
  · rw [serve_options h]
    exact .refl _
  · obtain ⟨_, _, ends⟩ := serve_ends h site
    exact ends.before

theorem before_behind (r : Http.Request) (id : String) (site : Site) :
    site.world.supply.Before (behind (tagged r id) (site.target? r) site).2.world.supply :=
  (tagged_ends r id site).before

theorem before_after (rs : List Http.Request) (site : Site) :
    site.world.supply.Before (site.after rs).world.supply := by
  induction rs generalizing site with
  | nil => exact .refl _
  | cons r rs ih => exact (before_serve r site).trans (ih _)

/-! ## §6 Every answer -/

/--
The answer to any request but one with OPTIONS, in any state of the service. It
has one identifier: the first that the caller sent if that is usable, and else
the text of a UUID that is drawn for it, which no later request is given. That is
also the one that the layers behind find on the request, and they give the answer
its status. And it has the headers that tell browsers to be strict, each with one
value, of which two are less strict for the pages that document the service.
-/
theorem boundary_headers (r : Http.Request) (h : r.method ≠ "OPTIONS") (site : Site) :
    let reply := (serve r site).1
    (∃ id begun,
      (∀ v, r.headers.first? "x-request-id" = some v → Http.UsableId v → id = v ∧ begun = site) ∧
      ((∀ v, r.headers.first? "x-request-id" = some v → ¬Http.UsableId v) →
        Uuid.parse id = .ok site.world.drawId.1 ∧ id = site.world.drawId.1.text ∧
          begun = site.within site.world.drawId.2 ∧
          (Function.Injective site.world.supply.id →
            ∀ rs, ((serve r site).2.after rs).world.drawId.1 ≠ site.world.drawId.1)) ∧
      reply.headers.all "x-request-id" = [id] ∧
      (tagged r id).headers.all "x-request-id" = [id] ∧
      let worked := behind (tagged r id) (site.target? r) begun
      reply.status = worked.1.status ∧ (serve r site).2 = worked.2) ∧
    reply.headers.all "x-content-type-options" = ["nosniff"] ∧
    reply.headers.all "strict-transport-security" = ["max-age=31536000; includeSubDomains"] ∧
    reply.headers.all "cache-control" = ["no-store"] ∧
    if r.path.startsWith "/docs" ∨ r.path = "/.well-known/openapi.json" then
      reply.headers.all "x-frame-options" = ["SAMEORIGIN"] ∧
      reply.headers.all "content-security-policy" =
        ["default-src 'self'; script-src 'self' 'unsafe-inline'; " ++
          "style-src 'self' 'unsafe-inline'; img-src 'self' data:; font-src 'self'; " ++
          "connect-src 'self'"]
    else
      reply.headers.all "x-frame-options" = ["DENY"] ∧
      reply.headers.all "content-security-policy" =
        ["default-src 'none'; frame-ancestors 'none'"] := by
  intro reply
  have put {name value : String} (other : name ∉ outerNames)
      (mem : (name, value) ∈ Http.securityHeaders r.path) : reply.headers.all name = [value] :=
    (all_serve h site other).trans (all_inner _ site mem)
  have common {name value : String} (other : name ∉ outerNames)
      (mem : (name, value) ∈ Http.commonHeaders) : reply.headers.all name = [value] :=
    put other (List.mem_append_left _ mem)
  refine ⟨⟨(identifier r site).1, (identifier r site).2, ?_, ?_, ?_, ?_, ?_⟩,
    common (by decide) (by decide), common (by decide) (by decide),
    common (by decide) (by decide), ?_⟩
  · intro v first usable
    rw [identifier, Http.callerId?_eq_some.2 ⟨first, usable⟩]
    exact ⟨rfl, rfl⟩
  · intro unusable
    have none : Http.callerId? r.headers = none := by
      refine Option.eq_none_iff_forall_ne_some.2 fun v chosen => ?_
      obtain ⟨first, usable⟩ := Http.callerId?_eq_some.1 chosen
      exact unusable v first usable
    have drawn : identifier r site =
        (site.world.drawId.1.text, site.within site.world.drawId.2) := by
      rw [identifier, none]
    rw [drawn]
    refine ⟨Uuid.parse_text _, rfl, rfl, fun differ rs => World.drawId_ne differ ?_⟩
    have worked : site.world.drawId.2.supply.Before (serve r site).2.world.supply := by
      rw [serve_eq h, inner_eq, drawn]
      exact before_behind r _ (site.within site.world.drawId.2)
    exact worked.trans (before_after rs _)
  · exact (all_serve h site (by decide)).trans (all_inner_id ..)
  · exact Headers.all_put ..
  · intro worked
    show (serve r site).1.status = _ ∧ _
    rw [serve_eq h, status_sent, inner_eq]
    exact ⟨rfl, rfl⟩
  · have documentation : Http.isDocumentation r.path = true ↔
        r.path.startsWith "/docs" ∨ r.path = "/.well-known/openapi.json" := by
      simp [Http.isDocumentation]
    unfold Http.securityHeaders at put
    split
    · rename_i documents
      rw [if_pos (documentation.2 documents)] at put
      exact ⟨put (by decide) (List.mem_append_right _ (by decide +kernel)),
        put (by decide) (List.mem_append_right _ (by decide +kernel))⟩
    · rename_i ordinary
      rw [if_neg (ordinary ∘ documentation.1)] at put
      exact ⟨put (by decide) (List.mem_append_right _ (by decide +kernel)),
        put (by decide) (List.mem_append_right _ (by decide +kernel))⟩

/-- A request that is refused for its address, and has two identifiers and an unknown path. -/
theorem boundary_headers_refused :
    let r : Http.Request :=
      ⟨"GET", "/nope", "", [("x-request-id", "no. 1\t"), ("x-request-id", "2")], [],
        some (.v4 10 0 0 1)⟩
    let site : Site := { Site.small with
      requests := ⟨.spread ⟨1, 60⟩, [(.v4 10 0 0 1, ⟨2 * 10 ^ 18⟩)]⟩ }
    let reply := (serve r site).1
    r.method ≠ "OPTIONS" ∧ reply.status = 429 ∧ reply.headers.all "x-request-id" = ["no. 1\t"] ∧
      reply.headers.all "x-frame-options" = ["DENY"] := by
  intro r site reply
  have method : r.method ≠ "OPTIONS" := by decide
  obtain ⟨⟨id, begun, own, -, marked, -⟩, -, -, -, policy⟩ := boundary_headers r method site
  have visible : "no. 1\t".toList.all Http.isVisible = true := by decide +kernel
  obtain ⟨rfl, -⟩ := own "no. 1\t" rfl
    ⟨by decide, fun c mem => Http.isVisible_iff.1 (List.all_eq_true.1 visible c mem)⟩
  rw [if_neg (by decide +kernel)] at policy
  exact ⟨method, by decide +kernel, marked, policy.1⟩

end Serving

end Roster
