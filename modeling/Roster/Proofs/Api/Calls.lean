/-
Roster.Proofs.Api.Calls — which call a request asks an operation for.

`Endpoint.call` reads a request: an error, a call, or nothing that concerns what
is stored. What an operation does is then said once, for all of them
(`answer_does`): it answers the error, or carries out exactly that call and
writes down its outcome. An operation on workspaces and members asks who the
caller is before it reads anything else, and its call is in their name.
-/
import Roster.Api.Answers
import Roster.Proofs.Service.Failures

namespace Roster

open Service (Office Command)
open Http (Reply)

/-! ## §1 Reading a request -/

namespace Service.Command

open Api (Message Created)

/-- The answer of a call, in writing. -/
def written : (c : Command) → c.Answer → Json.Value
  | signup .., p | login .., p | refresh .., p => p.toJson
  | create .., id => Created.toJson ⟨"Workspace created successfully", id⟩
  | update .., _ => Message.toJson ⟨"Workspace updated successfully"⟩
  | delete .., _ => Message.toJson ⟨"Workspace deleted successfully"⟩
  | change _ _ (.add ..), _ => Message.toJson ⟨"Member added successfully"⟩
  | change _ _ (.remove _), _ => Message.toJson ⟨"Member removed successfully"⟩
  | change _ _ (.changeRole ..), _ => Message.toJson ⟨"Member role updated successfully"⟩
  | change _ _ .leave, _ => Message.toJson ⟨"Left workspace successfully"⟩
  | change _ _ (.transferOwnership _), _ =>
    Message.toJson ⟨"Ownership transferred successfully"⟩
  | details .., d => d.toJson
  | list _, rows => .list (rows.map WorkspaceDetails.toJson)
  | check .., permitted => .bool permitted
  | count _, n => .ofNat n

/-- The outcome of a call as a reply. -/
def reply (c : Command) : Except Failure c.Answer → Reply
  | .ok a => Reply.json 200 (c.written a)
  | .error f => Api.errorReply (.ofFailure f)

end Service.Command

namespace Api

variable {α : Type} {setup : Setup} {e : Errand}

/-- What is read from a request: an error, or the call that is asked for, if there is one. -/
abbrev Wish := Except ApiError (Option Command)

def Setup.office (s : Setup) : Office := ⟨s.issuer, s.hasher⟩

namespace Errand

/-- What was read, or the error that is answered. -/
def read (r : Except Failure α) : Except ApiError α := r.mapError ApiError.ofFailure

/-- The caller, who must be known. -/
def caller (e : Errand) : Except ApiError Identity :=
  match e.identity with
  | some i => .ok i
  | none => .error (.unauthorized "Authentication required")

/-- The caller and the workspace that the path names. -/
def callerAt (e : Errand) : Except ApiError (Identity × Uuid) := do
  let i ← e.caller
  return (i, ← read (workspaceOf e.parameter))

end Errand

namespace Endpoint

open Errand (read)

/-- Whether an operation is on workspaces and their members. -/
def isGuarded : Endpoint → Bool
  | health | metrics | document | docsEntry | docsPage | signup | login | refresh => false
  | _ => true

/-- The call that an errand asks an operation for, if it asks for one. -/
def call (e : Errand) : Endpoint → Wish
  | health | metrics | document | docsEntry | docsPage => return none
  | signup => do
    let f ← read (formOf Signup e.request)
    return some (.signup f.name f.email f.password)
  | login => do
    let f ← read (formOf Login e.request)
    return some (.login f.email f.password)
  | refresh => do
    let f ← read (formOf Renewal e.request)
    return some (.refresh f.token)
  | createWorkspace => do
    let i ← e.caller
    let f ← read (formOf WorkspaceForm e.request)
    return some (.create f.name f.type i)
  | deleteWorkspace => do
    let (i, id) ← e.callerAt
    return some (.delete id i)
  | listWorkspaces => do
    let i ← e.caller
    return some (.list i)
  | workspaceDetails => do
    let (i, id) ← e.callerAt
    return some (.details id i)
  | updateWorkspace => do
    let (i, id) ← e.callerAt
    let f ← read (formOf WorkspaceForm e.request)
    return some (.update id i f.name f.type)
  | addMember => do
    let (i, id) ← e.callerAt
    let f ← read (formOf MemberRole e.request)
    return some (.change id i (.add f.email f.role))
  | removeMember => do
    let (i, id) ← e.callerAt
    let email ← read (queryField "email" e.request.query)
    return some (.change id i (.remove email))
  | changeRole => do
    let (i, id) ← e.callerAt
    let f ← read (formOf MemberRole e.request)
    return some (.change id i (.changeRole f.email f.role))
  | leave => do
    let (i, id) ← e.callerAt
    return some (.change id i .leave)
  | transferOwnership => do
    let (i, id) ← e.callerAt
    let email ← read (queryField "newOwnerEmail" e.request.query)
    return some (.change id i (.transferOwnership email))
  | countMembers => do
    let (_, id) ← e.callerAt
    return some (.count id)

end Endpoint

/-! ## §2 What operations do -/

/-- The reply to what became of the work on a request. -/
def settle : Except ApiError Reply → Program Reply
  | .ok reply => .done reply
  | .error error => .done (errorReply error)

def Work.finish (w : Work Reply) : Program Reply := (ExceptT.run w).bind settle

theorem status_errorReply (f : ApiError) : (errorReply f).status = f.status := by
  unfold errorReply
  split <;> rfl

theorem content_errorReply (f : ApiError) : (errorReply f).content = .json f.body := by
  unfold errorReply
  split <;> rfl

/-- The program does what was read from a request, and nothing else. -/
def Does (o : Office) (p : Program Reply) : Wish → Prop
  | .error f => p = .done (errorReply f)
  | .ok none => p.Asks fun r => r = .store .healthCheck
  | .ok (some c) => p = (ExceptT.run (c.action o)).bind fun outcome => .done (c.reply outcome)

namespace Does

variable {o : Office} {k : α → Work Reply} {g : α → Wish}

/-- The same is read by the operation. -/
theorem take (r : Except Failure α) (h : ∀ a, Does o (k a).finish (g a)) :
    Does o (Work.take r >>= k).finish (Errand.read r >>= g) := by
  cases r with
  | error f => exact rfl
  | ok a => exact h a

theorem caller {k : Identity → Work Reply} {g : Identity → Wish}
    (h : ∀ i, e.identity = some i → Does o (k i).finish (g i)) :
    Does o (Work.caller e >>= k).finish (e.caller >>= g) := by
  unfold Work.caller Errand.caller
  cases hi : e.identity with
  | none => exact rfl
  | some i => exact h i hi

theorem callerAt {k : Identity × Uuid → Work Reply} {g : Identity × Uuid → Wish}
    (h : ∀ i id, e.identity = some i → Does o (k (i, id)).finish (g (i, id))) :
    Does o (Work.callerAt e >>= k).finish (e.callerAt >>= g) := by
  rw [Work.callerAt, Errand.callerAt, bind_assoc, bind_assoc]
  refine caller fun i hi => ?_
  rw [bind_assoc, bind_assoc]
  refine take _ fun id => ?_
  rw [pure_bind, pure_bind]
  exact h i id hi

/-- The call is the last thing that is done, and its answer is written down. -/
theorem act {c : Command} (f : c.Answer → Json.Value) (h : ∀ a, f a = c.written a) :
    Does o (Work.act (c.action o) >>= fun a => done (f a)).finish (.ok (some c)) := by
  have shape : (Work.act (c.action o) >>= fun a => done (f a)).finish =
      (((ExceptT.run (c.action o)).bind fun r => .done (r.mapError ApiError.ofFailure)).bind
        (ExceptT.bindCont fun a => done (f a))).bind settle := rfl
  rw [shape, Program.bind_assoc, Program.bind_assoc]
  refine congrArg _ (funext fun outcome => ?_)
  cases outcome with
  | error f => rfl
  | ok a => exact congrArg (fun v => Program.done (Reply.json 200 v)) (h a)

variable {p : Program Reply} {f : ApiError} {c : Command}

theorem run_error (h : Does o p (.error f)) (w : World) : p.run w = (errorReply f, w.close) := by
  rw [show p = .done (errorReply f) from h]
  rfl

/-- What a program is that carries out a call: the call, and its outcome in writing. -/
theorem run_call (h : Does o p (.ok (some c))) (w : World) :
    p.run w = (c.reply (o.carry c w).1, (o.carry c w).2) := by
  rw [show p = (ExceptT.run (c.action o)).bind fun outcome => .done (c.reply outcome) from h,
    Program.run, Program.runOpen_bind]
  rfl

theorem published_of_none (h : Does o p (.ok none)) (w : World) :
    (p.run w).2.published = w.published := by
  have asks : p.Asks fun r => r = .store .healthCheck := h
  have step (v : World) (r : Request) (hr : r = .store .healthCheck)
      (hv : v.published = w.published) : (v.answer r).2.published = w.published :=
    (World.published_answer (hr ▸ rfl) v).trans hv
  have last : (p.runOpen w).2.published = w.published :=
    asks.passes step rfl _ (Program.end_mem_passes p w)
  exact last

end Does

/-- What an operation does is what was asked of it. -/
theorem answer_does (setup : Setup) (traffic : Option Http.Traffic) (e : Errand)
    (endpoint : Endpoint) :
    Does setup.office (endpoint.answer setup traffic e) (endpoint.call e) := by
  show Does setup.office (endpoint.work setup traffic e).finish (endpoint.call e)
  cases endpoint with
  | health =>
    show Program.Asks (fun r => r = .store .healthCheck) _
    exact .ask rfl fun _ => .done _
  | metrics | document | docsEntry | docsPage => exact .done _
  | signup =>
    refine .take _ fun f => ?_
    exact .act (c := .signup f.name f.email f.password) Token.Pair.toJson fun _ => rfl
  | login =>
    refine .take _ fun f => ?_
    exact .act (c := .login f.email f.password) Token.Pair.toJson fun _ => rfl
  | refresh =>
    refine .take _ fun f => ?_
    exact .act (c := .refresh f.token) Token.Pair.toJson fun _ => rfl
  | createWorkspace =>
    refine .caller fun i _ => .take _ fun f => ?_
    exact .act (c := .create f.name f.type i) _ fun _ => rfl
  | deleteWorkspace =>
    refine .callerAt fun i id _ => ?_
    exact .act (c := .delete id i) _ fun _ => rfl
  | listWorkspaces =>
    refine .caller fun i _ => ?_
    exact .act (c := .list i) _ fun _ => rfl
  | workspaceDetails =>
    refine .callerAt fun i id _ => ?_
    exact .act (c := .details id i) _ fun _ => rfl
  | updateWorkspace =>
    refine .callerAt fun i id _ => .take _ fun f => ?_
    exact .act (c := .update id i f.name f.type) _ fun _ => rfl
  | addMember =>
    refine .callerAt fun i id _ => .take _ fun f => ?_
    exact .act (c := .change id i (.add f.email f.role)) _ fun _ => rfl
  | removeMember =>
    refine .callerAt fun i id _ => .take _ fun email => ?_
    exact .act (c := .change id i (.remove email)) _ fun _ => rfl
  | changeRole =>
    refine .callerAt fun i id _ => .take _ fun f => ?_
    exact .act (c := .change id i (.changeRole f.email f.role)) _ fun _ => rfl
  | leave =>
    refine .callerAt fun i id _ => ?_
    exact .act (c := .change id i .leave) _ fun _ => rfl
  | transferOwnership =>
    refine .callerAt fun i id _ => .take _ fun email => ?_
    exact .act (c := .change id i (.transferOwnership email)) _ fun _ => rfl
  | countMembers =>
    refine .callerAt fun _ id _ => ?_
    exact .act (c := .count id) _ fun _ => rfl

/-! ## §3 What is read -/

/-- Whether an operation only looks at what is stored. -/
def Endpoint.isReading : Endpoint → Bool
  | health | metrics | document | docsEntry | docsPage => true
  | listWorkspaces | workspaceDetails | countMembers => true
  | _ => false

/-- What is asked for with GET changes nothing. -/
theorem isReading_of_get (docs : Settings.Docs) :
    ∀ route ∈ Route.all docs, route.verb = .get → route.endpoint.isReading = true := by
  cases docs <;> simp [Route.all, Route.documentation, Route.common, Route.of, Endpoint.isReading]

/-- All calls that may be read have the property. -/
def Yields (P : Command → Prop) (x : Wish) : Prop :=
  ∀ c, x = .ok (some c) → P c

namespace Yields

variable {P : Command → Prop} {g : α → Wish}

theorem call {c : Command} (h : P c) : Yields P (.ok (some c)) := by
  rintro _ ⟨⟩
  exact h

theorem read (r : Except Failure α) (h : ∀ a, Yields P (g a)) :
    Yields P (Errand.read r >>= g) := by
  cases r with
  | error f => exact nofun
  | ok a => exact h a

theorem caller {g : Identity → Wish}
    (h : ∀ i, e.identity = some i → Yields P (g i)) : Yields P (e.caller >>= g) := by
  unfold Errand.caller
  cases hi : e.identity with
  | none => exact nofun
  | some i => exact h i hi

theorem callerAt {g : Identity × Uuid → Wish}
    (h : ∀ i id, e.identity = some i → Yields P (g (i, id))) : Yields P (e.callerAt >>= g) := by
  rw [Errand.callerAt, bind_assoc]
  refine caller fun i hi => ?_
  rw [bind_assoc]
  exact read _ fun id => h i id hi

end Yields

namespace Endpoint

variable {endpoint : Endpoint} {c : Command}

/-- What can be said of the call that an operation makes. -/
structure Suits (endpoint : Endpoint) (e : Errand) (c : Command) : Prop where
  /-- It is in the name of whoever sent the request. -/
  actor : ∀ a ∈ c.actor?, e.identity = some a
  reading : endpoint.isReading = true → c.isReading = true
  signing : endpoint.isGuarded = false → c.isSignIn = true

theorem suits_call (endpoint : Endpoint) (e : Errand) :
    Yields (Suits endpoint e) (endpoint.call e) := by
  cases endpoint with
  | health | metrics | document | docsEntry | docsPage => exact nofun
  | signup | login | refresh => exact .read _ fun f => .call ⟨nofun, nofun, fun _ => rfl⟩
  | createWorkspace =>
    exact .caller fun i hi => .read _ fun f => .call ⟨fun _ ha => ha ▸ hi, nofun, nofun⟩
  | listWorkspaces => exact .caller fun i hi => .call ⟨fun _ ha => ha ▸ hi, fun _ => rfl, nofun⟩
  | workspaceDetails =>
    exact .callerAt fun i id hi => .call ⟨fun _ ha => ha ▸ hi, fun _ => rfl, nofun⟩
  | countMembers => exact .callerAt fun i id hi => .call ⟨nofun, fun _ => rfl, nofun⟩
  | deleteWorkspace | leave =>
    exact .callerAt fun i id hi => .call ⟨fun _ ha => ha ▸ hi, nofun, nofun⟩
  | updateWorkspace | addMember | changeRole | removeMember | transferOwnership =>
    exact .callerAt fun i id hi => .read _ fun f => .call ⟨fun _ ha => ha ▸ hi, nofun, nofun⟩

/-- Nothing is read from a request on a workspace before its caller is known. -/
theorem call_unknown (h : endpoint.isGuarded = true) (unknown : e.identity = none) :
    endpoint.call e = .error (.unauthorized "Authentication required") := by
  have caller : e.caller = .error (.unauthorized "Authentication required") := by
    rw [Errand.caller, unknown]
  have callerAt : e.callerAt = .error (.unauthorized "Authentication required") := by
    rw [Errand.callerAt, caller]
    rfl
  cases endpoint with
  | health | metrics | document | docsEntry | docsPage | signup | login | refresh => cases h
  | createWorkspace | listWorkspaces => rw [call, caller]; rfl
  | _ => rw [call, callerAt]; rfl

/-- The identifier that a request is given is not looked at. -/
theorem formOf_identified (α : Type) [Form α] (r : Http.Request) (id : String) :
    formOf α { r with headers := r.headers.put Http.requestIdName id } = formOf α r := by
  have same : saysJson { r with headers := r.headers.put Http.requestIdName id } = saysJson r := by
    unfold saysJson
    rw [Http.Headers.first?_put_of_ne _ _ (by decide)]
  unfold formOf
  rw [same]

theorem call_identified (endpoint : Endpoint) (e : Errand) (id : String) :
    endpoint.call { e with request.headers := e.request.headers.put Http.requestIdName id } =
      endpoint.call e := by
  cases endpoint <;> simp only [call, formOf_identified] <;> rfl

end Endpoint

end Api

end Roster
