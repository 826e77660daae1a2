/-
Roster.Proofs.Service.UnitOfWork — every call is one unit of work at most.

The shape of a call as a program: draws only until it opens a unit of work
(`Program.Single`), then lookups, saves and draws, and a commit after which it
does nothing but return that it succeeded (`Program.Inside`). Nothing is asked
of the store before `begin` and nothing after `commit`. Both shapes are closed
under the steps that calls are made of (§2), and so every call has them
(`Command.single`).
-/
import Roster.Proofs.Service.Command

namespace Roster

/-! ## §1 Shapes -/

/-- The calls that a unit of work is made of, between its two ends. -/
def Call.isInner : Call → Bool
  | healthCheck | begin | commit => false
  | _ => true

namespace Request

/-- Whether a request leaves the store alone. -/
def isDraw : Request → Bool
  | store _ => false
  | drawId | drawSalt | readClock => true

/-- Whether a request may stand between the two ends of a unit of work. -/
def isInner : Request → Bool
  | store c => c.isInner
  | drawId | drawSalt | readClock => true

theorem isInner_of_isDraw {r : Request} (h : r.isDraw = true) : r.isInner = true := by
  cases r with
  | store c => cases h
  | _ => rfl

end Request

namespace Program

variable {α β : Type}

/-- The rest of a program inside its unit of work; a commit is followed by an outcome in `P`. -/
inductive Inside (P : α → Prop) : Program α → Prop
  | done (a : α) : Inside P (.done a)
  | commit {next : Except Store.Error Unit → Program α} (a : α) :
    P a → next (.ok ()) = .done a → Inside P (.ask (.store .commit) next)
  | ask {r : Request} {next : r.Answer → Program α} :
    r.isInner = true → (∀ x, Inside P (next x)) → Inside P (.ask r next)

/-- A program with one unit of work at most, before it opens it. -/
inductive Single (P : α → Prop) : Program α → Prop
  | done (a : α) : Single P (.done a)
  | begin {next : Except Store.Error Unit → Program α} :
    Inside P (next (.ok ())) → Single P (.ask (.store .begin) next)
  | ask {r : Request} {next : r.Answer → Program α} :
    r.isDraw = true → (∀ x, Single P (next x)) → Single P (.ask r next)

/-- A program that only draws. -/
inductive Drawing : Program α → Prop
  | done (a : α) : Drawing (.done a)
  | ask {r : Request} {next : r.Answer → Program α} :
    r.isDraw = true → (∀ x, Drawing (next x)) → Drawing (.ask r next)

variable {p : Program α} {f : α → Program β}

/-- What a draw may come before, a program that only draws may come before. -/
theorem Drawing.bind_keeps {Q : Program β → Prop} (h : p.Drawing)
    (step : ∀ {r : Request} {next : r.Answer → Program β},
      r.isDraw = true → (∀ x, Q (next x)) → Q (.ask r next))
    (k : ∀ a, Q (f a)) : Q (p.bind f) := by
  induction h with
  | done a => exact k a
  | ask draws _ ih => exact step draws ih

theorem Drawing.bind (h : p.Drawing) (k : ∀ a, (f a).Drawing) : (p.bind f).Drawing :=
  h.bind_keeps .ask k

theorem Drawing.bind_inside {P : β → Prop} (h : p.Drawing) (k : ∀ a, Inside P (f a)) :
    Inside P (p.bind f) :=
  h.bind_keeps (fun draws => .ask (Request.isInner_of_isDraw draws)) k

theorem Drawing.bind_single {P : β → Prop} (h : p.Drawing) (k : ∀ a, Single P (f a)) :
    Single P (p.bind f) :=
  h.bind_keeps .ask k

theorem drawing_request {r : Request} (h : r.isDraw = true) : (request r).Drawing :=
  .ask h fun x => .done x

theorem drawing_drawId : drawId.Drawing := drawing_request rfl
theorem drawing_drawSalt : drawSalt.Drawing := drawing_request rfl
theorem drawing_readClock : readClock.Drawing := drawing_request rfl

end Program

theorem Token.Issuer.drawing_issue (i : Token.Issuer) (user : User) (use : Token.Use) :
    (i.issue user use).Drawing :=
  Program.drawing_readClock.bind fun _ => Program.drawing_drawId.bind fun _ => .done _

theorem Token.Issuer.drawing_issuePair (i : Token.Issuer) (user : User) :
    (i.issuePair user).Drawing :=
  (i.drawing_issue user .access).bind fun _ => (i.drawing_issue user .refresh).bind fun _ => .done _

/-! ## §2 Steps of a call -/

namespace Action

variable {α β : Type}

/-- An outcome that is not a refusal. -/
def Succeeds (out : Except Failure α) : Prop := ∃ a, out = .ok a

/-- The rest of a call inside its unit of work. -/
def Inside (a : Action α) : Prop := Program.Inside Succeeds (ExceptT.run a)

/-- A call with one unit of work at most. -/
def Single (a : Action α) : Prop := Program.Single Succeeds (ExceptT.run a)

variable {f : α → Action β}

theorem inside_pure (x : α) : (pure x : Action α).Inside := .done _

theorem inside_throw (e : Failure) : (throw e : Action α).Inside := .done _

theorem inside_commit : commit.Inside := .commit _ ⟨(), rfl⟩ rfl

theorem inside_commit_bind (x : α) : (commit >>= fun _ => pure x).Inside := .commit _ ⟨x, rfl⟩ rfl

theorem inside_store_bind {c : Call} (h : c.isInner = true) {f : c.Result → Action β}
    (k : ∀ x, (f x).Inside) : (store c >>= f).Inside := by
  refine .ask (r := .store c) h fun answer => ?_
  cases answer with
  | error e => exact .done _
  | ok x => exact k x

theorem inside_store {c : Call} (h : c.isInner = true) : (store c).Inside :=
  .ask (r := .store c) h fun _ => .done _

theorem perform_bind (p : Program α) (f : α → Action β) :
    ExceptT.run (perform p >>= f) = p.bind fun a => ExceptT.run (f a) :=
  Program.bind_assoc p _ _

theorem inside_perform_bind {p : Program α} (h : p.Drawing) (k : ∀ x, (f x).Inside) :
    (perform p >>= f).Inside := by
  rw [Inside, perform_bind]
  exact h.bind_inside k

theorem inside_orFail_bind (e : Failure) (o : Option α) (k : ∀ x, (f x).Inside) :
    (orFail e o >>= f).Inside := by
  cases o with
  | none => exact .done _
  | some x => exact k x

theorem inside_require_bind (c : Bool) (e : Failure) {f : Unit → Action β} (k : (f ()).Inside) :
    (require c e >>= f).Inside := by
  cases c with
  | false => exact .done _
  | true => exact k

theorem single_begin_bind {f : Unit → Action β} (k : (f ()).Inside) :
    (begin >>= f).Single := .begin k

theorem single_perform_bind {p : Program α} (h : p.Drawing) (k : ∀ x, (f x).Single) :
    (perform p >>= f).Single := by
  rw [Single, perform_bind]
  exact h.bind_single k

theorem single_orFail_bind (e : Failure) (o : Option α) (k : ∀ x, (f x).Single) :
    (orFail e o >>= f).Single := by
  cases o with
  | none => exact .done _
  | some x => exact k x

end Action

/-! ## §3 Calls -/

namespace Service

open Action

variable {α : Type} {workspace : Uuid} {actor : Identity}

namespace Credentials

open Token (Issuer)

theorem inside_renew (issuer : Issuer) (user : User) : (renew issuer user).Inside :=
  inside_perform_bind (issuer.drawing_issuePair user) fun _ =>
    inside_store_bind rfl fun _ => inside_commit_bind _

theorem single_signup (issuer : Issuer) (hasher : Password.Hasher) (name email password : String) :
    (signup issuer hasher name email password).Single := by
  rw [signup, hashPassword, bind_assoc]
  refine single_perform_bind Program.drawing_drawSalt fun salt => ?_
  cases hasher.hash salt password with
  | error detail => exact .done _
  | ok text =>
    refine single_begin_bind ?_
    refine inside_store_bind rfl fun known => inside_require_bind _ _ ?_
    refine inside_perform_bind Program.drawing_drawId fun id => ?_
    refine inside_perform_bind Program.drawing_readClock fun now => ?_
    refine inside_store_bind rfl fun user => ?_
    exact inside_perform_bind (issuer.drawing_issuePair user) fun _ => inside_commit_bind _

theorem single_login (issuer : Issuer) (hasher : Password.Hasher) (email password : String) :
    (login issuer hasher email password).Single :=
  single_begin_bind <| inside_store_bind rfl fun _ => inside_orFail_bind _ _ fun user =>
    inside_require_bind _ _ (inside_renew issuer user)

theorem single_refresh (issuer : Issuer) (token : String) : (refresh issuer token).Single :=
  single_perform_bind Program.drawing_readClock fun _ => single_orFail_bind _ _ fun _ =>
    single_begin_bind <| inside_store_bind rfl fun _ => inside_orFail_bind _ _ fun user =>
      inside_require_bind _ _ (inside_renew issuer user)

end Credentials

namespace Members

theorem inside_requireWorkspace_bind {k : Workspace → Action α} (h : ∀ w, (k w).Inside) :
    (requireWorkspace workspace >>= k).Inside := by
  rw [requireWorkspace, bind_assoc]
  exact inside_store_bind rfl fun _ => inside_orFail_bind _ _ h

theorem inside_requireActor_bind {k : Membership → Action α} (h : ∀ m, (k m).Inside) :
    (requireActor workspace actor >>= k).Inside := by
  rw [requireActor, bind_assoc]
  exact inside_store_bind rfl fun _ => inside_orFail_bind _ _ h

theorem inside_requireUser_bind {email : String} {k : User → Action α} (h : ∀ u, (k u).Inside) :
    (requireUser email >>= k).Inside := by
  rw [requireUser, bind_assoc]
  exact inside_store_bind rfl fun _ => inside_orFail_bind _ _ h

theorem inside_requireTarget_bind {target : User} {k : Membership → Action α}
    (h : ∀ m, (k m).Inside) : (requireTarget workspace target >>= k).Inside := by
  rw [requireTarget, bind_assoc]
  exact inside_store_bind rfl fun _ => inside_orFail_bind _ _ h

/-- Every operation on a workspace begins with the workspace and the acting member. -/
theorem single_enter_bind {k : Workspace → Membership → Action α}
    (h : ∀ w m, (k w m).Inside) :
    (begin >>= fun _ => requireWorkspace workspace >>= fun w =>
      requireActor workspace actor >>= fun m => k w m).Single :=
  single_begin_bind <| inside_requireWorkspace_bind fun w => inside_requireActor_bind fun m => h w m

theorem inside_stepDown_bind {m : Membership} {k : Unit → Action α} (h : (k ()).Inside) :
    (stepDown m >>= k).Inside := by
  rw [stepDown, bind_assoc]
  exact inside_store_bind rfl fun _ => h

theorem inside_stepDownFor_bind {role : Role} {m : Membership} {k : Unit → Action α}
    (h : (k ()).Inside) : (stepDownFor role m >>= k).Inside := by
  unfold stepDownFor
  split
  · exact inside_stepDown_bind h
  · exact h

theorem inside_joining_bind {target : User} {role : Role} {old : Option Membership}
    {k : Membership → Action α} (h : ∀ m, (k m).Inside) :
    (joining workspace target role old >>= k).Inside := by
  cases old with
  | some m =>
    rw [joining, bind_assoc]
    exact inside_perform_bind Program.drawing_readClock fun _ => h _
  | none =>
    rw [joining, bind_assoc]
    refine inside_perform_bind Program.drawing_drawId fun _ => ?_
    rw [bind_assoc]
    exact inside_perform_bind Program.drawing_readClock fun _ => h _

theorem inside_save (m : Membership) :
    (store (.saveMembership m) >>= fun _ => commit).Inside :=
  inside_store_bind rfl fun _ => inside_commit

theorem single_change (wish : Change) : (wish.action workspace actor).Single := by
  cases wish with
  | add email role =>
    refine single_enter_bind fun _ acting => ?_
    refine inside_require_bind _ _ (inside_require_bind _ _ ?_)
    refine inside_requireUser_bind fun target => inside_store_bind rfl fun old => ?_
    refine inside_require_bind _ _ (inside_stepDownFor_bind ?_)
    exact inside_joining_bind fun m => inside_save m
  | remove email =>
    refine single_enter_bind fun _ acting => ?_
    refine inside_require_bind _ _ ?_
    refine inside_requireUser_bind fun target => inside_requireTarget_bind fun m => ?_
    refine inside_require_bind _ _ (inside_require_bind _ _ ?_)
    exact inside_perform_bind Program.drawing_readClock fun _ => inside_save _
  | changeRole email role =>
    refine single_enter_bind fun _ acting => ?_
    refine inside_require_bind _ _ (inside_require_bind _ _ ?_)
    refine inside_requireUser_bind fun target => inside_requireTarget_bind fun m => ?_
    exact inside_require_bind _ _ (inside_stepDownFor_bind (inside_save _))
  | leave =>
    refine single_enter_bind fun _ acting => inside_require_bind _ _ ?_
    exact inside_perform_bind Program.drawing_readClock fun _ => inside_save _
  | transferOwnership email =>
    refine single_enter_bind fun _ acting => inside_require_bind _ _ ?_
    refine inside_requireUser_bind fun target => inside_require_bind _ _ ?_
    exact inside_requireTarget_bind fun m => inside_stepDown_bind (inside_save _)

theorem single_checkPermission (p : Permission) : (checkPermission workspace actor p).Single := by
  refine single_begin_bind <| inside_store_bind rfl fun found => ?_
  cases found with
  | none => exact inside_pure _
  | some _ => exact inside_store_bind rfl fun _ => inside_pure _

end Members

namespace Workspaces

theorem single_create (name : String) (type : WorkspaceType) (owner : Identity) :
    (create name type owner).Single := by
  refine single_begin_bind ?_
  refine inside_perform_bind Program.drawing_drawId fun _ => ?_
  refine inside_perform_bind Program.drawing_readClock fun _ => ?_
  refine inside_store_bind rfl fun _ => ?_
  refine inside_perform_bind Program.drawing_drawId fun _ => ?_
  refine inside_perform_bind Program.drawing_readClock fun _ => ?_
  exact inside_store_bind rfl fun _ => inside_commit_bind _

theorem single_update (name : String) (type : WorkspaceType) :
    (update workspace actor name type).Single :=
  Members.single_enter_bind fun _ _ => inside_require_bind _ _ <|
    inside_store_bind rfl fun _ => inside_commit

theorem single_delete : (delete workspace actor).Single :=
  Members.single_enter_bind fun _ _ => inside_require_bind _ _ <|
    inside_perform_bind Program.drawing_readClock fun _ =>
      inside_store_bind rfl fun _ => inside_commit

theorem single_details : (details workspace actor).Single := by
  refine single_begin_bind <| inside_store_bind rfl fun rows => ?_
  cases rows.head? with
  | none => exact inside_throw _
  | some d => exact inside_pure d

end Workspaces

/-- Every call is one unit of work at most. -/
theorem Command.single (o : Office) (c : Command) : (c.action o).Single := by
  cases c with
  | signup name email password => exact Credentials.single_signup ..
  | login email password => exact Credentials.single_login ..
  | refresh token => exact Credentials.single_refresh ..
  | create name type owner => exact Workspaces.single_create ..
  | update workspace actor name type => exact Workspaces.single_update ..
  | delete workspace actor => exact Workspaces.single_delete
  | change workspace actor wish => exact Members.single_change wish
  | details workspace actor => exact Workspaces.single_details
  | list actor => exact single_begin_bind (inside_store rfl)
  | check workspace actor permission => exact Members.single_checkPermission permission
  | count workspace => exact single_begin_bind (inside_store rfl)

end Service

end Roster
