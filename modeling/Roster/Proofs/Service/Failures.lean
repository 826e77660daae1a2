/-
Roster.Proofs.Service.Failures — a call that fails leaves no trace.

Nothing is assumed of the surroundings here: the tables may break every rule of
the store, a unit of work may have been left open, and any call on the store
may fail by plan. `Program.Asks R` says that a program makes requests in `R`
only, whatever it is told (§1). Until its last step no call publishes anything,
and that last step ends in success if it publishes (`Action.Atomic`, §2, §3).
So a refusal, however late it comes and whatever was saved on the way, finds
the published tables as they were (`failure_atomic`).
-/
import Roster.Proofs.Service.Command

namespace Roster

open Store (State Row)

variable {α β : Type}

/-! ## §1 What a program asks -/

namespace Program

/-- Whatever it is told, the program makes requests in `R` only. -/
inductive Asks (R : Request → Prop) : Program α → Prop
  | done (a : α) : Asks R (.done a)
  | ask {r : Request} {next : r.Answer → Program α} :
    R r → (∀ x, Asks R (next x)) → Asks R (.ask r next)

variable {R : Request → Prop} {p : Program α}

theorem Asks.bind {f : α → Program β} (h : p.Asks R) (k : ∀ a, (f a).Asks R) :
    (p.bind f).Asks R := by
  induction h with
  | done a => exact k a
  | ask hr _ ih => exact .ask hr ih

theorem asks_request {r : Request} (h : R r) : (request r).Asks R := .ask h fun x => .done x

/-- What such requests keep is true of all that a run passes. -/
theorem Asks.passes {P : World → Prop} (h : p.Asks R)
    (step : ∀ w r, R r → P w → P (World.answer w r).2) {w : World} (hw : P w) :
    ∀ v ∈ p.passes w, P v := by
  induction h generalizing w with
  | done a =>
    intro v hv
    rw [Program.passes, List.mem_singleton] at hv
    exact hv ▸ hw
  | ask hr _ ih =>
    intro v hv
    rcases List.mem_cons.1 hv with rfl | hv
    · exact hw
    · exact ih _ (step w _ hr hw) v hv

/-- A run of two parts passes what the first passes, and then what the second does. -/
theorem mem_passes_bind {f : α → Program β} {w v : World} (hv : v ∈ (p.bind f).passes w) :
    v ∈ p.passes w ∨ v ∈ (f (p.runOpen w).1).passes (p.runOpen w).2 := by
  induction p generalizing w with
  | done a => exact .inr hv
  | ask r next ih =>
    rcases List.mem_cons.1 hv with rfl | hv
    · exact .inl List.mem_cons_self
    · rcases ih _ hv with hv | hv
      · exact .inl (List.mem_cons_of_mem _ hv)
      · exact .inr hv

end Program

namespace Request

/-- Whether a request can change what is published. -/
def publishes : Request → Bool
  | store .commit => true
  | _ => false

end Request

namespace World

/-- A working copy is written without anything being published. -/
theorem published_writes (w : World) (write : State → Except Store.Error (β × State)) :
    (w.writes write).2.published = w.published := by
  unfold writes
  split
  · split <;> rfl
  · rfl

theorem published_reads (w : World) (read : State → β) :
    (w.reads read).2.published = w.published := by
  unfold reads
  split <;> rfl

theorem published_perform {c : Call} (h : (Request.store c).publishes = false) (w : World) :
    (w.perform c).2.published = w.published := by
  cases c with
  | healthCheck | begin => rfl
  | saveUser _ | saveWorkspace _ | saveMembership _ => exact published_writes ..
  | commit => cases h
  | _ => exact published_reads ..

/-- Only a commit publishes, whether or not the request is answered as hoped. -/
theorem published_answer {r : Request} (h : r.publishes = false) (w : World) :
    (w.answer r).2.published = w.published := by
  cases r with
  | store c =>
    simp only [answer, call]
    split
    · exact published_perform h _
    · cases c <;> rfl
  | _ => rfl

/-- A commit that fails publishes nothing either. -/
theorem answer_commit (w : World) :
    (w.answer (.store .commit)).1 = .ok () ∨
      (w.answer (.store .commit)).2.published = w.published := by
  simp only [answer, call]
  split
  · simp only [perform]
    split
    · exact .inl rfl
    · exact .inr rfl
  · exact .inr rfl

end World

/-! ## §2 Steps of an action -/

namespace Action

/-- The action makes requests in `R` only. -/
def Asks (R : Request → Prop) (a : Action α) : Prop := Program.Asks R (ExceptT.run a)

section

variable {R : Request → Prop} {a : Action α} {f : α → Action β}

theorem asks_pure (x : α) : (pure x : Action α).Asks R := .done _

theorem asks_throw (e : Failure) : (throw e : Action α).Asks R := .done _

theorem asks_store {c : Call} (h : R (.store c)) : (store c).Asks R := .ask h fun _ => .done _

theorem asks_perform {p : Program α} (h : p.Asks R) : (perform p).Asks R :=
  Program.Asks.bind h fun _ => .done _

theorem asks_orFail (e : Failure) (o : Option α) : (orFail e o).Asks R := by
  cases o <;> exact .done _

theorem asks_require (c : Bool) (e : Failure) : (require c e).Asks R := by
  cases c <;> exact .done _

theorem Asks.bind (h : a.Asks R) (k : ∀ x, (f x).Asks R) : (a >>= f).Asks R := by
  refine Program.Asks.bind h fun x => ?_
  cases x with
  | ok x => exact k x
  | error e => exact .done _

end

/-- The action publishes nothing. -/
def Quiet (a : Action α) : Prop := a.Asks fun r => r.publishes = false

/-- Wherever the action runs: it is not refused, or nothing was published at any point. -/
def Atomic (a : Action α) : Prop :=
  ∀ w : World, (∃ x, (Program.runOpen (ExceptT.run a) w).1 = .ok x) ∨
    ∀ v ∈ Program.passes (ExceptT.run a) w, v.published = w.published

variable {a : Action α} {f : α → Action β}

theorem quiet_pure (x : α) : (pure x : Action α).Quiet := asks_pure x

theorem quiet_orFail (e : Failure) (o : Option α) : (orFail e o).Quiet := asks_orFail e o

theorem quiet_perform {p : Program α} (h : p.Asks fun r => r.publishes = false) :
    (perform p).Quiet := asks_perform h

theorem quiet_store {c : Call} (h : (Request.store c).publishes = false) : (store c).Quiet :=
  asks_store h

theorem Quiet.bind (h : a.Quiet) (k : ∀ x, (f x).Quiet) : (a >>= f).Quiet := Asks.bind h k

theorem quiet_store_bind {c : Call} (h : (Request.store c).publishes = false)
    {f : c.Result → Action β} (k : ∀ x, (f x).Quiet) : (store c >>= f).Quiet :=
  (quiet_store h).bind k

theorem Quiet.passes (h : a.Quiet) (w : World) :
    ∀ v ∈ Program.passes (ExceptT.run a) w, v.published = w.published :=
  Program.Asks.passes h (P := fun v => v.published = w.published)
    (fun v _ hr hv => (World.published_answer hr v).trans hv) rfl

theorem Quiet.atomic (h : a.Quiet) : a.Atomic := fun w => .inr (h.passes w)

/-- What publishes may only come last. -/
theorem Quiet.bind_atomic (h : a.Quiet) (k : ∀ x, (f x).Atomic) : (a >>= f).Atomic := by
  intro w
  have first := h.passes w
  have split : ExceptT.run (a >>= f) = (ExceptT.run a).bind (ExceptT.bindCont f) := rfl
  rw [split, Program.runOpen_bind]
  have arrived := first _ (Program.end_mem_passes _ _)
  have joined {x : Except Failure α} (e : (Program.runOpen (ExceptT.run a) w).1 = x)
      (rest : ∀ v ∈ Program.passes (ExceptT.bindCont f x) (Program.runOpen (ExceptT.run a) w).2,
        v.published = (Program.runOpen (ExceptT.run a) w).2.published) :
      ∀ v ∈ Program.passes ((ExceptT.run a).bind (ExceptT.bindCont f)) w,
        v.published = w.published := by
    intro v hv
    rcases Program.mem_passes_bind hv with hv | hv
    · exact first v hv
    · exact (rest v (e ▸ hv)).trans arrived
  cases e : (Program.runOpen (ExceptT.run a) w).1 with
  | error err =>
    refine .inr (joined e fun v hv => ?_)
    exact congrArg World.published (List.mem_singleton.1 hv)
  | ok x =>
    rcases k x (Program.runOpen (ExceptT.run a) w).2 with ok | rest
    · exact .inl ok
    · exact .inr (joined e rest)

/-- A commit, after which the action only returns. -/
theorem atomic_commit_bind (x : α) : (commit >>= fun _ => pure x).Atomic := by
  intro w
  let next (y : Except Store.Error Unit) : Program (Except Failure α) :=
    ExceptT.bindCont (fun _ => pure x) (y.mapError Failure.ofStore)
  have shape : ExceptT.run (commit >>= fun _ => pure x) = .ask (.store .commit) next := rfl
  rw [shape]
  cases e : (w.answer (.store .commit)).1 with
  | ok y =>
    refine .inl ⟨x, ?_⟩
    show ((next (w.answer (.store .commit)).1).runOpen _).1 = _
    rw [e]
    rfl
  | error err =>
    have same := (w.answer_commit).resolve_left (by simp [e])
    refine .inr fun v hv => ?_
    rcases List.mem_cons.1 hv with rfl | hv
    · rfl
    · rw [e] at hv
      rcases List.mem_singleton.1 hv with rfl
      exact same

theorem atomic_commit : commit.Atomic := by
  have h := atomic_commit_bind ()
  rwa [bind_pure_unit] at h

theorem atomic_store_bind {c : Call} (h : (Request.store c).publishes = false)
    {f : c.Result → Action β} (k : ∀ x, (f x).Atomic) : (store c >>= f).Atomic :=
  (quiet_store h).bind_atomic k

theorem atomic_orFail_bind (e : Failure) (o : Option α) (k : ∀ x, (f x).Atomic) :
    (orFail e o >>= f).Atomic := (quiet_orFail e o).bind_atomic k

theorem atomic_require_bind (c : Bool) (e : Failure) {f : Unit → Action β} (k : (f ()).Atomic) :
    (require c e >>= f).Atomic :=
  Quiet.bind_atomic (asks_require c e) fun _ => k

end Action

theorem Token.Issuer.asks_issuePair {R : Request → Prop} (clock : R .readClock) (id : R .drawId)
    (i : Token.Issuer) (user : User) : (i.issuePair user).Asks R := by
  have issue (use : Token.Use) : (i.issue user use).Asks R :=
    (Program.asks_request clock).bind fun _ => (Program.asks_request id).bind fun _ => .done _
  exact (issue .access).bind fun _ => (issue .refresh).bind fun _ => .done _

/-! ## §3 Calls -/

namespace Service

open Action

variable {α : Type} {workspace : Uuid} {actor : Identity}

theorem quiet_readClock : (perform Program.readClock).Quiet :=
  quiet_perform (Program.asks_request rfl)

theorem quiet_drawId : (perform Program.drawId).Quiet := quiet_perform (Program.asks_request rfl)

/-- The last save of an operation and its commit. -/
theorem atomic_save (m : Membership) : (store (.saveMembership m) >>= fun _ => commit).Atomic :=
  atomic_store_bind rfl fun _ => atomic_commit

namespace Members

theorem quiet_requireWorkspace : (requireWorkspace workspace).Quiet :=
  quiet_store_bind rfl fun _ => quiet_orFail ..

theorem quiet_requireActor : (requireActor workspace actor).Quiet :=
  quiet_store_bind rfl fun _ => quiet_orFail ..

theorem quiet_requireUser (email : String) : (requireUser email).Quiet :=
  quiet_store_bind rfl fun _ => quiet_orFail ..

theorem quiet_requireTarget (target : User) : (requireTarget workspace target).Quiet :=
  quiet_store_bind rfl fun _ => quiet_orFail ..

theorem quiet_stepDown (m : Membership) : (stepDown m).Quiet :=
  quiet_store_bind rfl fun _ => quiet_pure ()

theorem quiet_stepDownFor (role : Role) (m : Membership) : (stepDownFor role m).Quiet := by
  unfold stepDownFor
  split
  · exact quiet_stepDown m
  · exact quiet_pure ()

theorem quiet_joining (target : User) (role : Role) (old : Option Membership) :
    (joining workspace target role old).Quiet := by
  cases old with
  | some m => exact quiet_readClock.bind fun _ => quiet_pure _
  | none => exact quiet_drawId.bind fun _ => quiet_readClock.bind fun _ => quiet_pure _

/-- Every operation on a workspace begins with the workspace and the acting member. -/
theorem atomic_enter_bind {k : Workspace → Membership → Action α} (h : ∀ w m, (k w m).Atomic) :
    (begin >>= fun _ => requireWorkspace workspace >>= fun w =>
      requireActor workspace actor >>= fun m => k w m).Atomic :=
  atomic_store_bind rfl fun _ => quiet_requireWorkspace.bind_atomic fun w =>
    quiet_requireActor.bind_atomic fun m => h w m

theorem atomic_change (wish : Change) : (wish.action workspace actor).Atomic := by
  cases wish with
  | add email role =>
    refine atomic_enter_bind fun _ acting => ?_
    refine atomic_require_bind _ _ (atomic_require_bind _ _ ?_)
    refine (quiet_requireUser email).bind_atomic fun target => ?_
    refine atomic_store_bind rfl fun old => atomic_require_bind _ _ ?_
    refine (quiet_stepDownFor role acting).bind_atomic fun _ => ?_
    exact (quiet_joining target role old).bind_atomic fun m => atomic_save m
  | remove email =>
    refine atomic_enter_bind fun _ acting => atomic_require_bind _ _ ?_
    refine (quiet_requireUser email).bind_atomic fun target => ?_
    refine (quiet_requireTarget target).bind_atomic fun m => ?_
    refine atomic_require_bind _ _ (atomic_require_bind _ _ ?_)
    exact quiet_readClock.bind_atomic fun _ => atomic_save _
  | changeRole email role =>
    refine atomic_enter_bind fun _ acting => ?_
    refine atomic_require_bind _ _ (atomic_require_bind _ _ ?_)
    refine (quiet_requireUser email).bind_atomic fun target => ?_
    refine (quiet_requireTarget target).bind_atomic fun m => atomic_require_bind _ _ ?_
    exact (quiet_stepDownFor role acting).bind_atomic fun _ => atomic_save _
  | leave =>
    refine atomic_enter_bind fun _ acting => atomic_require_bind _ _ ?_
    exact quiet_readClock.bind_atomic fun _ => atomic_save _
  | transferOwnership email =>
    refine atomic_enter_bind fun _ acting => atomic_require_bind _ _ ?_
    refine (quiet_requireUser email).bind_atomic fun target => atomic_require_bind _ _ ?_
    refine (quiet_requireTarget target).bind_atomic fun m => ?_
    exact (quiet_stepDown acting).bind_atomic fun _ => atomic_save _

theorem quiet_checkPermission (p : Permission) : (checkPermission workspace actor p).Quiet := by
  refine quiet_store_bind rfl fun _ => quiet_store_bind rfl fun found => ?_
  cases found with
  | none => exact quiet_pure _
  | some _ => exact quiet_store_bind rfl fun _ => quiet_pure _

end Members

namespace Credentials

open Token (Issuer)

theorem quiet_issuePair (issuer : Issuer) (user : User) :
    (perform (issuer.issuePair user)).Quiet :=
  quiet_perform
    (Token.Issuer.asks_issuePair (R := fun r => r.publishes = false) rfl rfl issuer user)

theorem quiet_hashPassword (hasher : Password.Hasher) (password : String) :
    (hashPassword hasher password).Quiet := by
  refine (quiet_perform (Program.asks_request rfl)).bind fun salt => ?_
  cases hasher.hash salt password with
  | ok text => exact quiet_pure text
  | error detail => exact asks_throw _

theorem atomic_renew (issuer : Issuer) (user : User) : (renew issuer user).Atomic :=
  (quiet_issuePair issuer user).bind_atomic fun pair =>
    atomic_store_bind rfl fun _ => atomic_commit_bind pair

theorem atomic_signup (issuer : Issuer) (hasher : Password.Hasher)
    (name email password : String) : (signup issuer hasher name email password).Atomic := by
  refine (quiet_hashPassword hasher password).bind_atomic fun text => ?_
  refine atomic_store_bind rfl fun _ => atomic_store_bind rfl fun known => ?_
  refine atomic_require_bind _ _ ?_
  refine quiet_drawId.bind_atomic fun id => quiet_readClock.bind_atomic fun now => ?_
  refine atomic_store_bind rfl fun user => ?_
  exact (quiet_issuePair issuer user).bind_atomic fun pair => atomic_commit_bind pair

theorem atomic_login (issuer : Issuer) (hasher : Password.Hasher) (email password : String) :
    (login issuer hasher email password).Atomic := by
  refine atomic_store_bind rfl fun _ => atomic_store_bind rfl fun found => ?_
  refine atomic_orFail_bind _ _ fun user => ?_
  exact atomic_require_bind _ _ (atomic_renew issuer user)

theorem atomic_refresh (issuer : Issuer) (token : String) : (refresh issuer token).Atomic := by
  refine quiet_readClock.bind_atomic fun now => ?_
  refine atomic_orFail_bind _ _ fun claims => ?_
  refine atomic_store_bind rfl fun _ => atomic_store_bind rfl fun found => ?_
  refine atomic_orFail_bind _ _ fun user => ?_
  exact atomic_require_bind _ _ (atomic_renew issuer user)

end Credentials

namespace Workspaces

theorem atomic_create (name : String) (type : WorkspaceType) (owner : Identity) :
    (create name type owner).Atomic := by
  refine atomic_store_bind rfl fun _ => ?_
  refine quiet_drawId.bind_atomic fun _ => quiet_readClock.bind_atomic fun _ => ?_
  refine atomic_store_bind rfl fun workspace => ?_
  refine quiet_drawId.bind_atomic fun _ => quiet_readClock.bind_atomic fun _ => ?_
  exact atomic_store_bind rfl fun _ => atomic_commit_bind workspace.id

theorem atomic_update (name : String) (type : WorkspaceType) :
    (update workspace actor name type).Atomic := by
  refine Members.atomic_enter_bind fun _ _ => atomic_require_bind _ _ ?_
  exact atomic_store_bind rfl fun _ => atomic_commit

theorem atomic_delete : (delete workspace actor).Atomic := by
  refine Members.atomic_enter_bind fun _ _ => atomic_require_bind _ _ ?_
  exact quiet_readClock.bind_atomic fun _ => atomic_store_bind rfl fun _ => atomic_commit

end Workspaces

/-- Whether a call only looks at what is stored. -/
def Command.isReading : Command → Bool
  | .details .. | .list .. | .check .. | .count .. => true
  | _ => false

theorem Command.quiet_of_isReading (o : Office) {c : Command} (h : c.isReading = true) :
    (c.action o).Quiet := by
  cases c with
  | details workspace actor =>
    exact quiet_store_bind rfl fun _ => quiet_store_bind rfl fun _ => quiet_orFail ..
  | list actor => exact quiet_store_bind rfl fun _ => quiet_store rfl
  | check workspace actor permission => exact Members.quiet_checkPermission permission
  | count workspace => exact quiet_store_bind rfl fun _ => quiet_store rfl
  | _ => cases h

theorem Command.atomic (o : Office) (c : Command) : (c.action o).Atomic := by
  cases c with
  | signup name email password => exact Credentials.atomic_signup _ _ _ _ _
  | login email password => exact Credentials.atomic_login _ _ _ _
  | refresh token => exact Credentials.atomic_refresh _ _
  | create name type owner => exact Workspaces.atomic_create _ _ _
  | update workspace actor name type => exact Workspaces.atomic_update _ _
  | delete workspace actor => exact Workspaces.atomic_delete
  | change workspace actor wish => exact Members.atomic_change wish
  | details _ _ | list _ | check _ _ _ | count _ => exact (Command.quiet_of_isReading o rfl).atomic

/-- What a call leaves open does not count. -/
theorem Office.published_carry (o : Office) (c : Command) (w : World) :
    (o.carry c w).2.published =
      (Program.runOpen (ExceptT.run (c.action o)) w).2.published := rfl

/-- A call that is refused publishes nothing on its way. -/
theorem Command.quiet_of_error (o : Office) {c : Command} {w : World} {f : Failure}
    (refused : (o.carry c w).1 = .error f) :
    ∀ v ∈ (ExceptT.run (c.action o)).passes w, v.published = w.published := by
  rcases Command.atomic o c w with ⟨x, ok⟩ | same
  · exact absurd (ok.symm.trans refused) (by simp)
  · exact same

theorem Command.published_of_error (o : Office) {c : Command} {w : World} {f : Failure}
    (refused : (o.carry c w).1 = .error f) : (o.carry c w).2.published = w.published := by
  have last := Program.end_mem_passes (ExceptT.run (c.action o)) w
  exact (o.published_carry c w).trans (Command.quiet_of_error o refused _ last)

theorem Command.published_of_isReading (o : Office) {c : Command} (reads : c.isReading = true)
    (w : World) : (o.carry c w).2.published = w.published := by
  have last := Program.end_mem_passes (ExceptT.run (c.action o)) w
  exact (o.published_carry c w).trans ((Command.quiet_of_isReading o reads).passes w _ last)

/--
In any surroundings, whatever they hold and whatever is planned to fail: a call
that is refused has published nothing at any point, and nor has a call that
only looks at what is stored.
-/
theorem failure_atomic (o : Office) (c : Command) (w : World) :
    let outcome := o.carry c w
    (∀ f, outcome.1 = .error f →
      outcome.2.published = w.published ∧
        ∀ v ∈ (ExceptT.run (c.action o)).passes w, v.published = w.published) ∧
      (c.isReading = true → outcome.2.published = w.published) :=
  ⟨fun _ refused => ⟨Command.published_of_error o refused, Command.quiet_of_error o refused⟩,
    fun reads => Command.published_of_isReading o reads w⟩

/-- A workspace with two owners, which no call brings about, and a third member. -/
def twoOwners : State :=
  let row (n : Nat) (role : Role) : Membership :=
    ⟨.ofNat n, .ofNat 9, .ofNat n, role, ⟨0⟩, none, 1⟩
  { users := ⟨[⟨.ofNat 3, "C", "c@b", "", none, ⟨0⟩, 1⟩], by decide⟩
    workspaces := ⟨[⟨.ofNat 9, "Acme", .team, ⟨0⟩, none, 1⟩], by decide⟩
    memberships := ⟨[row 1 .owner, row 2 .owner, row 3 .member], by decide⟩ }

/-- One owner has stepped down when the store refuses the new one because of the other. -/
theorem failure_atomic_two_owners :
    let c : Command := .change (.ofNat 9) ⟨.ofNat 1, "a@b"⟩ (.transferOwnership "c@b")
    let w := World.idle twoOwners .counting
    let steps := (ExceptT.run (c.action .small)).passes w
    (∃ v ∈ steps, ∃ t ∈ v.working, ∃ m ∈ t.memberships.rows, m.user = .ofNat 1 ∧ m.role = .admin) ∧
      (Office.small.carry c w).1 = .error .conflict ∧
      (∀ v ∈ steps, v.published = twoOwners) ∧
      (Office.small.carry c w).2.published = twoOwners := by
  intro c w steps
  have refused : (Office.small.carry c w).1 = .error .conflict := rfl
  obtain ⟨after, throughout⟩ := (failure_atomic .small c w).1 _ refused
  exact ⟨by decide +kernel, refused, throughout, after⟩

end Service

end Roster
