/-
Roster.Proofs.Service.Conflicts — calls one after another never meet a guard of the store.

The store checks every save once more: the version, the address, the pair and
the owner. An error of the store ends a call at once, as the failure that it
stands for (`Relays`, §1), and the checks of the calls give other failures
(`Own`, §2). So a call that is refused with none of these failures has met no
error at all (`Relays.served`). Over the tables that calls leave behind only an
identifier that is taken makes the store refuse a save (`failure_cases`, §3): what
else it checks was checked by the call before, or holds of all such tables. With
new identifiers none of its guards is ever met (`guards_unreachable`, §4).
-/
import Roster.Proofs.Service.Escalation
import Roster.Proofs.Service.History
import Roster.Proofs.Service.UnitOfWork

namespace Roster

open Store (State Row)
open World (idle amid)

variable {α β : Type}

/-! ## §1 Errors of the store -/

namespace Failure

/-- Whether a failure may stand for an error of the store. -/
def isStores : Failure → Bool
  | conflict | duplicateIdentity | internal _ => true
  | _ => false

theorem isStores_ofStore (e : Store.Error) : (ofStore e).isStores = true := by
  cases e <;> rfl

end Failure

/-- The request is a draw, or the store answers it without an error. -/
def World.Serves (w : World) : Request → Prop
  | .store c => ∃ x, (w.answer (.store c)).1 = .ok x
  | _ => True

namespace Program

/-- No request of the run fails: every lookup, every save and the commit go through. -/
def Served : Program α → World → Prop
  | done _, _ => True
  | ask r next, w => w.Serves r ∧ (next (w.answer r).1).Served (w.answer r).2

/-- An error of the store ends the program, with the failure that it stands for. -/
inductive Relays : Program (Except Failure α) → Prop
  | done (out : Except Failure α) : Relays (.done out)
  | store {c : Call} {next : Except Store.Error c.Result → Program (Except Failure α)} :
    (∀ e, next (.error e) = .done (.error (Failure.ofStore e))) →
      (∀ x, Relays (next (.ok x))) → Relays (.ask (.store c) next)
  | draw {r : Request} {next : r.Answer → Program (Except Failure α)} :
    r.isDraw = true → (∀ x, Relays (next x)) → Relays (.ask r next)

theorem serves_of_isDraw {w : World} {r : Request} (h : r.isDraw = true) : w.Serves r := by
  cases r with
  | store c => cases h
  | _ => trivial

/-- A run that meets an error of the store is refused with what it stands for. -/
theorem Relays.served {p : Program (Except Failure α)} (h : p.Relays) (w : World) :
    p.Served w ∨ ∃ e, (p.runOpen w).1 = .error (Failure.ofStore e) := by
  induction h generalizing w with
  | done out => exact .inl trivial
  | @store c next relay _ ih =>
    have run : (ask (.store c) next).runOpen w =
      (next (w.answer (.store c)).1).runOpen (w.answer (.store c)).2 := rfl
    cases e : (w.answer (.store c)).1 with
    | error e' =>
      refine .inr ⟨e', ?_⟩
      rw [run, e, relay]
      rfl
    | ok x =>
      rw [run, Served, e]
      exact (ih x _).imp (fun rest => ⟨⟨x, e⟩, rest⟩) id
  | draw draws _ ih => exact (ih _ _).imp (fun rest => ⟨serves_of_isDraw draws, rest⟩) id

theorem Drawing.bind_relays {p : Program α} {f : α → Program (Except Failure β)}
    (h : p.Drawing) (k : ∀ a, (f a).Relays) : (p.bind f).Relays :=
  h.bind_keeps .draw k

end Program

namespace Action

/-- The action passes errors of the store on, and goes no further. -/
def Relays (a : Action α) : Prop := Program.Relays (ExceptT.run a)

variable {a : Action α} {f : α → Action β}

theorem relays_pure (x : α) : (pure x : Action α).Relays := .done _

theorem relays_throw (e : Failure) : (throw e : Action α).Relays := .done _

theorem relays_store (c : Call) : (store c).Relays := .store (fun _ => rfl) fun _ => .done _

theorem relays_perform {p : Program α} (h : p.Drawing) : (perform p).Relays :=
  h.bind_relays fun _ => .done _

theorem relays_orFail (e : Failure) (o : Option α) : (orFail e o).Relays := by
  cases o <;> exact .done _

theorem relays_require (c : Bool) (e : Failure) : (require c e).Relays := by
  cases c <;> exact .done _

theorem Relays.bind (h : a.Relays) (k : ∀ x, (f x).Relays) : (a >>= f).Relays := by
  have go {p : Program (Except Failure α)} (h : p.Relays) :
      (p.bind (ExceptT.bindCont f)).Relays := by
    induction h with
    | done out =>
      cases out with
      | ok x => exact k x
      | error e => exact .done _
    | store relay _ ih =>
      refine .store (fun e => ?_) ih
      rw [relay]
      rfl
    | draw draws _ ih => exact .draw draws ih
  exact go h

theorem served_perform_bind {p : Program α} (h : p.Drawing) {f : α → Action β} {w : World}
    (k : Program.Served (ExceptT.run (f (p.runOpen w).1)) (p.runOpen w).2) :
    Program.Served (ExceptT.run (perform p >>= f)) w := by
  rw [perform_bind]
  induction h generalizing w with
  | done a => exact k
  | ask draws _ ih => exact ⟨Program.serves_of_isDraw draws, ih _ k⟩

end Action

/-! ## §2 Calls pass them on, and have failures of their own -/

namespace Service

open Action

variable {workspace : Uuid} {actor : Identity}

namespace Credentials

open Token (Issuer)

theorem relays_renew (issuer : Issuer) (user : User) : (renew issuer user).Relays := by
  refine .bind (relays_perform (issuer.drawing_issuePair user)) fun pair => ?_
  exact .bind (relays_store _) fun _ => .bind (relays_store _) fun _ => relays_pure pair

theorem relays_signup (issuer : Issuer) (hasher : Password.Hasher)
    (name email password : String) : (signup issuer hasher name email password).Relays := by
  refine .bind (.bind (relays_perform Program.drawing_drawSalt) fun salt => ?_) fun text => ?_
  · cases hasher.hash salt password with
    | ok text => exact relays_pure text
    | error detail => exact relays_throw _
  · refine .bind (relays_store _) fun _ => .bind (relays_store _) fun known => ?_
    refine .bind (relays_require _ _) fun _ => ?_
    refine .bind (relays_perform Program.drawing_drawId) fun id => ?_
    refine .bind (relays_perform Program.drawing_readClock) fun now => ?_
    refine .bind (relays_store _) fun user => ?_
    refine .bind (relays_perform (issuer.drawing_issuePair user)) fun pair => ?_
    exact .bind (relays_store _) fun _ => relays_pure pair

theorem relays_login (issuer : Issuer) (hasher : Password.Hasher) (email password : String) :
    (login issuer hasher email password).Relays := by
  refine .bind (relays_store _) fun _ => .bind (relays_store _) fun found => ?_
  refine .bind (relays_orFail _ _) fun user => .bind (relays_require _ _) fun _ => ?_
  exact relays_renew issuer user

theorem relays_refresh (issuer : Issuer) (token : String) : (refresh issuer token).Relays := by
  refine .bind (relays_perform Program.drawing_readClock) fun now => ?_
  refine .bind (relays_orFail _ _) fun claims => ?_
  refine .bind (relays_store _) fun _ => .bind (relays_store _) fun found => ?_
  refine .bind (relays_orFail _ _) fun user => .bind (relays_require _ _) fun _ => ?_
  exact relays_renew issuer user

end Credentials

namespace Members

/-- A lookup that must find something. -/
theorem relays_find (c : Call) (f : Failure) {found : c.Result → Option α} :
    (store c >>= fun x => orFail f (found x)).Relays :=
  .bind (relays_store c) fun _ => relays_orFail _ _

theorem relays_enter_bind {k : Workspace → Membership → Action α} (h : ∀ w m, (k w m).Relays) :
    (begin >>= fun _ => requireWorkspace workspace >>= fun w =>
      requireActor workspace actor >>= fun m => k w m).Relays :=
  .bind (relays_store _) fun _ => .bind (relays_find (.findWorkspace ..) _) fun w =>
    .bind (relays_find (.findMembership ..) _) fun m => h w m

theorem relays_save (m : Membership) : (store (.saveMembership m) >>= fun _ => commit).Relays :=
  .bind (relays_store _) fun _ => relays_store _

theorem relays_stepDown (m : Membership) : (stepDown m).Relays :=
  .bind (relays_store _) fun _ => relays_pure ()

theorem relays_stepDownFor (role : Role) (m : Membership) : (stepDownFor role m).Relays := by
  unfold stepDownFor
  split
  · exact relays_stepDown m
  · exact relays_pure ()

theorem relays_joining (target : User) (role : Role) (old : Option Membership) :
    (joining workspace target role old).Relays := by
  cases old with
  | some m => exact .bind (relays_perform Program.drawing_readClock) fun _ => relays_pure _
  | none =>
    exact .bind (relays_perform Program.drawing_drawId) fun _ =>
      .bind (relays_perform Program.drawing_readClock) fun _ => relays_pure _

theorem relays_requireUser (email : String) : (requireUser email).Relays :=
  relays_find (.findUserByEmail _) _

theorem relays_requireTarget (target : User) : (requireTarget workspace target).Relays :=
  relays_find (.findMembership ..) _

theorem relays_change (wish : Change) : (wish.action workspace actor).Relays := by
  cases wish with
  | add email role =>
    refine relays_enter_bind fun _ acting => ?_
    refine .bind (relays_require _ _) fun _ => .bind (relays_require _ _) fun _ => ?_
    refine .bind (relays_requireUser email) fun target => .bind (relays_store _) fun old => ?_
    refine .bind (relays_require _ _) fun _ => .bind (relays_stepDownFor role acting) fun _ => ?_
    exact .bind (relays_joining target role old) fun m => relays_save m
  | remove email =>
    refine relays_enter_bind fun _ acting => .bind (relays_require _ _) fun _ => ?_
    refine .bind (relays_requireUser email) fun target => ?_
    refine .bind (relays_requireTarget target) fun m => ?_
    refine .bind (relays_require _ _) fun _ => .bind (relays_require _ _) fun _ => ?_
    exact .bind (relays_perform Program.drawing_readClock) fun _ => relays_save _
  | changeRole email role =>
    refine relays_enter_bind fun _ acting => ?_
    refine .bind (relays_require _ _) fun _ => .bind (relays_require _ _) fun _ => ?_
    refine .bind (relays_requireUser email) fun target => ?_
    refine .bind (relays_requireTarget target) fun m => .bind (relays_require _ _) fun _ => ?_
    exact .bind (relays_stepDownFor role acting) fun _ => relays_save _
  | leave =>
    refine relays_enter_bind fun _ acting => .bind (relays_require _ _) fun _ => ?_
    exact .bind (relays_perform Program.drawing_readClock) fun _ => relays_save _
  | transferOwnership email =>
    refine relays_enter_bind fun _ acting => .bind (relays_require _ _) fun _ => ?_
    refine .bind (relays_requireUser email) fun target => .bind (relays_require _ _) fun _ => ?_
    refine .bind (relays_requireTarget target) fun m => ?_
    exact .bind (relays_stepDown acting) fun _ => relays_save _

theorem relays_checkPermission (p : Permission) :
    (checkPermission workspace actor p).Relays := by
  refine .bind (relays_store _) fun _ => .bind (relays_store _) fun found => ?_
  cases found with
  | none => exact relays_pure _
  | some _ => exact .bind (relays_store _) fun _ => relays_pure _

end Members

namespace Workspaces

theorem relays_create (name : String) (type : WorkspaceType) (owner : Identity) :
    (create name type owner).Relays := by
  refine .bind (relays_store _) fun _ => ?_
  refine .bind (relays_perform Program.drawing_drawId) fun _ => ?_
  refine .bind (relays_perform Program.drawing_readClock) fun _ => ?_
  refine .bind (relays_store _) fun workspace => ?_
  refine .bind (relays_perform Program.drawing_drawId) fun _ => ?_
  refine .bind (relays_perform Program.drawing_readClock) fun _ => ?_
  exact .bind (relays_store _) fun _ => .bind (relays_store _) fun _ => relays_pure workspace.id

theorem relays_update (name : String) (type : WorkspaceType) :
    (update workspace actor name type).Relays :=
  Members.relays_enter_bind fun _ _ => .bind (relays_require _ _) fun _ =>
    .bind (relays_store _) fun _ => relays_store _

theorem relays_delete : (delete workspace actor).Relays :=
  Members.relays_enter_bind fun _ _ => .bind (relays_require _ _) fun _ =>
    .bind (relays_perform Program.drawing_readClock) fun _ =>
      .bind (relays_store _) fun _ => relays_store _

end Workspaces

theorem Command.relays (o : Office) (c : Command) : (c.action o).Relays := by
  cases c with
  | signup name email password => exact Credentials.relays_signup _ _ _ _ _
  | login email password => exact Credentials.relays_login _ _ _ _
  | refresh token => exact Credentials.relays_refresh _ _
  | create name type owner => exact Workspaces.relays_create _ _ _
  | update workspace actor name type => exact Workspaces.relays_update _ _
  | delete workspace actor => exact Workspaces.relays_delete
  | change workspace actor wish => exact Members.relays_change wish
  | details workspace actor =>
    exact .bind (relays_store _) fun _ => .bind (relays_store _) fun _ => relays_orFail _ _
  | list actor => exact .bind (relays_store _) fun _ => relays_store _
  | check workspace actor permission => exact Members.relays_checkPermission permission
  | count workspace => exact .bind (relays_store _) fun _ => relays_store _

/-- None of the refusals stands for an error of the store. -/
def Own (x : Except Failure α) : Prop := ∀ f, x = .error f → f.isStores = false

theorem own_ok (x : α) : Own (.ok x) := nofun

theorem own_error {f : Failure} (own : f.isStores = false) : Own (.error f : Except Failure α) := by
  rintro _ ⟨⟩
  exact own

theorem Own.bind {x : Except Failure α} {g : α → Except Failure β} (h : Own x)
    (k : ∀ a, Own (g a)) : Own (x >>= g) := by
  cases x with
  | ok a => exact k a
  | error f => exact own_error (h f rfl)

namespace Roll

variable {v : Roll}

theorem own_check {p : Prop} [Decidable p] {f : Failure} (own : f.isStores = false) :
    Own (check p f) := by
  unfold check
  split
  · exact own_ok ()
  · exact own_error own

theorem own_rank (user : Uuid) (text : String) : Own (v.rank user workspace text) := by
  unfold rank
  split
  · exact own_ok _
  · exact own_error rfl

theorem own_target (email : String) : Own (v.target email) := by
  unfold target
  split
  · exact own_ok _
  · exact own_error rfl

theorem own_enter (user : Uuid) : Own (v.enter workspace user) :=
  (own_check rfl).bind fun _ => own_rank _ _

/-- The table refuses nothing as the store does. -/
theorem own_decide (user : Uuid) (wish : Change) : Own (v.decide workspace user wish) := by
  cases wish with
  | add email role =>
    refine (own_enter user).bind fun _ => (own_check rfl).bind fun _ => ?_
    refine (own_check rfl).bind fun _ => (own_target email).bind fun _ => ?_
    exact (own_check rfl).bind fun _ => own_ok _
  | remove email =>
    refine (own_enter user).bind fun _ => (own_check rfl).bind fun _ => ?_
    refine (own_target email).bind fun _ => (own_rank _ _).bind fun _ => ?_
    exact (own_check rfl).bind fun _ => (own_check rfl).bind fun _ => own_ok _
  | changeRole email role =>
    refine (own_enter user).bind fun _ => (own_check rfl).bind fun _ => ?_
    refine (own_check rfl).bind fun _ => (own_target email).bind fun _ => ?_
    exact (own_rank _ _).bind fun _ => (own_check rfl).bind fun _ => own_ok _
  | leave => exact (own_enter user).bind fun _ => (own_check rfl).bind fun _ => own_ok _
  | transferOwnership email =>
    refine (own_enter user).bind fun _ => (own_check rfl).bind fun _ => ?_
    refine (own_target email).bind fun _ => (own_check rfl).bind fun _ => ?_
    exact (own_rank _ _).bind fun _ => own_ok _

end Roll

variable {s : State} {supply : Supply}

theorem own_authorize (p : Permission) (text : String) :
    Own (s.authorize workspace actor p text) := by
  unfold State.authorize
  split
  · exact own_error rfl
  · split
    · exact own_error rfl
    · split
      · exact own_ok _
      · exact own_error rfl

/-! ## §3 Calls on tables that calls lead to -/

variable {o : Office}

/-- The call is to sign up under an address that an account has. -/
def Command.Known (s : State) : Command → Prop
  | .signup _ email _ => ∃ u, s.userByEmail? (normalizeEmail email) = some u
  | _ => False

/-- A workspace that does not exist has no rows that its first owner could clash with. -/
theorem admits_founder (h : s.Sound) (g : s.roll.Governed) {name : String} {type : WorkspaceType}
    {owner : Identity} (free : ¬o.Collides (idle s supply) (.create name type owner)) :
    s.Admits (.workspace (founded supply name type)) ∧
      (s.put (.workspace (founded supply name type))).Admits
        (.membership (founder supply owner.user)) := by
  obtain ⟨freeW, freeM⟩ := not_or.1 free
  have new : ∀ x ∈ s.workspaces.rows, x.id ≠ supply.drawId.1 :=
    fun x hx e => freeW ⟨x, hx, e⟩
  -- A row of the workspace would give its user a standing in one that does not exist.
  have unpeopled : ∀ n ∈ s.memberships.rows, n.workspace ≠ supply.drawId.1 := by
    intro n hn e
    have absent : s.roll.status n.workspace = .absent := by
      show s.status n.workspace = .absent
      rw [State.status, Store.Table.find?_eq_none.2 (e ▸ new)]
    have stands := h.standing_of_mem hn
    rw [g.unpeopled n.user n.workspace absent] at stands
    unfold Membership.standing at stands
    split at stands <;> cases stands
  have hw : s.Admits (.workspace (founded supply name type)) :=
    (Store.Table.carries_zero h.workspaceVersions).2 new
  refine ⟨hw, (h.put_workspace hw).admits_fresh rfl (fun n hn e => freeM ⟨n, hn, e⟩)
    (fun n hn e => absurd e (unpeopled n hn)) fun _ n hn e => absurd e (unpeopled n hn)⟩

/-- The failures of a call that may stand for errors of the store, and when they come. -/
theorem failure_cases (h : Registry s) (g : s.roll.Governed) {c : Command}
    (hashes : o.Hashes (idle s supply) c) :
    Own (o.carry c (idle s supply)).1 ∨
      (o.carry c (idle s supply)).1 = .error .conflict ∧ o.Collides (idle s supply) c ∨
      (o.carry c (idle s supply)).1 = .error .duplicateIdentity ∧ c.Known s := by
  cases c with
  | signup name email password =>
    obtain ⟨text, hashed⟩ := hashes
    rcases signup_cases_of_hash h.sound supply name email hashed with
      ⟨v, known, run⟩ | ⟨unknown, ⟨taken, later, run⟩ | ⟨-, -, pair, later, run⟩⟩
    · exact .inr (.inr ⟨congrArg Prod.fst run, v, known⟩)
    · exact .inr (.inl ⟨congrArg Prod.fst run, ⟨text, hashed⟩, unknown, taken⟩)
    · rw [run]
      exact .inl (own_ok pair)
  | login email password =>
    refine .inl ?_
    rw [Office.carry, Command.action, Credentials.run_login h.sound]
    cases s.opened? o.hasher email password with
    | none => exact own_error rfl
    | some u => exact own_ok _
  | refresh token =>
    refine .inl ?_
    rw [Office.carry, Command.action, Credentials.run_refresh h.sound]
    cases s.bearer? o.issuer supply.readClock.1 token with
    | none => exact own_error rfl
    | some u => exact own_ok _
  | create name type owner =>
    rcases create_outcome s supply name type owner with
      ⟨refused, later, run⟩ | ⟨-, -, later, run⟩
    · refine .inr (.inl ⟨congrArg Prod.fst run, ?_⟩)
      exact Classical.not_not.1 (mt (admits_founder h.sound g) refused)
    · exact .inl (congrArg Prod.fst run ▸ own_ok _)
  | update workspace actor name type =>
    refine .inl ?_
    rw [Office.carry, Command.action, run_update]
    have own : Own (s.authorize workspace actor .updateWorkspace
      "Only owner or admin can update the workspace") := own_authorize _ _
    cases e : s.authorize workspace actor .updateWorkspace
        "Only owner or admin can update the workspace" with
    | error f => exact own_error (own f e)
    | ok w => exact own_ok ()
  | delete workspace actor =>
    refine .inl ?_
    rw [Office.carry, Command.action, run_delete]
    have own : Own (s.authorize workspace actor .deleteWorkspace
      "Only the owner can delete the workspace") := own_authorize _ _
    cases e : s.authorize workspace actor .deleteWorkspace
        "Only the owner can delete the workspace" with
    | error f => exact own_error (own f e)
    | ok w => exact own_ok ()
  | change workspace actor wish =>
    rw [Office.carry, Command.action]
    rcases change_enacted h.sound supply workspace actor wish with
      ⟨f, refused, run⟩ | ⟨v, decided, acting, role, m, later, e, -, run⟩
    · rw [run]
      exact .inl (own_error (Roll.own_decide actor.user wish f refused))
    · by_cases admits : (s.yielded acting role).Admits (.membership m)
      · rw [run, run_lastSave admits]
        exact .inl (own_ok ())
      · rw [run, Action.run_saveMembership_refused admits]
        -- The version was read in this unit of work, and the acting owner has stepped down.
        refine .inr (.inl ⟨rfl, ?_⟩)
        by_contra free
        exact admits (e.admits h.sound fun new taken =>
          free ⟨⟨v, decided⟩, ⟨m.user, e.target, new⟩, taken⟩)
  | details workspace actor =>
    refine .inl ?_
    rw [Office.carry, Command.action, run_details]
    cases (s.detailsFor actor.user (some workspace)).head? with
    | none => exact own_error rfl
    | some d => exact own_ok d
  | list actor => exact .inl (own_ok _)
  | check workspace actor permission =>
    refine .inl ?_
    rw [Office.carry, Command.action, run_checkPermission]
    exact own_ok _
  | count workspace => exact .inl (own_ok _)

theorem duplicate_of_known (h : Registry s) {c : Command} (hashes : o.Hashes (idle s supply) c)
    (known : c.Known s) :
    (o.carry c (idle s supply)).1 = .error .duplicateIdentity := by
  cases c with
  | signup name email password =>
    exact (h.signup_duplicate supply hashes).2 (h.known_iff.1 known)
  | _ => exact known.elim

/-- Signing up finds out by itself that the address is known, and goes no further. -/
theorem served_of_known {c : Command} (hashes : o.Hashes (idle s supply) c) (known : c.Known s) :
    Program.Served (ExceptT.run (c.action o)) (idle s supply) := by
  cases c with
  | signup name email password =>
    obtain ⟨u, known⟩ := known
    obtain ⟨text, hashed⟩ := hashes
    rw [Command.action, Credentials.signup, Credentials.hashPassword, bind_assoc]
    refine served_perform_bind Program.drawing_drawSalt ?_
    have hashed : o.hasher.hash (Program.drawSalt.runOpen (idle s supply)).1 password = .ok text :=
      hashed
    rw [hashed]
    -- `begin` and the lookup are answered; the check of the lookup ends the call.
    refine ⟨⟨(), rfl⟩, ⟨some u, congrArg Except.ok known⟩, ?_⟩
    show Program.Served (ExceptT.run (require (s.userByEmail? (normalizeEmail email)).isNone
      .duplicateIdentity >>= _)) (amid s s supply.drawSalt.2)
    rw [known]
    trivial
  | _ => exact known.elim

end Service

/-! ## §4 New identifiers -/

/-- Some row has the identifier. -/
def Store.State.Has (s : State) (id : Uuid) : Prop :=
  (∃ u ∈ s.users.rows, u.id = id) ∨ (∃ x ∈ s.workspaces.rows, x.id = id) ∨
    ∃ m ∈ s.memberships.rows, m.id = id

/-- The next two identifiers are new; a call needs no more for the rows that it adds. -/
def World.Fresh (w : World) : Prop :=
  ∀ id ∈ [w.supply.drawId.1, w.supply.drawId.2.drawId.1], ¬w.published.Has id

instance (s : State) (id : Uuid) : Decidable (s.Has id) :=
  inferInstanceAs (Decidable (_ ∨ _ ∨ _))

instance (w : World) : Decidable w.Fresh :=
  inferInstanceAs (Decidable (∀ id ∈ _, ¬w.published.Has id))

namespace Service

variable {o : Office} {s : State} {supply : Supply}

theorem not_collides_of_fresh {w : World} (fresh : w.Fresh) (c : Command) : ¬o.Collides w c := by
  have first := fresh _ (List.mem_cons_self ..)
  have second := fresh _ (List.mem_cons_of_mem _ (List.mem_cons_self ..))
  cases c with
  | signup name email password => exact fun ⟨_, _, taken⟩ => first (.inl taken)
  | create name type owner =>
    rintro (taken | taken)
    · exact first (.inr (.inl taken))
    · exact second (.inr (.inr taken))
  | change workspace actor wish => exact fun ⟨_, _, taken⟩ => first (.inr (.inr taken))
  | _ => exact not_false

/--
After any calls, let any call be next; if it is to sign up, its password can be
hashed. The call is a conflict exactly if it is to add a row under an identifier
that is taken, and it never fails for a reason inside the service. That an
address is in use already is an answer of signing up alone, which looks for it
before it saves. So with new identifiers no request of the call fails at all: no
save is refused for its version, its address, its pair or its owner.
-/
theorem guards_unreachable (o : Office) (supply : Supply) (cs : List Command) (c : Command)
    (hashes : o.Hashes (o.after cs (idle .empty supply)) c) :
    let w := o.after cs (idle .empty supply)
    let answer := (o.carry c w).1
    (answer = .error .conflict ↔ o.Collides w c) ∧
    (∀ detail, answer ≠ .error (.internal detail)) ∧
    (answer = .error .duplicateIdentity ↔ c.Known w.published) ∧
    (w.Fresh → answer ≠ .error .conflict ∧ Program.Served (ExceptT.run (c.action o)) w) := by
  intro w answer
  obtain ⟨s, later, there, registry⟩ := o.reached cs supply
  have here : w = idle s later := there
  have governed : s.roll.Governed := by
    have := (o.governed_after cs supply ⟨State.Sound.empty, governed_empty⟩).2
    rwa [there] at this
  rw [there] at hashes
  simp only [answer, here]
  have refused {f : Failure} (e : (o.carry c (idle s later)).1 = .error f) (stores : f.isStores) :
      f = .conflict ∧ o.Collides (idle s later) c ∨ f = .duplicateIdentity ∧ c.Known s := by
    rcases failure_cases registry governed hashes with own | ⟨e', why⟩ | ⟨e', why⟩
    · exact absurd stores (Bool.eq_false_iff.1 (own f e))
    · exact .inl ⟨Except.error.inj (e.symm.trans e'), why⟩
    · exact .inr ⟨Except.error.inj (e.symm.trans e'), why⟩
  refine ⟨⟨fun e => ?_, conflict_of_collides registry.sound o⟩, fun detail e => ?_,
    ⟨fun e => ?_, fun known => duplicate_of_known registry hashes known⟩, fun fresh => ?_⟩
  · rcases refused e rfl with ⟨-, collides⟩ | ⟨⟨⟩, -⟩
    exact collides
  · rcases refused e rfl with ⟨⟨⟩, -⟩ | ⟨⟨⟩, -⟩
  · rcases refused e rfl with ⟨⟨⟩, -⟩ | ⟨-, known⟩
    exact known
  · have free := not_collides_of_fresh (o := o) fresh c
    refine ⟨fun e => ?_, ?_⟩
    · rcases refused e rfl with ⟨-, collides⟩ | ⟨⟨⟩, -⟩
      exact free collides
    -- What stands for an error of the store may also be the answer of a check.
    · rcases (c.relays o).served (idle s later) with served | ⟨e, ends⟩
      · exact served
      · rcases refused ends (Failure.isStores_ofStore e) with ⟨-, collides⟩ | ⟨-, known⟩
        · exact absurd collides free
        · exact served_of_known hashes known

/-- Nobody is in the way of the first change in a workspace, which adds its second member. -/
theorem guards_unreachable_add :
    let founder : Identity := ⟨.ofNat 7, "f@b"⟩
    let cs : List Command := [.signup "N" "n@b" "p", .create "Acme" .team founder]
    let w := Office.small.after cs (idle .empty .counting)
    let c : Command := .change (.ofNat 3) founder (.add "N@b" .owner)
    w.Fresh ∧ Program.Served (ExceptT.run (c.action .small)) w := by
  intro founder cs w c
  obtain ⟨-, -, -, served⟩ := guards_unreachable .small .counting cs c trivial
  have fresh : w.Fresh := by decide +kernel
  exact ⟨fresh, (served fresh).2⟩

end Service

end Roster
