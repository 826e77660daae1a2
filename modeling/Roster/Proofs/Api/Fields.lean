/-
Roster.Proofs.Api.Fields — what is stored keeps to the rules for its fields.

The rules are about what was sent, and what is stored is something else: names are
trimmed, addresses are trimmed and put in lower case. For each rule there is a lemma
about what is left of a value that keeps to it (§1). Rows are then followed
from both sides: a call whose names keep to the rules saves rows that do, as long as the rows
that it finds do (§2), and the calls that may be read from a request, whatever
its bytes, have such names (§3). So the tables keep to the rules in all runs of
requests, one after another or at the same time (`stored_fit`, §4).
-/
import Roster.Proofs.Api.Boundary
import Roster.Proofs.Service.Upholding
import Roster.Proofs.Text.NormalForm

namespace Roster

open Store (State Row)
open Service (Office Command Change)

/-! ## §1 Rules -/

/-- A name as it is kept: no white space at its ends, and a length within the bounds. -/
structure Text.Fits (least greatest : Nat) (name : String) : Prop where
  trimmed : Text.trim name = name
  least : least ≤ name.length
  greatest : name.length ≤ greatest

theorem Text.fits_trim {least greatest : Nat} {s : String}
    (lower : least ≤ (Text.trimChars s.toList).length)
    (upper : (Text.trimChars s.toList).length ≤ greatest) :
    Text.Fits least greatest (Text.trim s) where
  trimmed := Text.trim_trim s
  least := by rwa [Text.trim, String.length_ofList]
  greatest := by rwa [Text.trim, String.length_ofList]

namespace Rule

variable {s : String}

theorem length_eq_none {least : Nat} {greatest : Option Nat} {message : String} :
    Rule.length least greatest message s = none ↔
      least ≤ s.length ∧ greatest.all (s.length ≤ ·) = true := by
  simp [Rule.length]

theorem notBlank_eq_none : notBlank s = none ↔ 0 < (Text.trimChars s.toList).length := by
  simp [notBlank, List.length_pos_iff]

theorem workspaceName_eq_none :
    workspaceName s = none ↔
      3 ≤ (Text.trimChars s.toList).length ∧ (Text.trimChars s.toList).length ≤ 50 := by
  simp [workspaceName]

end Rule

/-- There is nothing to say about a field exactly if all its rules hold. -/
theorem Report.check_eq_nil {field value : String} {rules : List Rule} :
    Report.check field rules value = [] ↔ ∀ rule ∈ rules, rule value = none := by
  unfold Report.check
  split <;> simp_all

/-! ## §2 Calls -/

/-- The row has the fields that are stored in the form in which they are kept. -/
def Store.Row.Fit : Row → Prop
  | .user u => Text.Fits 1 100 u.name ∧ normalizeEmail u.email = u.email
  | .workspace w => Text.Fits 3 50 w.name
  | .membership _ => True

/-- What is left of the names in a call, once they are trimmed, fits. -/
def Service.Command.Fit : Command → Prop
  | .signup name _ _ => Text.Fits 1 100 (Text.trim name)
  | .create name _ _ | .update _ _ name _ => Text.Fits 3 50 (Text.trim name)
  | _ => True

namespace Service

open Action

variable {α : Type} {workspace : Uuid} {actor : Identity}

/-- A row that a call saves, where it saves no other. -/
theorem forall_saved {x : Row} {P : Row → Prop} (h : P x.saved) : ∀ y ∈ some x, P y.saved := by
  rintro _ ⟨⟩
  exact h

namespace Credentials

open Token (Issuer)

theorem upholds_renew (issuer : Issuer) {user : User} (h : Row.Fit (.user user)) :
    (renew issuer user).Upholds Row.Fit := by
  refine .bind (upholds_perform (issuer.drawing_issuePair user)) fun pair => ?_
  refine .bind (upholds_store (forall_saved h)) fun _ => ?_
  exact .bind (upholds_ask rfl) fun _ => upholds_pure pair

/-- The account that is opened has the trimmed name, and an address in normal form. -/
theorem upholds_signup (issuer : Issuer) (hasher : Password.Hasher) {name : String}
    (h : Text.Fits 1 100 (Text.trim name)) (email password : String) :
    (signup issuer hasher name email password).Upholds Row.Fit := by
  refine .bind (.bind (upholds_perform Program.drawing_drawSalt) fun salt => ?_) fun text => ?_
  · cases hasher.hash salt password with
    | ok text => exact upholds_pure text
    | error detail => exact upholds_throw _
  · refine .bind (upholds_ask rfl) fun _ => .bind (upholds_ask rfl) fun known => ?_
    refine .bind (upholds_require _ _) fun _ => ?_
    refine .bind (upholds_perform Program.drawing_drawId) fun id => ?_
    refine .bind (upholds_perform Program.drawing_readClock) fun now => ?_
    refine .bind (upholds_store (forall_saved ⟨h, normalizeEmail_normalizeEmail _⟩)) fun user => ?_
    refine .bind (upholds_perform (issuer.drawing_issuePair user)) fun pair => ?_
    exact .bind (upholds_ask rfl) fun _ => upholds_pure pair

theorem upholds_login (issuer : Issuer) (hasher : Password.Hasher) (email password : String) :
    (login issuer hasher email password).Upholds Row.Fit := by
  refine .bind (upholds_ask rfl) fun _ => upholds_ask_bind rfl fun found shown => ?_
  refine upholds_orFail_bind _ fun user hu => .bind (upholds_require _ _) fun _ => ?_
  exact upholds_renew issuer (shown user hu)

theorem upholds_refresh (issuer : Issuer) (token : String) :
    (refresh issuer token).Upholds Row.Fit := by
  refine .bind (upholds_perform Program.drawing_readClock) fun now => ?_
  refine .bind (upholds_orFail _ _) fun claims => ?_
  refine .bind (upholds_ask rfl) fun _ => upholds_ask_bind rfl fun found shown => ?_
  refine upholds_orFail_bind _ fun user hu => .bind (upholds_require _ _) fun _ => ?_
  exact upholds_renew issuer (shown user hu)

end Credentials

namespace Members

theorem upholds_find (c : Call) (reads : c.saved? = none) (f : Failure)
    {found : c.Result → Option α} :
    (store c >>= fun x => orFail f (found x)).Upholds Row.Fit :=
  .bind (upholds_ask reads) fun _ => upholds_orFail _ _

/-- The workspace that an operation begins with is shown, and its row fits. -/
theorem upholds_enter_bind {k : Workspace → Membership → Action α}
    (h : ∀ w m, Row.Fit (.workspace w) → (k w m).Upholds Row.Fit) :
    (begin >>= fun _ => requireWorkspace workspace >>= fun w =>
      requireActor workspace actor >>= fun m => k w m).Upholds Row.Fit := by
  refine .bind (upholds_ask rfl) fun _ => ?_
  rw [requireWorkspace, bind_assoc]
  refine upholds_ask_bind rfl fun found shown => upholds_orFail_bind _ fun w hw => ?_
  exact .bind (upholds_find (.findMembership ..) rfl _) fun m => h w m (shown w hw)

theorem upholds_saveMembership (m : Membership) :
    (store (.saveMembership m)).Upholds Row.Fit := upholds_store (forall_saved trivial)

theorem upholds_save (m : Membership) :
    (store (.saveMembership m) >>= fun _ => commit).Upholds Row.Fit :=
  .bind (upholds_saveMembership m) fun _ => upholds_ask rfl

theorem upholds_stepDown (m : Membership) : (stepDown m).Upholds Row.Fit :=
  .bind (upholds_saveMembership _) fun _ => upholds_pure ()

theorem upholds_stepDownFor (role : Role) (m : Membership) :
    (stepDownFor role m).Upholds Row.Fit := by
  unfold stepDownFor
  split
  · exact upholds_stepDown m
  · exact upholds_pure ()

theorem upholds_joining (target : User) (role : Role) (old : Option Membership) :
    (joining workspace target role old).Upholds Row.Fit := by
  cases old with
  | some m => exact .bind (upholds_perform Program.drawing_readClock) fun _ => upholds_pure _
  | none =>
    exact .bind (upholds_perform Program.drawing_drawId) fun _ =>
      .bind (upholds_perform Program.drawing_readClock) fun _ => upholds_pure _

theorem upholds_requireUser (email : String) : (requireUser email).Upholds Row.Fit :=
  upholds_find (.findUserByEmail _) rfl _

theorem upholds_requireTarget (target : User) :
    (requireTarget workspace target).Upholds Row.Fit :=
  upholds_find (.findMembership ..) rfl _

/-- A change saves memberships, for which there is no rule. -/
theorem upholds_change (wish : Change) : (wish.action workspace actor).Upholds Row.Fit := by
  cases wish with
  | add email role =>
    refine upholds_enter_bind fun _ acting _ => ?_
    refine .bind (upholds_require _ _) fun _ => .bind (upholds_require _ _) fun _ => ?_
    refine .bind (upholds_requireUser email) fun target => .bind (upholds_ask rfl) fun old => ?_
    refine .bind (upholds_require _ _) fun _ => ?_
    refine .bind (upholds_stepDownFor role acting) fun _ => ?_
    exact .bind (upholds_joining target role old) fun m => upholds_save m
  | remove email =>
    refine upholds_enter_bind fun _ acting _ => .bind (upholds_require _ _) fun _ => ?_
    refine .bind (upholds_requireUser email) fun target => ?_
    refine .bind (upholds_requireTarget target) fun m => ?_
    refine .bind (upholds_require _ _) fun _ => .bind (upholds_require _ _) fun _ => ?_
    exact .bind (upholds_perform Program.drawing_readClock) fun _ => upholds_save _
  | changeRole email role =>
    refine upholds_enter_bind fun _ acting _ => ?_
    refine .bind (upholds_require _ _) fun _ => .bind (upholds_require _ _) fun _ => ?_
    refine .bind (upholds_requireUser email) fun target => ?_
    refine .bind (upholds_requireTarget target) fun m => .bind (upholds_require _ _) fun _ => ?_
    exact .bind (upholds_stepDownFor role acting) fun _ => upholds_save _
  | leave =>
    refine upholds_enter_bind fun _ acting _ => .bind (upholds_require _ _) fun _ => ?_
    exact .bind (upholds_perform Program.drawing_readClock) fun _ => upholds_save _
  | transferOwnership email =>
    refine upholds_enter_bind fun _ acting _ => .bind (upholds_require _ _) fun _ => ?_
    refine .bind (upholds_requireUser email) fun target => .bind (upholds_require _ _) fun _ => ?_
    refine .bind (upholds_requireTarget target) fun m => ?_
    exact .bind (upholds_stepDown acting) fun _ => upholds_save _

theorem upholds_checkPermission (p : Permission) :
    (checkPermission workspace actor p).Upholds Row.Fit := by
  refine .bind (upholds_ask rfl) fun _ => .bind (upholds_ask rfl) fun found => ?_
  cases found with
  | none => exact upholds_pure _
  | some _ => exact .bind (upholds_ask rfl) fun _ => upholds_pure _

end Members

namespace Workspaces

theorem upholds_create {name : String} (h : Text.Fits 3 50 (Text.trim name))
    (type : WorkspaceType) (owner : Identity) : (create name type owner).Upholds Row.Fit := by
  refine .bind (upholds_ask rfl) fun _ => ?_
  refine .bind (upholds_perform Program.drawing_drawId) fun _ => ?_
  refine .bind (upholds_perform Program.drawing_readClock) fun _ => ?_
  refine .bind (upholds_store (forall_saved h)) fun _ => ?_
  refine .bind (upholds_perform Program.drawing_drawId) fun _ => ?_
  refine .bind (upholds_perform Program.drawing_readClock) fun _ => ?_
  refine .bind (Members.upholds_saveMembership _) fun _ => ?_
  exact .bind (upholds_ask rfl) fun _ => upholds_pure _

theorem upholds_update {name : String} (h : Text.Fits 3 50 (Text.trim name))
    (type : WorkspaceType) : (update workspace actor name type).Upholds Row.Fit := by
  refine Members.upholds_enter_bind fun _ _ _ => .bind (upholds_require _ _) fun _ => ?_
  exact .bind (upholds_store (forall_saved h)) fun _ => upholds_ask rfl

/-- A tombstone is put on the row that was found. -/
theorem upholds_delete : (delete workspace actor).Upholds Row.Fit := by
  refine Members.upholds_enter_bind fun w _ fit => .bind (upholds_require _ _) fun _ => ?_
  refine .bind (upholds_perform Program.drawing_readClock) fun now => ?_
  exact .bind (upholds_store (forall_saved fit)) fun _ => upholds_ask rfl

end Workspaces

/-- Calls whose names fit save rows that fit. -/
theorem Command.upholds (o : Office) {c : Command} (h : c.Fit) :
    (c.action o).Upholds Row.Fit := by
  cases c with
  | signup name email password => exact Credentials.upholds_signup _ _ h _ _
  | login email password => exact Credentials.upholds_login _ _ _ _
  | refresh token => exact Credentials.upholds_refresh _ _
  | create name type owner => exact Workspaces.upholds_create h _ _
  | update workspace actor name type => exact Workspaces.upholds_update h _
  | delete workspace actor => exact Workspaces.upholds_delete
  | change workspace actor wish => exact Members.upholds_change wish
  | details workspace actor =>
    exact .bind (upholds_ask rfl) fun _ => Members.upholds_find (.listDetails ..) rfl _
  | list actor => exact .bind (upholds_ask rfl) fun _ => upholds_ask rfl
  | check workspace actor permission => exact Members.upholds_checkPermission permission
  | count workspace => exact .bind (upholds_ask rfl) fun _ => upholds_ask rfl

end Service

/-! ## §3 Requests -/

namespace Api

variable {α : Type}

/-- A form that was read has broken no rule. -/
theorem report_of_formOf [Form α] {r : Http.Request} {f : α} (h : formOf α r = .ok f) :
    Form.report f = [] := by
  unfold formOf at h
  split at h
  · cases h
  · split at h
    · cases h
    · split at h
      · cases h
      · rename_i form _
        dsimp only at h
        split at h
        · rename_i empty
          cases h
          exact List.isEmpty_iff.1 empty
        · cases h

theorem Yields.form [Form α] {P : Command → Prop} {g : α → Wish} (r : Http.Request)
    (h : ∀ f, Form.report f = [] → Yields P (g f)) :
    Yields P (Errand.read (formOf α r) >>= g) := by
  cases found : formOf α r with
  | error f => exact nofun
  | ok f => exact h f (report_of_formOf found)

theorem fits_of_signup {f : Signup} (h : Form.report f = []) :
    Text.Fits 1 100 (Text.trim f.name) := by
  simp only [Form.report, List.append_eq_nil_iff, Report.check_eq_nil, List.forall_mem_cons,
    Rule.length_eq_none, Rule.notBlank_eq_none] at h
  obtain ⟨⟨⟨⟨-, upper⟩, filled, -⟩, -⟩, -⟩ := h
  refine Text.fits_trim filled ?_
  calc _ ≤ f.name.toList.length := Text.length_trimChars_le _
    _ = f.name.length := String.length_toList
    _ ≤ 100 := by simpa using upper

theorem fits_of_workspaceForm {f : WorkspaceForm} (h : Form.report f = []) :
    Text.Fits 3 50 (Text.trim f.name) := by
  simp only [Form.report, Report.check_eq_nil, List.forall_mem_cons,
    Rule.workspaceName_eq_none] at h
  exact Text.fits_trim h.1.1 h.1.2

/-- Whatever the bytes of a request, the names in the call that it asks for fit. -/
theorem Endpoint.fit_call (endpoint : Endpoint) (e : Errand) :
    Yields Command.Fit (endpoint.call e) := by
  cases endpoint with
  | health | metrics | document | docsEntry | docsPage => exact nofun
  | signup => exact .form _ fun f valid => .call (fits_of_signup valid)
  | login | refresh => exact .read _ fun f => .call trivial
  | createWorkspace =>
    exact .caller fun i _ => .form _ fun f valid => .call (fits_of_workspaceForm valid)
  | updateWorkspace =>
    exact .callerAt fun i id _ => .form _ fun f valid => .call (fits_of_workspaceForm valid)
  | listWorkspaces => exact .caller fun i _ => .call trivial
  | workspaceDetails | countMembers | deleteWorkspace | leave =>
    exact .callerAt fun i id _ => .call trivial
  | addMember | changeRole | removeMember | transferOwnership =>
    exact .callerAt fun i id _ => .read _ fun f => .call trivial

/-- What an operation saves fits, as long as what it finds does. -/
theorem Endpoint.upholds_answer (setup : Setup) (traffic : Option Http.Traffic) (e : Errand)
    (endpoint : Endpoint) : (endpoint.answer setup traffic e).Upholds Row.Fit := by
  have does := answer_does setup traffic e endpoint
  cases read : endpoint.call e with
  | error f =>
    rw [read] at does
    exact (show _ = _ from does) ▸ .done _
  | ok asked =>
    cases asked with
    | none =>
      rw [read] at does
      exact Program.Asks.upholds does fun r hr => hr ▸ rfl
    | some c =>
      rw [read] at does
      rw [show endpoint.answer setup traffic e = _ from does]
      exact Program.Upholds.bind (Command.upholds _ (fit_call endpoint e c read)) fun _ => .done _

end Api

/-! ## §4 Runs of requests -/

/-- All stored names and addresses are in the form in which they are kept. -/
structure Store.State.Fit (s : State) : Prop where
  workspaces : ∀ w ∈ s.workspaces.rows,
    Text.trim w.name = w.name ∧ 3 ≤ w.name.length ∧ w.name.length ≤ 50
  users : ∀ u ∈ s.users.rows,
    Text.trim u.name = u.name ∧ u.name ≠ "" ∧ u.name.length ≤ 100
  addresses : ∀ u ∈ s.users.rows, normalizeEmail u.email = u.email

theorem Store.State.All.fit {s : State} (h : s.All Row.Fit) : s.Fit where
  workspaces w hw := by
    have fits : Text.Fits 3 50 w.name := h.workspace hw
    exact ⟨fits.trimmed, fits.least, fits.greatest⟩
  users u hu := by
    have fits : Text.Fits 1 100 u.name := (h.user hu).1
    refine ⟨fits.trimmed, fun empty => ?_, fits.greatest⟩
    have least := fits.least
    rw [empty] at least
    exact absurd least (by decide)
  addresses u hu := (h.user hu).2

namespace Site

/-- The service once it has answered requests, one after another. -/
def after (site : Site) (rs : List Http.Request) : Site :=
  rs.foldl (fun site r => (Serving.serve r site).2) site

variable {site : Site}

/-- One request, whoever sends it and whatever it holds. -/
theorem fit_serve (r : Http.Request) (closed : site.world.working = none)
    (fit : site.world.published.All Row.Fit) :
    (Serving.serve r site).2.world.published.All Row.Fit := by
  rcases Serving.published_or site r with same | ⟨c, v, asked, later, -, run⟩
  · rw [same]
    exact fit
  · obtain ⟨t, -, -, called⟩ := asked?_eq_some.1 asked
    have names := Api.Endpoint.fit_call _ _ c called
    rw [run]
    exact (Command.upholds site.setup.office names).run (later.published ▸ fit)
      (later.working.trans closed)

theorem fit_after (rs : List Http.Request) (closed : site.world.working = none)
    (fit : site.world.published.All Row.Fit) : (site.after rs).world.published.All Row.Fit := by
  induction rs generalizing site with
  | nil => exact fit
  | cons r rs ih => exact ih (Serving.closed_serve r closed) (fit_serve r closed fit)

open Api in
/--
From an empty store on, all that is stored keeps to the rules for its field: after any requests
one after another, whatever they hold and also where calls on the store fail,
and at every point of operations on requests that run at the same time, of
which some may be cancelled.
-/
theorem stored_fit (site : Site) (supply : Supply) (faults : List Fault) :
    (∀ rs : List Http.Request,
      ((site.within ⟨.empty, none, supply, faults⟩).after rs).world.published.Fit) ∧
    ∀ {ι : Type} [DecidableEq ι] (endpoint : ι → Endpoint) (errand : ι → Errand)
      (draws : ι → Supply) (events : List (Event ι)),
      ((Pool.start (fun i => (endpoint i).answer site.setup site.traffic (errand i))
        draws .empty).play events).published.Fit := by
  refine ⟨fun rs => ?_, fun endpoint errand draws events => ?_⟩
  · exact (fit_after rs rfl .empty).fit
  · have start := Pool.Upheld.start (P := Row.Fit) (s := .empty)
      (fun i => (endpoint i).upholds_answer site.setup site.traffic (errand i)) draws .empty
    exact (start.play events).published.fit

end Site

end Roster
