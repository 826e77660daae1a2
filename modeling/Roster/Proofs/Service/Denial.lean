/-
Roster.Proofs.Service.Denial — the check of permissions tells beforehand who is refused.

Six operations begin alike: they look up the workspace and the actor's
membership, and compare the actor's rank with a list of permissions (`Gate`, §2).
That much of an operation reads neither the account of any target nor any other
(`Gate.refusal?_congr`), and all that follows it refuses for other reasons (§1,
`gated_of_gate?`). So an actor for whom one of the checks says no is refused in
the same way whatever address they name and whoever has an account, and one for
whom all say yes gets past the gate (`check_foretells_denial`).
-/
import Roster.Proofs.Service.Accounts
import Roster.Proofs.Service.Outcomes

namespace Roster

open Store (State)
open World (idle amid)

variable {α β : Type}

/-! ## §1 For which reasons an operation may refuse -/

namespace Program

/-- However the requests are answered, the program ends as the property says. -/
def Ends (P : α → Prop) : Program α → Prop
  | done a => P a
  | ask _ next => ∀ answer, (next answer).Ends P

theorem Ends.runOpen {P : α → Prop} {p : Program α} (h : p.Ends P) (w : World) :
    P (p.runOpen w).1 := by
  induction p generalizing w with
  | done a => exact h
  | ask r next ih => exact ih _ (h _) _

theorem Ends.bind {P : α → Prop} {Q : β → Prop} {p : Program α} {f : α → Program β}
    (h : p.Ends P) (k : ∀ a, P a → (f a).Ends Q) : (p.bind f).Ends Q := by
  induction p with
  | done a => exact k a h
  | ask r next ih => exact fun answer => ih answer (h answer)

theorem ends_true (p : Program α) : p.Ends fun _ => True := by
  induction p with
  | done a => trivial
  | ask r next ih => exact ih

end Program

/-- Whether a failure says that the workspace is not there for the actor. -/
def Failure.barsEntry : Failure → Bool
  | workspaceNotFound => true
  | notAMember text => text == "You are not a member of this workspace"
  | _ => false

theorem Failure.barsEntry_ofStore (e : Store.Error) : (ofStore e).barsEntry = false := by
  cases e <;> rfl

theorem Failure.ne_of_not_barsEntry {f : Failure} (other : f.barsEntry = false) :
    f ≠ .workspaceNotFound ∧ f ≠ .notAMember "You are not a member of this workspace" := by
  constructor
  · rintro rfl
    cases other
  · rintro rfl
    simp [barsEntry] at other

namespace Action

/-- Whatever it meets, the action does not refuse by barring entry. -/
def Enters (a : Action α) : Prop :=
  Program.Ends (fun out => ∀ f, out = .error f → f.barsEntry = false) (ExceptT.run a)

variable {a : Action α} {f : α → Action β}

theorem Enters.run (h : a.Enters) {w : World} {e : Failure} (refused : (a.run w).1 = .error e) :
    e.barsEntry = false :=
  Program.Ends.runOpen h w e refused

theorem enters_pure (x : α) : (pure x : Action α).Enters := by
  rintro e ⟨⟩

theorem enters_store (c : Call) : (store c).Enters := by
  rintro (e | x) f h
  · cases h
    exact Failure.barsEntry_ofStore e
  · cases h

theorem enters_perform (p : Program α) : (perform p).Enters :=
  p.ends_true.bind fun _ _ _ h => by cases h

theorem enters_orFail {e : Failure} (other : e.barsEntry = false) (o : Option α) :
    (orFail e o).Enters := by
  cases o with
  | none =>
    rintro f ⟨⟩
    exact other
  | some x => exact enters_pure x

theorem enters_require {e : Failure} (other : e.barsEntry = false) (c : Bool) :
    (require c e).Enters := by
  cases c with
  | false =>
    rintro f ⟨⟩
    exact other
  | true => exact enters_pure ()

theorem Enters.bind (h : a.Enters) (k : ∀ x, (f x).Enters) : (a >>= f).Enters := by
  refine Program.Ends.bind h fun out reasons => ?_
  cases out with
  | ok x => exact k x
  | error e =>
    rintro d ⟨⟩
    exact reasons e rfl

end Action

namespace Service

open Members

/-! ## §2 The gate -/

/-- A permission together with the text of the refusal for want of it. -/
abbrev Need := Permission × String

/-- What an operation demands of its actor before anything else. -/
structure Gate where
  workspace : Uuid
  actor : Identity
  needs : List Need

/-- What a rank that is to be given away demands. -/
def grantNeeds (role : Role) : List Need :=
  if role.isOwner then [(.grantOwnership, "Only the owner can grant the OWNER role")] else []

/-- What a change demands. -/
def Change.needs : Change → List Need
  | add _ role => (.manageMembers, "Only owner or admin can add members") :: grantNeeds role
  | remove _ => [(.manageMembers, "Only owner or admin can remove members")]
  | changeRole _ role => (.manageMembers, "Only owner or admin can change roles") :: grantNeeds role
  | leave => []
  | transferOwnership _ => [(.transferOwnership, "Only the owner can transfer ownership")]

/-- The gate of a call that demands a permission. -/
def Command.gate? : Command → Option Gate
  | update workspace actor _ _ =>
    some ⟨workspace, actor, [(.updateWorkspace, "Only owner or admin can update the workspace")]⟩
  | delete workspace actor =>
    some ⟨workspace, actor, [(.deleteWorkspace, "Only the owner can delete the workspace")]⟩
  | change _ _ .leave => none
  | change workspace actor wish => some ⟨workspace, actor, wish.needs⟩
  | _ => none

/-- The change with another address of its target. -/
def Change.withTarget (email : String) : Change → Change
  | add _ role => add email role
  | remove _ => remove email
  | changeRole _ role => changeRole email role
  | leave => leave
  | transferOwnership _ => transferOwnership email

/-- The call with another address of its target. -/
def Command.withTarget (email : String) : Command → Command
  | change workspace actor wish => change workspace actor (wish.withTarget email)
  | c => c

/-- Compares a rank with one permission after the other. -/
def requireNeeds (m : Membership) : List Need → Action Unit
  | [] => pure ()
  | (p, text) :: rest => requirePermission m p text >>= fun _ => requireNeeds m rest

namespace Gate

/-- An operation behind a gate. -/
def guard (g : Gate) (k : Workspace → Membership → Action α) : Action α :=
  Action.begin >>= fun _ => requireWorkspace g.workspace >>= fun w =>
    requireActor g.workspace g.actor >>= fun m => requireNeeds m g.needs >>= fun _ => k w m

/-- The refusal at the gate. -/
def refusal? (g : Gate) (s : State) : Option Failure :=
  match s.workspace? g.workspace .active with
  | none => some .workspaceNotFound
  | some _ =>
    match s.membership? g.actor.user g.workspace .active with
    | none => some (.notAMember "You are not a member of this workspace")
    | some m =>
      (g.needs.find? fun need => !m.role.permits need.1).map fun need =>
        .insufficientPermission need.2

/-- No account has a say in it. -/
theorem refusal?_congr (g : Gate) {s t : State} (same : t.SameApartFromUsers s) :
    g.refusal? t = g.refusal? s := by
  have found : t.workspace? g.workspace .active = s.workspace? g.workspace .active := by
    rw [State.workspace?, State.workspace?, same.workspaces]
  have member : t.membership? g.actor.user g.workspace .active =
      s.membership? g.actor.user g.workspace .active := by
    rw [State.membership?, State.membership?, State.pair?, State.pair?, same.memberships]
  rw [refusal?, refusal?, found, member]

variable {g : Gate} {s : State} {supply : Supply} {k : Workspace → Membership → Action α}

theorem run_requireNeeds_bind (m : Membership) (needs : List Need) (k : Unit → Action α)
    (w : World) : (requireNeeds m needs >>= k).run w =
      match needs.find? fun need => !m.role.permits need.1 with
      | none => (k ()).run w
      | some need => (.error (.insufficientPermission need.2), w.close) := by
  induction needs with
  | nil => rfl
  | cons need rest ih =>
    rw [requireNeeds, bind_assoc, requirePermission, Action.run_require_bind, List.find?_cons]
    cases m.role.permits need.1 with
    | false => rfl
    | true => exact ih

theorem run_guard_of_refusal {f : Failure} (refused : g.refusal? s = some f) :
    (g.guard k).run (idle s supply) = (.error f, idle s supply) := by
  rw [guard, run_enter]
  unfold refusal? at refused
  cases found : s.workspace? g.workspace .active with
  | none =>
    rw [found] at refused
    cases refused
    rfl
  | some w =>
    rw [found] at refused
    cases member : s.membership? g.actor.user g.workspace .active with
    | none =>
      rw [member] at refused
      cases refused
      rfl
    | some m =>
      rw [member] at refused
      obtain ⟨need, missing, rfl⟩ := Option.map_eq_some_iff.1 refused
      dsimp only
      rw [run_requireNeeds_bind, missing]
      rfl

theorem run_guard_of_admitted (admitted : g.refusal? s = none) :
    ∃ w m, (g.guard k).run (idle s supply) = (k w m).run (amid s s supply) := by
  rw [guard, run_enter]
  unfold refusal? at admitted
  cases found : s.workspace? g.workspace .active with
  | none => simp [found] at admitted
  | some w =>
    rw [found] at admitted
    cases member : s.membership? g.actor.user g.workspace .active with
    | none => simp [member] at admitted
    | some m =>
      rw [member] at admitted
      refine ⟨w, m, ?_⟩
      dsimp only
      rw [run_requireNeeds_bind, Option.map_eq_none_iff.1 admitted]

/-- Why a gate may turn someone away. -/
theorem refusal?_cases {f : Failure} (refused : g.refusal? s = some f) :
    f = .workspaceNotFound ∨ f = .notAMember "You are not a member of this workspace" ∨
      ∃ need ∈ g.needs, f = .insufficientPermission need.2 := by
  unfold refusal? at refused
  split at refused
  · exact .inl (Option.some.inj refused).symm
  · split at refused
    · exact .inr (.inl (Option.some.inj refused).symm)
    · obtain ⟨need, found, rfl⟩ := Option.map_eq_some_iff.1 refused
      exact .inr (.inr ⟨need, List.mem_of_find?_eq_some found, rfl⟩)

/-- What the check of a permission answers at the gate. -/
def allows (g : Gate) (s : State) (p : Permission) : Bool :=
  (s.workspace? g.workspace .active).isSome &&
    (s.membership? g.actor.user g.workspace .active).any fun m => m.role.permits p

theorem carry_check (g : Gate) (o : Office) (p : Permission) :
    o.carry (.check g.workspace g.actor p) (idle s supply) = (.ok (g.allows s p), idle s supply) :=
  run_checkPermission p

/-- The gate opens exactly to those to whom all that it demands is allowed. -/
theorem refusal?_eq_none (demands : g.needs ≠ []) :
    g.refusal? s = none ↔ ∀ need ∈ g.needs, g.allows s need.1 := by
  obtain ⟨first, asked⟩ := List.exists_mem_of_ne_nil _ demands
  unfold refusal? allows
  cases s.workspace? g.workspace .active with
  | none => exact iff_of_false nofun fun h => by simpa using h first asked
  | some w =>
    cases s.membership? g.actor.user g.workspace .active with
    | none => exact iff_of_false nofun fun h => by simpa using h first asked
    | some m => simp [List.find?_eq_none]

end Gate

/-! ## §3 The operations -/

/-- An operation that refuses at a gate first, and then for no reason that bars entry. -/
def Gated (g : Gate) (a : Action α) : Prop :=
  ∃ k, a = g.guard k ∧ ∀ w m, (k w m).Enters

section

variable {workspace : Uuid} {actor : Identity}

theorem enters_save (c : Call) : (Action.store c >>= fun _ => Action.commit).Enters :=
  .bind (Action.enters_store c) fun _ => Action.enters_store .commit

theorem enters_requireUser (email : String) : (requireUser email).Enters :=
  .bind (Action.enters_store _) fun _ => Action.enters_orFail rfl _

theorem enters_requireTarget (target : User) : (requireTarget workspace target).Enters :=
  .bind (Action.enters_store _) fun _ => Action.enters_orFail (by decide) _

theorem enters_stepDown (m : Membership) : (stepDown m).Enters :=
  .bind (Action.enters_store _) fun _ => Action.enters_pure _

theorem enters_stepDownFor (role : Role) (m : Membership) : (stepDownFor role m).Enters := by
  unfold stepDownFor
  split
  · exact enters_stepDown m
  · exact Action.enters_pure ()

theorem enters_joining (target : User) (role : Role) (old : Option Membership) :
    (joining workspace target role old).Enters := by
  cases old with
  | some m => exact .bind (Action.enters_perform _) fun _ => Action.enters_pure _
  | none =>
    exact .bind (Action.enters_perform _) fun _ =>
      .bind (Action.enters_perform _) fun _ => Action.enters_pure _

theorem gated_one {p : Permission} {text : String}
    {k : Workspace → Membership → Unit → Action α} (h : ∀ w m u, (k w m u).Enters) :
    Gated ⟨workspace, actor, [(p, text)]⟩
      (Action.begin >>= fun _ => requireWorkspace workspace >>= fun w =>
        requireActor workspace actor >>= fun m => requirePermission m p text >>= k w m) := by
  refine ⟨fun w m => k w m (), ?_, fun w m => h w m ()⟩
  simp only [Gate.guard, requireNeeds, bind_assoc, pure_bind]

theorem requireGrant_eq (m : Membership) (role : Role) :
    requireGrant m role = requireNeeds m (grantNeeds role) := by
  cases role with
  | owner => exact (bind_pure _).symm
  | admin | member => rfl

theorem gated_two {p : Permission} {text : String} {role : Role}
    {k : Workspace → Membership → Unit → Action α} (h : ∀ w m u, (k w m u).Enters) :
    Gated ⟨workspace, actor, (p, text) :: grantNeeds role⟩
      (Action.begin >>= fun _ => requireWorkspace workspace >>= fun w =>
        requireActor workspace actor >>= fun m => requirePermission m p text >>= fun _ =>
          requireGrant m role >>= k w m) := by
  refine ⟨fun w m => k w m (), ?_, fun w m => h w m ()⟩
  simp only [Gate.guard, requireNeeds, requireGrant_eq, bind_assoc]

/-- Every change but leaving begins with its gate. -/
theorem gated_change {wish : Change} (demands : wish ≠ .leave) :
    Gated ⟨workspace, actor, wish.needs⟩ (wish.action workspace actor) := by
  cases wish with
  | add email role =>
    refine gated_two fun _ acting _ => .bind (enters_requireUser email) fun target => ?_
    refine .bind (Action.enters_store _) fun old => .bind (Action.enters_require rfl _) fun _ => ?_
    refine .bind (enters_stepDownFor role acting) fun _ => ?_
    exact .bind (enters_joining target role old) fun m => enters_save _
  | remove email =>
    refine gated_one fun _ acting _ => .bind (enters_requireUser email) fun target => ?_
    refine .bind (enters_requireTarget target) fun m => ?_
    refine .bind (Action.enters_require rfl _) fun _ => ?_
    refine .bind (Action.enters_require rfl _) fun _ => ?_
    exact .bind (Action.enters_perform _) fun _ => enters_save _
  | changeRole email role =>
    refine gated_two fun _ acting _ => .bind (enters_requireUser email) fun target => ?_
    refine .bind (enters_requireTarget target) fun m => ?_
    refine .bind (Action.enters_require rfl _) fun _ => ?_
    exact .bind (enters_stepDownFor role acting) fun _ => enters_save _
  | leave => exact absurd rfl demands
  | transferOwnership email =>
    refine gated_one fun _ acting _ => .bind (enters_requireUser email) fun target => ?_
    refine .bind (Action.enters_require rfl _) fun _ => ?_
    refine .bind (enters_requireTarget target) fun m => ?_
    exact .bind (enters_stepDown acting) fun _ => enters_save _

end

/-- Every call with a gate begins with it. -/
theorem gated_of_gate? (o : Office) {c : Command} {g : Gate} (gated : c.gate? = some g) :
    Gated g (c.action o) := by
  cases c with
  | update workspace actor name type =>
    cases gated
    exact gated_one fun w _ _ => enters_save _
  | delete workspace actor =>
    cases gated
    exact gated_one fun w _ _ => .bind (Action.enters_perform _) fun _ => enters_save _
  | change workspace actor wish =>
    cases wish with
    | leave => cases gated
    | _ =>
      cases gated
      exact gated_change nofun
  | _ => cases gated

/-! ## §4 What a check foretells -/

namespace Command

variable {c : Command} {g : Gate}

theorem needs_ne_nil (gated : c.gate? = some g) : g.needs ≠ [] := by
  cases c with
  | change workspace actor wish => cases wish <;> cases gated <;> simp [Change.needs]
  | _ => cases gated <;> simp

/-- The gate does not ask who the target is. -/
theorem gate?_withTarget (email : String) : (c.withTarget email).gate? = c.gate? := by
  cases c with
  | change workspace actor wish => cases wish <;> rfl
  | _ => rfl

/-- Whether a call changes a workspace itself and not its members. -/
def revises : Command → Bool
  | update .. | delete .. => true
  | _ => false

end Command

variable {s : State} {supply : Supply}

/-- Authorization is a gate with one demand. -/
theorem authorize_of_admitted {workspace : Uuid} {actor : Identity} {p : Permission}
    {text : String} (admitted : Gate.refusal? ⟨workspace, actor, [(p, text)]⟩ s = none) :
    ∃ w, s.authorize workspace actor p text = .ok w := by
  unfold Gate.refusal? at admitted
  unfold State.authorize
  cases found : s.workspace? workspace .active with
  | none => simp [found] at admitted
  | some w =>
    cases member : s.membership? actor.user workspace .active with
    | none => simp [found, member] at admitted
    | some m =>
      refine ⟨w, if_pos ?_⟩
      simpa [found, member] using admitted

/-- Behind the gate of such a call nothing refuses. -/
theorem succeeds_of_admitted (o : Office) {c : Command} {g : Gate} (gated : c.gate? = some g)
    (admitted : g.refusal? s = none) (revises : c.revises) :
    ∃ answer, (o.carry c (idle s supply)).1 = .ok answer := by
  cases c with
  | update workspace actor name type =>
    cases gated
    obtain ⟨w, e⟩ := authorize_of_admitted admitted
    rw [Office.carry, Command.action, run_update, e]
    exact ⟨(), rfl⟩
  | delete workspace actor =>
    cases gated
    obtain ⟨w, e⟩ := authorize_of_admitted admitted
    rw [Office.carry, Command.action, run_delete, e]
    exact ⟨(), rfl⟩
  | _ => cases revises

/--
Take any tables, and a call that demands permissions. If a check of one of these
says no, the call is refused for one of three reasons and changes nothing; and it
is refused in the same words whatever address it names, and whoever has an
account. If all say yes, it is not refused for want of the workspace or of the
actor's membership, and to change the workspace itself succeeds.
-/
theorem check_foretells_denial (o : Office) (s : State) (supply : Supply) (c : Command) (g : Gate)
    (gated : c.gate? = some g) :
    let w := idle s supply
    let check (p : Permission) := (o.carry (.check g.workspace g.actor p) w).1
    ((∃ need ∈ g.needs, check need.1 = .ok false) →
      ∃ f, (f = .workspaceNotFound ∨ f = .notAMember "You are not a member of this workspace" ∨
          ∃ need ∈ g.needs, f = .insufficientPermission need.2) ∧
        o.carry c w = (.error f, w) ∧
        ∀ email (t : State) later, t.SameApartFromUsers s →
          o.carry (c.withTarget email) (idle t later) = (.error f, idle t later)) ∧
    ((∀ need ∈ g.needs, check need.1 = .ok true) →
      (∀ f, (o.carry c w).1 = .error f →
        f ≠ .workspaceNotFound ∧ f ≠ .notAMember "You are not a member of this workspace") ∧
      (c.revises → ∃ answer, (o.carry c w).1 = .ok answer)) := by
  intro w check
  have answer (p : Permission) : check p = .ok (g.allows s p) := by
    show (o.carry _ _).1 = _
    rw [g.carry_check]
  have opens : g.refusal? s = none ↔ ∀ need ∈ g.needs, check need.1 = .ok true := by
    simp only [answer, Except.ok.injEq]
    exact g.refusal?_eq_none (Command.needs_ne_nil gated)
  constructor
  · rintro ⟨need, asked, no⟩
    cases e : g.refusal? s with
    | none => cases (opens.1 e need asked).symm.trans no
    | some f =>
      have refused {d : Command} {t : State} (later : Supply) (gated : d.gate? = some g)
          (same : t.SameApartFromUsers s) :
          o.carry d (idle t later) = (.error f, idle t later) := by
        obtain ⟨k, begins, -⟩ := gated_of_gate? o gated
        rw [Office.carry, begins]
        exact Gate.run_guard_of_refusal ((g.refusal?_congr same).trans e)
      exact ⟨f, Gate.refusal?_cases e, refused supply gated ⟨rfl, rfl⟩, fun email t later same =>
        refused later ((Command.gate?_withTarget email).trans gated) same⟩
  · intro yes
    have admitted := opens.2 yes
    refine ⟨fun f refused => ?_, succeeds_of_admitted o gated admitted⟩
    obtain ⟨k, begins, enters⟩ := gated_of_gate? o gated
    obtain ⟨x, m, run⟩ : ∃ x m, (g.guard k).run (idle s supply) = (k x m).run _ :=
      Gate.run_guard_of_admitted admitted
    have refused : ((k x m).run (amid s s supply)).1 = .error f := by
      rw [← run, ← begins]
      exact refused
    exact Failure.ne_of_not_barsEntry ((enters x m).run refused)

/-- A MEMBER who would add someone is refused, and cannot tell an account from none. -/
theorem check_foretells_denial_member :
    let founder : Identity := ⟨.ofNat 7, "f@b"⟩
    let other : Identity := ⟨.ofNat 0, "n@b"⟩
    let s := (Office.small.after [.signup "N" "n@b" "p", .create "Acme" .team founder,
      .change (.ofNat 3) founder (.add "n@b" .member)] (idle .empty .counting)).published
    let add (email : String) : Command := .change (.ofNat 3) other (.add email .admin)
    (∃ g, (add "n@b").gate? = some g) ∧ ∃ f,
      Office.small.carry (add "n@b") (idle s .counting) = (.error f, idle s .counting) ∧
        ∀ email (t : State), t.SameApartFromUsers s →
          Office.small.carry (add email) (idle t .counting) = (.error f, idle t .counting) := by
  intro founder other s add
  let g : Gate := ⟨.ofNat 3, other, [(.manageMembers, "Only owner or admin can add members")]⟩
  have gated : (add "n@b").gate? = some g := rfl
  have closed : g.allows s .manageMembers = false := by decide +kernel
  have no : (Office.small.carry (.check g.workspace g.actor .manageMembers)
      (idle s .counting)).1 = .ok false := by
    rw [g.carry_check, closed]
  obtain ⟨f, -, refused, alike⟩ :=
    (check_foretells_denial .small s .counting (add "n@b") g gated).1
      ⟨_, List.mem_singleton_self _, no⟩
  exact ⟨⟨g, gated⟩, f, refused, fun email t same => alike email t .counting same⟩

end Service

end Roster
