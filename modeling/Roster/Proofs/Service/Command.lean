/-
Roster.Proofs.Service.Command — the calls of the service as data.

A `Command` is a call with its arguments, `Command.action` the operation that it
means, and `Office.after` what the surroundings are once a list of commands has
been carried out, one at a time, whether they succeed or not. What every single
command keeps holds after every list of them (`Office.after_keeps`).
-/
import Roster.Proofs.Service.Runs
import Roster.Service.Credentials
import Roster.Service.Workspaces

namespace Roster.Service

open Store (State)

/-- A wish to change who belongs to a workspace, or as what. -/
inductive Change where
  | add (email : String) (role : Role)
  | remove (email : String)
  | changeRole (email : String) (role : Role)
  | leave
  | transferOwnership (email : String)
  deriving DecidableEq, Repr

/-- The operation of a change that `actor` wishes for. -/
def Change.action (workspace : Uuid) (actor : Identity) : Change → Action Unit
  | add email role => Members.add workspace actor email role
  | remove email => Members.remove workspace actor email
  | changeRole email role => Members.changeRole workspace actor email role
  | leave => Members.leave workspace actor
  | transferOwnership email => Members.transferOwnership workspace actor email

/-- A call of the service with its arguments. -/
inductive Command where
  | signup (name email password : String)
  | login (email password : String)
  | refresh (token : String)
  | create (name : String) (type : WorkspaceType) (owner : Identity)
  | update (workspace : Uuid) (actor : Identity) (name : String) (type : WorkspaceType)
  | delete (workspace : Uuid) (actor : Identity)
  | change (workspace : Uuid) (actor : Identity) (wish : Change)
  | details (workspace : Uuid) (actor : Identity)
  | list (actor : Identity)
  | check (workspace : Uuid) (actor : Identity) (permission : Permission)
  | count (workspace : Uuid)

/-- What a call answers when it succeeds. -/
abbrev Command.Answer : Command → Type
  | signup .. | login .. | refresh .. => Token.Pair
  | create .. => Uuid
  | update .. | delete .. | change .. => Unit
  | details .. => WorkspaceDetails
  | list .. => List WorkspaceDetails
  | check .. => Bool
  | count .. => Nat

/-- What calls are carried out with. -/
structure Office where
  issuer : Token.Issuer
  hasher : Password.Hasher

/-- The operation of a call. -/
def Command.action (o : Office) : (c : Command) → Action c.Answer
  | signup name email password => Credentials.signup o.issuer o.hasher name email password
  | login email password => Credentials.login o.issuer o.hasher email password
  | refresh token => Credentials.refresh o.issuer token
  | create name type owner => Workspaces.create name type owner
  | update workspace actor name type => Workspaces.update workspace actor name type
  | delete workspace actor => Workspaces.delete workspace actor
  | change workspace actor wish => wish.action workspace actor
  | details workspace actor => Workspaces.details workspace actor
  | list actor => Workspaces.list actor
  | check workspace actor permission => Members.checkPermission workspace actor permission
  | count workspace => Members.count workspace

/-- In whose name a call is made; nobody's if it is about an account or only counts. -/
def Command.actor? : Command → Option Identity
  | create _ _ actor | update _ actor _ _ | delete _ actor | change _ actor _ | details _ actor
  | list actor | check _ actor _ => some actor
  | signup .. | login .. | refresh .. | count .. => none

/-- Whether a call opens an account or a session. -/
def Command.isSignIn : Command → Bool
  | signup .. | login .. | refresh .. => true
  | _ => false

namespace Office

/-- An office that keeps passwords as they are. -/
def small : Office where
  issuer := ⟨"secret", 15, 30, by decide, by decide, by decide⟩
  hasher := ⟨fun _ password => .ok password, fun password text => password == text⟩

/-- Carries out a call: its answer and the surroundings after it. -/
def carry (o : Office) (c : Command) (w : World) : Except Failure c.Answer × World :=
  (c.action o).run w

/-- The surroundings once the commands have been carried out in order. -/
def after (o : Office) : List Command → World → World
  | [], w => w
  | c :: rest, w => o.after rest (o.carry c w).2

@[simp] theorem after_nil (o : Office) (w : World) : o.after [] w = w := rfl

@[simp] theorem after_cons (o : Office) (c : Command) (rest : List Command) (w : World) :
    o.after (c :: rest) w = o.after rest (o.carry c w).2 := rfl

theorem after_idle (o : Office) (cs : List Command) (s : State) (supply : Supply) :
    ∃ s' supply', o.after cs (World.idle s supply) = World.idle s' supply' ∧
      supply.Before supply' := by
  induction cs generalizing s supply with
  | nil => exact ⟨s, supply, rfl, Supply.Before.refl _⟩
  | cons c cs ih =>
    obtain ⟨s₁, supply₁, h₁, b₁⟩ := (c.action o).exists_idle s supply
    obtain ⟨s₂, supply₂, h₂, b₂⟩ := ih s₁ supply₁
    refine ⟨s₂, supply₂, ?_, b₁.trans b₂⟩
    rw [after_cons, carry, h₁, h₂]

/-- One of the calls meets the condition in the surroundings in which it is made. -/
def Occurs (o : Office) (P : World → Command → Prop) (cs : List Command) (w : World) : Prop :=
  ∃ before c after, cs = before ++ c :: after ∧ P (o.after before w) c

theorem not_occurs_nil {o : Office} {P : World → Command → Prop} {w : World} :
    ¬o.Occurs P [] w := by
  rintro ⟨before, c, after, split, -⟩
  simp at split

theorem occurs_cons {o : Office} {P : World → Command → Prop} {c : Command} {cs : List Command}
    {w : World} : o.Occurs P (c :: cs) w ↔ P w c ∨ o.Occurs P cs (o.carry c w).2 := by
  constructor
  · rintro ⟨before, d, after, e, met⟩
    cases before with
    | nil =>
      cases e
      exact .inl met
    | cons b before =>
      cases e
      exact .inr ⟨before, d, after, rfl, met⟩
  · rintro (met | ⟨before, d, after, rfl, met⟩)
    · exact ⟨[], c, cs, rfl, met⟩
    · exact ⟨c :: before, d, after, rfl, met⟩

/-- What each command keeps, a run of commands keeps. -/
theorem after_keeps (o : Office) {P : State → Prop}
    (step : ∀ c s supply, P s → P (o.carry c (World.idle s supply)).2.published)
    (cs : List Command) {s : State} (supply : Supply) (h : P s) :
    P (o.after cs (World.idle s supply)).published := by
  induction cs generalizing s supply with
  | nil => exact h
  | cons c cs ih =>
    obtain ⟨s₁, supply₁, h₁, -⟩ := (c.action o).exists_idle s supply
    have h₂ := step c s supply h
    rw [after_cons]
    rw [carry, h₁] at h₂ ⊢
    exact ih supply₁ h₂

/-- No command makes sound tables unsound. -/
theorem sound_carry (o : Office) (c : Command) {s : State} (supply : Supply) (h : s.Sound) :
    (o.carry c (World.idle s supply)).2.published.Sound :=
  (c.action o).keeps (fun _ _ h a => h.put a) supply h

/-- A store can hold what commands make of tables that it can hold. -/
theorem held_after (o : Office) (cs : List Command) {s : State} (supply : Supply) (h : s.Held) :
    (o.after cs (World.idle s supply)).published.Held :=
  o.after_keeps (fun c _ supply h => (c.action o).keeps (fun _ _ h a => h.put a) supply h) cs
    supply h

/-- The tables are sound after any commands. -/
theorem sound_after (o : Office) (cs : List Command) (supply : Supply) :
    (o.after cs (World.idle .empty supply)).published.Sound :=
  o.after_keeps (fun c _ supply h => o.sound_carry c supply h) cs supply State.Sound.empty

end Office

end Roster.Service
