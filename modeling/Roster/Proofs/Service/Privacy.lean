/-
Roster.Proofs.Service.Privacy — to look at workspaces tells nothing of those of others.

What a user is shown is joined from three tables: the rows of their active
memberships, and for each the workspace, its owner with their account, and its
members. A call about a workspace in which the user is no active member, before
or after it, writes no row of theirs that is active (`callerRows_carry`, §2). Of
the workspaces in which they are it leaves the row and the memberships alone, and
of all accounts what is shown of an owner (`info_carry`, §3), so that their list is
the same (`detailsFor_carry`). They learn nothing by it (`nonmember_learns_nothing`).
-/
import Roster.Proofs.Service.Deletion
import Roster.Proofs.Service.Registration
import Roster.Proofs.Service.Standings

namespace Roster

open Store (State Row)
open World (idle amid)
open Service (Office Command)

/-! ## §1 A user's own rows -/

namespace Store

/-- A row that takes no part in a selection, and replaces none that does. -/
theorem Table.filter_insertRow {α : Type} [Identified α] {p : α → Bool} {a : α} {rows : List α}
    (new : p a = false) (old : ∀ b ∈ rows, Identified.key b = Identified.key a → p b = false) :
    (Table.insertRow a rows).filter p = rows.filter p := by
  induction rows with
  | nil => simp [insertRow, new]
  | cons b rest ih =>
    rw [insertRow]
    split
    · rename_i same
      have replaced := old b List.mem_cons_self same
      rw [List.filter_cons_of_neg (by simp [new]), List.filter_cons_of_neg (by simp [replaced])]
    · rw [List.filter_cons, List.filter_cons, ih fun c hc => old c (List.mem_cons_of_mem _ hc)]

namespace State

variable {s t : State} {user workspace : Uuid} {only : Option Uuid}

theorem callerRows_put_membership {m : Membership} (new : ¬(m.user = user ∧ m.isActive))
    (old : ∀ n ∈ s.memberships.rows, n.id = m.id → ¬(n.user = user ∧ n.isActive)) :
    (s.put (.membership m)).callerRows user only = s.callerRows user only := by
  refine Table.filter_insertRow ?_ fun n hn same => ?_
  · exact decide_eq_false fun h => new ⟨h.1, h.2.1⟩
  · exact decide_eq_false fun h => old n hn same ⟨h.1, h.2.1⟩

theorem callerRows_of_memberships (same : t.memberships = s.memberships) :
    t.callerRows user only = s.callerRows user only := by
  rw [callerRows, callerRows, same]

/-- Active rows are those of members. -/
theorem Sound.mem_members (h : s.Sound) {m : Membership} (hm : m ∈ s.memberships.rows) :
    m.user ∈ s.roll.members m.workspace ↔ m.isActive := by
  rw [Service.Roll.mem_members, h.standing_of_mem hm, Membership.standing_isActive]

theorem mem_members_put {m : Membership} (h : (s.put (.membership m)).Sound)
    (active : m.isActive) : m.user ∈ (s.put (.membership m)).roll.members m.workspace :=
  (h.mem_members (m := m.saved) (mem_put_membership.2 (.inl rfl))).2 active

end State

end Store

/-! ## §2 Calls about workspaces of others -/

/-- The workspace that a call is to change, or has made. -/
def Service.Command.scene : (c : Command) → Except Failure c.Answer → Option Uuid
  | .update workspace _ _ _, _ | .delete workspace _, _ | .change workspace _ _, _ => some workspace
  | .create .., .ok workspace => some workspace
  | _, _ => none

namespace Service

variable {s t : State} {o : Office} {c : Command} {supply : Supply} {workspace user : Uuid}
  {actor : Identity} {only : Option Uuid}

/-- The user belongs to the workspace neither in the one nor in the other. -/
structure Outside (user workspace : Uuid) (s t : State) : Prop where
  before : user ∉ s.roll.members workspace
  after : user ∉ t.roll.members workspace

theorem callerRows_change (h : s.Sound) (supply : Supply) (wish : Change)
    (outside : Outside user workspace s
      ((wish.action workspace actor).run (idle s supply)).2.published) :
    ((wish.action workspace actor).run (idle s supply)).2.published.callerRows user only =
      s.callerRows user only := by
  have h' := (wish.action workspace actor).keeps (fun _ _ h a => h.put a) supply h
  rcases change_enacted h supply workspace actor wish with
    ⟨f, -, run⟩ | ⟨v, -, acting, role, m, later, e, -, run⟩
  · rw [run]
    rfl
  by_cases admits : (s.yielded acting role).Admits (.membership m)
  · rw [run, run_lastSave admits] at outside h' ⊢
    obtain ⟨acts, -, place, active⟩ := mem_of_membership? h e.acts
    have y := e.yields h
    have other : acting.user ≠ user := fun same =>
      outside.before (same ▸ place ▸ (h.mem_members acts).2 active)
    have between : user ∉ (s.yielded acting role).roll.members workspace := by
      have rank := (h.standing_of_mem acts).trans (Membership.standing_of_active active)
      rw [y.roll, place, Roll.members_yield (place ▸ rank)]
      exact outside.before
    -- The step down first, and then the row of the target.
    have first : (s.yielded acting role).callerRows user only = s.callerRows user only := by
      unfold State.yielded
      split
      · refine State.callerRows_put_membership (fun h => other h.1) fun n hn same own => ?_
        obtain rfl := Store.Table.eq_of_mem hn acts same
        exact other own.1
      · rfl
    refine (State.callerRows_put_membership (fun own => ?_) fun n hn same own => ?_).trans first
    · exact outside.after (own.1 ▸ e.place ▸ State.mem_members_put h' own.2)
    · have there := (e.continues h admits n hn same).2.trans e.place
      exact between (own.1 ▸ there ▸ (y.sound.mem_members hn).2 own.2)
  · rw [run, Action.run_saveMembership_refused admits]
    rfl

/-- A call about workspaces of others leaves a user's own rows where they are. -/
theorem callerRows_carry (h : s.Sound) (o : Office) (c : Command) (supply : Supply)
    (outside : ∀ x ∈ c.scene (o.carry c (idle s supply)).1,
      Outside user x s (o.carry c (idle s supply)).2.published) :
    (o.carry c (idle s supply)).2.published.callerRows user only = s.callerRows user only := by
  cases c with
  | signup _ _ _ | login _ _ | refresh _ =>
    exact State.callerRows_of_memberships (Command.sameApart_of_isSignIn o rfl rfl).memberships
  | details _ _ | list _ | check _ _ _ | count _ =>
    rw [Command.published_of_isReading o rfl]
    rfl
  | create name type owner =>
    have h' := o.sound_carry (.create name type owner) supply h
    rw [Office.carry, Command.action] at outside h' ⊢
    rcases create_cases s supply name type owner with ⟨later, run⟩ | ⟨hw, hm, later, run⟩
    · rw [run]
      rfl
    · rw [run] at outside h' ⊢
      have fresh := (Store.Table.carries_zero (h.put_workspace hw).membershipVersions).1 hm.1
      refine State.callerRows_put_membership (fun own => ?_) fun n hn e => absurd e (fresh n hn)
      exact (outside _ rfl).after (own.1 ▸ State.mem_members_put h' own.2)
  | update x actor name type =>
    rw [Office.carry, Command.action, run_update]
    split <;> rfl
  | delete x actor =>
    rw [Office.carry, Command.action, run_delete]
    split <;> rfl
  | change x actor wish => exact callerRows_change h supply wish (outside x rfl)

/-! ## §3 What is shown of the workspaces that a user is in -/

end Service

/-- What is shown of an account. -/
def User.info (u : User) : OwnerInfo := ⟨u.id, u.name, u.email⟩

namespace Store.State

variable {s t : State} {workspace id : Uuid} {m : Membership} {u : User}

/-- Renewing a session shows nothing. -/
theorem info_put_honouring (hu : u ∈ s.users.rows) (token : String) :
    ((s.put (.user (u.honouring token))).user? id).map User.info =
      (s.user? id).map User.info := by
  by_cases e : id = u.id
  · subst e
    have renewed := Table.find?_insert_self s.users (u.honouring token).saved
    change (s.put (.user (u.honouring token))).user? u.id = _ at renewed
    have found : s.user? u.id = some u := Table.find?_eq_some.2 ⟨hu, rfl⟩
    rw [renewed, found]
    rfl
  · exact congrArg _ (Table.find?_insert_of_ne e)

theorem owner_info_congr (h : s.Sound) (h' : t.Sound)
    (rows : ∀ m : Membership, m.workspace = workspace →
      (m ∈ t.memberships.rows ↔ m ∈ s.memberships.rows))
    (infos : ∀ m ∈ s.memberships.rows,
      (t.user? m.user).map User.info = (s.user? m.user).map User.info) :
    (t.owner? workspace).map User.info = (s.owner? workspace).map User.info := by
  have same : (t.activeMembers workspace).find? (fun m => m.role.isOwner) =
      (s.activeMembers workspace).find? (fun m => m.role.isOwner) := by
    refine Option.ext fun m => ?_
    rw [h'.unique.find?_owner_iff, h.unique.find?_owner_iff]
    exact and_congr_left fun owns => rows m owns.1
  rw [owner?, owner?, same]
  cases found : (s.activeMembers workspace).find? (fun m => m.role.isOwner) with
  | none => rfl
  | some m => exact infos m (h.unique.find?_owner_iff.1 found).1

theorem details?_eq (s : State) (m : Membership) :
    s.details? m = (s.workspace? m.workspace .active).bind fun x =>
      ((s.owner? x.id).map User.info).map fun info =>
        (x.created, ⟨x.id, x.name, x.type, info, s.memberCount x.id, m.role⟩) := by
  unfold details?
  cases s.workspace? m.workspace .active with
  | none => rfl
  | some x =>
    show ((s.owner? x.id).bind fun _ => _) = ((s.owner? x.id).map User.info).map _
    cases s.owner? x.id <;> rfl

/-- A joined row depends on no more than this. -/
theorem details?_congr (row : t.workspaces.find? m.workspace = s.workspaces.find? m.workspace)
    (count : t.memberCount m.workspace = s.memberCount m.workspace)
    (owner : (t.owner? m.workspace).map User.info = (s.owner? m.workspace).map User.info) :
    t.details? m = s.details? m := by
  have found : t.workspace? m.workspace .active = s.workspace? m.workspace .active := by
    rw [workspace?, workspace?, row]
  rw [details?_eq, details?_eq, found]
  refine Option.bind_congr fun x e => ?_
  obtain ⟨-, same, -⟩ := workspace?_active.1 e
  rw [same, count, owner]

end Store.State

namespace Service

variable {s : State} {o : Office} {c : Command} {supply : Supply} {workspace user : Uuid}
  {only : Option Uuid}

theorem scene_of_actsOn {actor : Uuid} (acts : c.ActsOn workspace actor)
    (answer : Except Failure c.Answer) : workspace ∈ c.scene answer := by
  cases c with
  | update _ _ _ _ | delete _ _ | change _ _ _ =>
    obtain ⟨rfl, -⟩ := acts
    rfl
  | _ => exact acts.elim

/-- No call alters what is shown of an account, but of the one that it opens. -/
theorem info_carry (h : s.Sound) (o : Office) (c : Command) (supply : Supply) {id : Uuid}
    (other : id ≠ supply.drawId.1) :
    ((o.carry c (idle s supply)).2.published.user? id).map User.info =
      (s.user? id).map User.info := by
  by_cases signup : ∃ name email password, c = .signup name email password
  · obtain ⟨name, email, password, rfl⟩ := signup
    rw [Office.carry, Command.action]
    rcases Credentials.signup_cases o.issuer o.hasher s supply name email password with
      ⟨f, later, run⟩ | ⟨text, -, run⟩
    · rw [run]
      rfl
    · rw [run]
      exact congrArg _ (Store.Table.find?_insert_of_ne other)
  · rcases renewed_carry h o c supply fun name email password e =>
        signup ⟨name, email, password, e⟩ with users | ⟨u, hu, token, put⟩
    · rw [State.user?, users]
      rfl
    · rw [put]
      exact State.info_put_honouring hu token

/-- What a user is shown after a call about workspaces of others. -/
theorem detailsFor_carry (h : s.Sound) (g : s.roll.Governed) (o : Office) (c : Command)
    (supply : Supply) (fresh : ∀ m ∈ s.memberships.rows, m.user ≠ supply.drawId.1)
    (outside : ∀ x ∈ c.scene (o.carry c (idle s supply)).1,
      Outside user x s (o.carry c (idle s supply)).2.published) :
    (o.carry c (idle s supply)).2.published.detailsFor user only = s.detailsFor user only := by
  rw [State.detailsFor, State.detailsFor, callerRows_carry h o c supply outside]
  congr 2
  refine List.filterMap_congr fun m hm => ?_
  obtain ⟨row, rfl, active, -⟩ := State.mem_callerRows.1 hm
  have member := (h.mem_members row).2 active
  have stored : s.roll.status m.workspace ≠ .absent := by
    intro absent
    rw [Roll.mem_members, g.unpeopled m.user m.workspace absent] at member
    cases member
  have aloof : ∀ actor, ¬c.ActsOn m.workspace actor := fun actor acts =>
    (outside _ (scene_of_actsOn acts _)).before member
  have spared := spared_of_aloof h o c supply stored aloof fun _ => False
  refine State.details?_congr spared.row spared.memberCount ?_
  exact State.owner_info_congr h (o.sound_carry c supply h) (fun _ => spared.mem_memberships)
    fun n hn => info_carry h o c supply (fresh n hn)

/-! ## §4 Runs of calls -/

theorem carry_list (o : Office) (s : State) (supply : Supply) (actor : Identity) :
    (o.carry (.list actor) (idle s supply)).1 = .ok (s.detailsFor actor.user none) := rfl

/-- The answer to someone who is shown nothing of a workspace. -/
theorem carry_details (o : Office) (s : State) (supply : Supply) (x : Uuid) (actor : Identity) :
    (o.carry (.details x actor) (idle s supply)).1 =
      match (s.detailsFor actor.user (some x)).head? with
      | some d => .ok d
      | none => .error (.notAMember "You are not a member of this workspace") := by
  rw [Office.carry, Command.action, run_details]
  cases (s.detailsFor actor.user (some x)).head? <;> rfl

theorem detailsFor_of_not_mem (h : s.Sound) (away : user ∉ s.roll.members workspace) :
    s.detailsFor user (some workspace) = [] := by
  have nothing : s.callerRows user (some workspace) = [] := by
    refine List.eq_nil_iff_forall_not_mem.2 fun m hm => ?_
    obtain ⟨row, rfl, active, there⟩ := State.mem_callerRows.1 hm
    exact away (there workspace rfl ▸ (h.mem_members row).2 active)
  rw [State.detailsFor, nothing, List.filterMap_nil, List.mergeSort_nil, List.map_nil]

/--
After any calls, let any call be next that is about a workspace in which a user
is no active member, neither before nor after it, or about none; and let the
identifier of an account that it opens be that of no member. Then they are shown
the same in the list of their workspaces, and of each workspace. And of one in
which they are no active member they are told the same in all surroundings,
whether it lives, or has been deleted, or never was.
-/
theorem nonmember_learns_nothing (o : Office) (supply : Supply) (cs : List Command)
    (actor : Identity) :
    let w := o.after cs (idle .empty supply)
    (∀ c : Command,
      let v := (o.carry c w).2
      (∀ m ∈ w.published.memberships.rows, m.user ≠ w.supply.drawId.1) →
      (∀ x ∈ c.scene (o.carry c w).1, w.published.membership? actor.user x .active = none ∧
        v.published.membership? actor.user x .active = none) →
      (o.carry (.list actor) v).1 = (o.carry (.list actor) w).1 ∧
        ∀ x, (o.carry (.details x actor) v).1 = (o.carry (.details x actor) w).1) ∧
    ∀ x, w.published.membership? actor.user x .active = none →
      (o.carry (.details x actor) w).1 =
        .error (.notAMember "You are not a member of this workspace") := by
  intro w
  obtain ⟨sound, governed⟩ : w.published.Sound ∧ w.published.roll.Governed :=
    o.governed_after cs supply ⟨State.Sound.empty, governed_empty⟩
  obtain ⟨s, later, here, -⟩ : ∃ s later, w = idle s later ∧ _ := o.after_idle cs .empty supply
  clear_value w
  subst here
  have sound : s.Sound := sound
  have governed : s.roll.Governed := governed
  have away {t : State} {x : Uuid} (e : t.membership? actor.user x .active = none) :
      actor.user ∉ t.roll.members x := by
    rw [State.mem_members, e]
    exact nofun
  constructor
  · intro c v fresh outside
    obtain ⟨next, there⟩ := carry_idle o c s later
    have same (only : Option Uuid) : v.published.detailsFor actor.user only =
        s.detailsFor actor.user only :=
      detailsFor_carry sound governed o c later fresh fun x hx =>
        ⟨away (outside x hx).1, away (outside x hx).2⟩
    have there : v = _ := there
    rw [there]
    refine ⟨?_, fun x => ?_⟩
    · rw [carry_list, carry_list, same]
    · rw [carry_details, carry_details, same]
  · intro x e
    rw [carry_details, detailsFor_of_not_mem sound (away e)]
    rfl

/-- The owner of one workspace sees nothing of how another is renamed. -/
theorem nonmember_learns_nothing_rename :
    let founder : Identity := ⟨.ofNat 99, "f@b"⟩
    let other : Identity := ⟨.ofNat 0, "n@b"⟩
    let cs : List Command :=
      [.signup "N" "n@b" "p", .create "Acme" .team founder, .create "Bolt" .team other]
    let w := Office.small.after cs (idle .empty .counting)
    let v := (Office.small.carry (.update (.ofNat 3) founder "Zenith" .team) w).2
    (∀ m ∈ w.published.memberships.rows, m.user ≠ w.supply.drawId.1) ∧
      (Office.small.carry (.list other) v).1 = (Office.small.carry (.list other) w).1 ∧
      (Office.small.carry (.details (.ofNat 3) other) w).1 =
        .error (.notAMember "You are not a member of this workspace") := by
  intro founder other cs w v
  have fresh : ∀ m ∈ w.published.memberships.rows, m.user ≠ w.supply.drawId.1 := by decide +kernel
  have before : w.published.membership? other.user (.ofNat 3) .active = none := by decide +kernel
  have after : (Office.small.carry (.update (.ofNat 3) founder "Zenith" .team)
      (Office.small.after cs (idle .empty .counting))).2.published.membership? other.user (.ofNat 3)
        .active = none := by decide +kernel
  obtain ⟨kept, hidden⟩ := nonmember_learns_nothing .small .counting cs other
  have same := kept (.update (.ofNat 3) founder "Zenith" .team) fresh fun x hx => by
    obtain rfl : .ofNat 3 = x := Option.some.inj hx
    exact ⟨before, after⟩
  exact ⟨fresh, same.1, hidden _ before⟩

end Service

end Roster
