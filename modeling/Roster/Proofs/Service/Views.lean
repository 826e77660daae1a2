/-
Roster.Proofs.Service.Views — all ways to look at a workspace agree.

The joined rows silently leave a workspace out if its owner, or the account of
the owner, is missing. Neither happens: every workspace has one active owner,
and every membership belongs to an account (`Peopled`, §1), as long as those
who act have one. So a user's rows are one for each living workspace in which
they are an active member, and each row says what the tables do (§2). Then the
four calls that look at a workspace agree (§3).
-/
import Roster.Proofs.Service.Escalation

namespace Roster

open Store (State Row)
open World (idle amid)
open Service (Roll Standing Office Command Change)

/-! ## §1 Members have accounts -/

namespace Service.Roll

variable {v v' : Roll} {workspace actor : Uuid}

/-- The user has had a membership of the workspace, or has an account. -/
def Knows (v : Roll) (user workspace : Uuid) : Prop :=
  v.standing user workspace ≠ .none ∨ ∃ email, v.account email = some user

theorem Knows.of_set {u w a b : Uuid} {x : Standing} (known : v.Knows u w)
    (h : (v.set u w x).Knows a b) : v.Knows a b := by
  rcases h with standing | account
  · rw [set_standing] at standing
    split at standing
    · rename_i e
      exact e.1 ▸ e.2 ▸ known
    · exact .inl standing
  · exact .inr account

theorem yield_account {role : Role} :
    (v.yield actor workspace role).account = v.account := by
  unfold yield
  split <;> rfl

theorem Knows.of_yield {rank role : Role} {a b : Uuid}
    (acts : v.standing actor workspace = .active rank)
    (h : (v.yield actor workspace role).Knows a b) : v.Knows a b := by
  unfold yield at h
  split at h
  · exact .of_set (.inl (by simp [acts])) h
  · exact h

/-- A decision gives standings only to those who are known. -/
theorem Knows.of_decide {wish : Change} (h : v.decide workspace actor wish = .ok v') {a b : Uuid}
    (known : v'.Knows a b) : v.Knows a b := by
  cases (allowed_of_decide h).2 with
  | add acts manages grant account away =>
    exact .of_yield acts (.of_set (.inr ⟨_, yield_account ▸ account⟩) known)
  | remove acts manages account holds notOwner above =>
    exact .of_set (.inl (by simp [holds])) known
  | changeRole acts manages grant account holds notOwner =>
    exact .of_yield acts (.of_set (.inr ⟨_, yield_account ▸ account⟩) known)
  | leave acts notOwner => exact .of_set (.inl (by simp [acts])) known
  | transferOwnership owns account distinct holds =>
    exact .of_set (.inl (by simp [owns])) (.of_set (.inr ⟨_, account⟩) known)

end Service.Roll

namespace Store.State

variable {s : State}

/-- The user has an account. -/
def HasUser (s : State) (user : Uuid) : Prop := ∃ u ∈ s.users.rows, u.id = user

/-- Every membership, active or not, is of a user with an account. -/
def Peopled (s : State) : Prop := ∀ m ∈ s.memberships.rows, s.HasUser m.user

/-- No save removes an account. -/
theorem HasUser.put {user : Uuid} (h : s.HasUser user) (r : Row) : (s.put r).HasUser user := by
  cases r with
  | user u =>
    obtain ⟨v, hv, rfl⟩ := h
    by_cases e : v.id = u.id
    · exact ⟨u.saved, mem_put_user.2 (.inl rfl), e.symm⟩
    · exact ⟨v, mem_put_user.2 (.inr ⟨hv, e⟩), rfl⟩
  | workspace w => exact h
  | membership m => exact h

theorem Peopled.put_user (h : s.Peopled) (u : User) : (s.put (.user u)).Peopled :=
  fun m hm => (h m hm).put (.user u)

theorem Peopled.put_membership (h : s.Peopled) {m : Membership} (known : s.HasUser m.user) :
    (s.put (.membership m)).Peopled := by
  intro n hn
  rcases mem_put_membership.1 hn with rfl | ⟨hn, -⟩
  · exact known
  · exact h n hn

theorem hasUser_of_email {email : String} {u : User} (h : s.userByEmail? email = some u) :
    s.HasUser u.id := ⟨u, List.mem_of_find?_eq_some h, rfl⟩

/-- Whom the roll knows has an account. -/
theorem Peopled.hasUser (h : s.Peopled) (sound : s.Sound) {user workspace : Uuid}
    (known : s.roll.Knows user workspace) : s.HasUser user := by
  rcases known with standing | ⟨email, account⟩
  · obtain ⟨m, hm, rfl, -⟩ := sound.mem_of_standing rfl standing
    exact h m hm
  · obtain ⟨u, hu, rfl⟩ := Option.map_eq_some_iff.1 account
    exact hasUser_of_email hu

end Store.State

namespace Service

variable {s : State}

theorem peopled_change (sound : s.Sound) (h : s.Peopled) (supply : Supply) (workspace : Uuid)
    (actor : Identity) (wish : Change) :
    ((wish.action workspace actor).run (idle s supply)).2.published.Peopled := by
  have sound' := (wish.action workspace actor).keeps (fun _ _ h a => h.put a) supply sound
  rcases change_cases sound supply workspace actor wish with
    ⟨f, -, run⟩ | ⟨v, decided, ⟨s', later, run, users, -, hv⟩ | ⟨-, later, run⟩⟩
  · exact run ▸ h
  · rw [run] at sound' ⊢
    have sound' : s'.Sound := sound'
    intro m hm
    have standing : v.standing m.user m.workspace ≠ .none := by
      rw [← hv, sound'.standing_of_mem (m := m) hm, Membership.standing]
      split <;> simp
    obtain ⟨u, hu, hid⟩ := h.hasUser sound (.of_decide decided (.inl standing))
    exact ⟨u, users ▸ hu, hid⟩
  · exact run ▸ h

/-- Whoever makes the call has an account. -/
def Command.FromUser (c : Command) (s : State) : Prop := ∀ a ∈ c.actor?, s.HasUser a.user

theorem peopled_carry (sound : s.Sound) (h : s.Peopled) (o : Office) {c : Command}
    (known : c.FromUser s) (supply : Supply) :
    (o.carry c (idle s supply)).2.published.Peopled := by
  cases c with
  | signup name email password =>
    rcases Credentials.signup_cases o.issuer o.hasher s supply name email password with
      ⟨f, later, run⟩ | ⟨text, -, run⟩
    · rw [Office.carry, Command.action, run]
      exact h
    · rw [Office.carry, Command.action, run]
      exact h.put_user _
  | login email password =>
    rw [Office.carry, Command.action, Credentials.run_login sound]
    cases s.opened? o.hasher email password with
    | none => exact h
    | some u => exact h.put_user _
  | refresh token =>
    rw [Office.carry, Command.action, Credentials.run_refresh sound]
    cases s.bearer? o.issuer supply.readClock.1 token with
    | none => exact h
    | some u => exact h.put_user _
  | create name type owner =>
    rcases create_cases s supply name type owner with ⟨later, run⟩ | ⟨-, -, later, run⟩
    · rw [Office.carry, Command.action, run]
      exact h
    · rw [Office.carry, Command.action, run]
      have h : (s.put (.workspace (founded supply name type))).Peopled := h
      exact h.put_membership (known owner rfl)
  | update workspace actor name type =>
    rw [Office.carry, Command.action, run_update]
    split <;> exact h
  | delete workspace actor =>
    rw [Office.carry, Command.action, run_delete]
    split <;> exact h
  | change workspace actor wish => exact peopled_change sound h supply workspace actor wish
  | details workspace actor =>
    rw [Office.carry, Command.action, run_details]
    split <;> exact h
  | list actor => exact h
  | check workspace actor permission =>
    rw [Office.carry, Command.action, run_checkPermission]
    exact h
  | count workspace => exact h

/-- Whoever makes one of the calls has an account when they do. -/
def Office.FromUsers (o : Office) : List Command → World → Prop
  | [], _ => True
  | c :: rest, w => c.FromUser w.published ∧ o.FromUsers rest (o.carry c w).2

theorem Office.peopled_after (o : Office) (cs : List Command) (supply : Supply) (sound : s.Sound)
    (h : s.Peopled) (known : o.FromUsers cs (idle s supply)) :
    (o.after cs (idle s supply)).published.Peopled := by
  induction cs generalizing s supply with
  | nil => exact h
  | cons c rest ih =>
    obtain ⟨later, e⟩ := carry_idle o c s supply
    have rest' := known.2
    rw [e] at rest'
    rw [Office.after_cons, e]
    exact ih later (o.sound_carry c supply sound) (peopled_carry sound h o known.1 supply) rest'

end Service

/-! ## §2 Joined rows -/

namespace Store.State

variable {s : State} {user workspace : Uuid} {only : Option Uuid} {m : Membership} {x : Workspace}
  {d : WorkspaceDetails} {created : Moment}

/-- The workspace lives, and the user is an active member of it. -/
def Belongs (s : State) (user workspace : Uuid) : Prop :=
  (∃ x ∈ s.workspaces.rows, x.id = workspace ∧ x.isActive = true) ∧
    ∃ m ∈ s.memberships.rows, m.user = user ∧ m.workspace = workspace ∧ m.isActive = true

/-- The account that holds the one active OWNER row of the workspace. -/
def OwnedBy (s : State) (workspace : Uuid) (u : User) : Prop :=
  u ∈ s.users.rows ∧ ∃ m ∈ s.memberships.rows,
    (m.user = u.id ∧ m.workspace = workspace ∧ m.isActiveOwner = true) ∧
      ∀ n ∈ s.memberships.rows, n.workspace = workspace → n.isActiveOwner = true → n = m

theorem workspace?_active :
    s.workspace? workspace .active = some x ↔
      x ∈ s.workspaces.rows ∧ x.id = workspace ∧ x.isActive = true := by
  simp [workspace?, Option.filter_eq_some_iff, Table.find?_eq_some, Filter.admits, and_assoc]

theorem mem_callerRows :
    m ∈ s.callerRows user only ↔ m ∈ s.memberships.rows ∧ m.user = user ∧ m.isActive = true ∧
      ∀ w ∈ only, m.workspace = w := by
  simp [callerRows, Option.all_eq_true]

theorem details?_eq_some :
    s.details? m = some (created, d) ↔
      ∃ x, s.workspace? m.workspace .active = some x ∧ ∃ u, s.owner? x.id = some u ∧
        x.created = created ∧
        ⟨x.id, x.name, x.type, ⟨u.id, u.name, u.email⟩, s.memberCount x.id, m.role⟩ = d := by
  simp [details?, Option.bind_eq_some_iff]

/-- The account of an owner is stored, so that it is found. -/
theorem exists_owner? (owned : s.Owned) (peopled : s.Peopled) (hx : x ∈ s.workspaces.rows) :
    ∃ u, s.owner? x.id = some u ∧ s.OwnedBy x.id u := by
  obtain ⟨m, hm, ⟨hw, owns⟩, only⟩ := owned.one x hx
  obtain ⟨u, hu, hid⟩ := peopled m hm
  have one : ∀ n ∈ s.activeMembers x.id, n.role.isOwner = true → n = m := by
    intro n hn rank
    obtain ⟨hn, nw, owns'⟩ := mem_activeMembers_owner.1 ⟨hn, rank⟩
    exact only n hn nw owns'
  have found := (find?_eq_some_of_unique fun a ha b hb first second =>
    (one a ha first).trans (one b hb second).symm).2 (mem_activeMembers_owner.2 ⟨hm, hw, owns⟩)
  refine ⟨u, ?_, hu, m, hm, ⟨hid.symm, hw, owns⟩, only⟩
  rw [owner?, found]
  exact Table.find?_eq_some.2 ⟨hu, hid⟩

theorem workspace_of_details? (h : s.details? m = some (created, d)) :
    d.workspace = m.workspace := by
  obtain ⟨x, hx, u, -, -, rfl⟩ := details?_eq_some.1 h
  exact (workspace?_active.1 hx).2.1

theorem mem_detailsFor :
    d ∈ s.detailsFor user only ↔
      ∃ m ∈ s.callerRows user only, ∃ created, s.details? m = some (created, d) := by
  simp only [detailsFor, List.mem_map, List.mem_mergeSort, List.mem_filterMap]
  constructor
  · rintro ⟨⟨created, d⟩, ⟨m, hm, joined⟩, rfl⟩
    exact ⟨m, hm, created, joined⟩
  · rintro ⟨m, hm, created, joined⟩
    exact ⟨(created, d), ⟨m, hm, joined⟩, rfl⟩

/-- What is shown of one workspace is what is shown of it among all. -/
theorem mem_detailsFor_some :
    d ∈ s.detailsFor user (some workspace) ↔
      d ∈ s.detailsFor user none ∧ d.workspace = workspace := by
  simp only [mem_detailsFor, mem_callerRows, Option.mem_def, Option.some.injEq, forall_eq',
    reduceCtorEq, false_implies, implies_true, and_true]
  constructor
  · rintro ⟨m, ⟨hm, hu, active, hw⟩, created, joined⟩
    exact ⟨⟨m, ⟨hm, hu, active⟩, created, joined⟩, (workspace_of_details? joined).trans hw⟩
  · rintro ⟨⟨m, ⟨hm, hu, active⟩, created, joined⟩, hw⟩
    exact ⟨m, ⟨hm, hu, active, (workspace_of_details? joined).symm.trans hw⟩, created, joined⟩

/-- No workspace is shown twice, because a pair of user and workspace has one row. -/
theorem Sound.nodup_detailsFor (h : s.Sound) (user : Uuid) (only : Option Uuid) :
    ((s.detailsFor user only).map WorkspaceDetails.workspace).Nodup := by
  have distinct : s.memberships.rows.Pairwise (· ≠ ·) :=
    List.Pairwise.of_map _ (fun _ _ ne e => ne (congrArg _ e)) s.memberships.nodup
  have rows : (s.callerRows user only).Pairwise fun m n => m.workspace ≠ n.workspace := by
    refine (distinct.filter _).imp_of_mem fun hm hn ne e => ne ?_
    obtain ⟨hm, hu, -⟩ := mem_callerRows.1 hm
    obtain ⟨hn, hu', -⟩ := mem_callerRows.1 hn
    exact h.pairs _ hm _ hn (hu.trans hu'.symm) e
  have joined : ((s.callerRows user only).filterMap s.details?).Pairwise
      fun a b => a.2.workspace ≠ b.2.workspace := by
    refine rows.filterMap _ fun m n ne a ha b hb => ?_
    rw [workspace_of_details? ha, workspace_of_details? hb]
    exact ne
  rw [detailsFor, List.map_map]
  refine List.pairwise_map.2 ?_
  exact (List.mergeSort_perm _ _).symm.pairwise joined fun e => e.symm

/-- A workspace that was created no later comes no later. -/
theorem pairwise_detailsFor (s : State) (user : Uuid) (only : Option Uuid) :
    (s.detailsFor user only).Pairwise fun a b => ∃ x ∈ s.workspaces.rows,
      ∃ y ∈ s.workspaces.rows, x.id = a.workspace ∧ y.id = b.workspace ∧
        x.created.nanos ≤ y.created.nanos := by
  let rows := ((s.callerRows user only).filterMap s.details?).mergeSort
    fun a b => a.1.nanos ≤ b.1.nanos
  have sorted : rows.Pairwise fun a b => decide (a.1.nanos ≤ b.1.nanos) = true :=
    List.pairwise_mergeSort (fun a b c => by simpa using Int.le_trans)
      (fun a b => by simpa using Int.le_total ..) _
  have source : ∀ a ∈ rows, ∃ x ∈ s.workspaces.rows, x.id = a.2.workspace ∧ x.created = a.1 := by
    intro a ha
    obtain ⟨m, -, joined⟩ := List.mem_filterMap.1 (List.mem_mergeSort.1 ha)
    obtain ⟨x, hx, u, -, created, hd⟩ := details?_eq_some.1 joined
    exact ⟨x, (workspace?_active.1 hx).1, hd ▸ rfl, created⟩
  refine List.pairwise_map.2 ?_
  refine sorted.imp_of_mem fun ha hb le => ?_
  obtain ⟨x, hx, hid, hc⟩ := source _ ha
  obtain ⟨y, hy, hid', hc'⟩ := source _ hb
  exact ⟨x, hx, y, hy, hid, hid', hc ▸ hc' ▸ of_decide_eq_true le⟩

end Store.State

namespace Store.State

variable {s : State} {user workspace : Uuid} {d : WorkspaceDetails}

/-- Nothing is left out: who belongs to a workspace sees it. -/
theorem exists_mem_detailsFor (owned : s.Owned) (peopled : s.Peopled) :
    (∃ d ∈ s.detailsFor user none, d.workspace = workspace) ↔ s.Belongs user workspace := by
  constructor
  · rintro ⟨d, hd, rfl⟩
    obtain ⟨m, hm, created, joined⟩ := mem_detailsFor.1 hd
    obtain ⟨hm, hu, active, -⟩ := mem_callerRows.1 hm
    obtain ⟨x, hx, -⟩ := details?_eq_some.1 joined
    have hw := workspace_of_details? joined
    exact ⟨⟨x, hw ▸ workspace?_active.1 hx⟩, m, hm, hu, hw.symm, active⟩
  · rintro ⟨⟨x, hx, hid, lives⟩, m, hm, hu, rfl, active⟩
    obtain ⟨u, owner, -⟩ := exists_owner? owned peopled hx
    have joined := details?_eq_some.2 ⟨x, workspace?_active.2 ⟨hx, hid, lives⟩, u, owner, rfl, rfl⟩
    have row : m ∈ s.callerRows user none := mem_callerRows.2 ⟨hm, hu, active, nofun⟩
    exact ⟨_, mem_detailsFor.2 ⟨m, row, _, joined⟩, hid⟩

/-- What a row shows is what the tables hold. -/
theorem Sound.shown (h : s.Sound) (owned : s.Owned) (peopled : s.Peopled)
    (hd : d ∈ s.detailsFor user none) :
    (s.membership? user d.workspace .active).map Membership.role = some d.callerRole ∧
      s.memberCount d.workspace = d.memberCount ∧
      ∃ u, s.OwnedBy d.workspace u ∧ d.owner = ⟨u.id, u.name, u.email⟩ := by
  obtain ⟨m, hm, created, joined⟩ := mem_detailsFor.1 hd
  obtain ⟨hm, hu, active, -⟩ := mem_callerRows.1 hm
  obtain ⟨x, hx, u, owner, -, rfl⟩ := details?_eq_some.1 joined
  obtain ⟨hx, hid, -⟩ := workspace?_active.1 hx
  obtain ⟨u', owner', owns⟩ := exists_owner? owned peopled hx
  obtain rfl : u = u' := Option.some.inj (owner.symm.trans owner')
  have found : s.membership? user x.id .active = some m :=
    membership?_active.2 ⟨h.pair?_eq_some.2 ⟨hm, hu, hid.symm⟩, active⟩
  exact ⟨congrArg (Option.map Membership.role) found, rfl, u, owns, rfl⟩

/-- The row of a workspace is the only one of it. -/
theorem Sound.filter_detailsFor (h : s.Sound) (hd : d ∈ s.detailsFor user none) :
    (s.detailsFor user none).filter (fun e => e.workspace = d.workspace) = [d] := by
  have nodup := h.nodup_detailsFor user none
  revert nodup hd
  induction s.detailsFor user none with
  | nil => exact nofun
  | cons e rest ih =>
    intro hd nodup
    obtain ⟨new, nodup⟩ := List.nodup_cons.1 (List.map_cons ▸ nodup)
    rcases List.mem_cons.1 hd with rfl | hd
    · rw [List.filter_cons_of_pos (by simp)]
      refine congrArg _ (List.filter_eq_nil_iff.2 fun e he same => new ?_)
      exact of_decide_eq_true same ▸ List.mem_map_of_mem he
    · have other : e.workspace ≠ d.workspace := fun same => new (same ▸ List.mem_map_of_mem hd)
      rw [List.filter_cons_of_neg (by simpa using other)]
      exact ih hd nodup

/-- The first row of one workspace is the row of it among all. -/
theorem Sound.head?_detailsFor (h : s.Sound) :
    (s.detailsFor user (some workspace)).head? = some d ↔
      d ∈ s.detailsFor user none ∧ d.workspace = workspace := by
  constructor
  · exact fun first => mem_detailsFor_some.1 (List.mem_of_head? first)
  · intro hd
    obtain ⟨e, first⟩ : ∃ e, (s.detailsFor user (some workspace)).head? = some e :=
      ⟨_, List.head?_eq_some_head (List.ne_nil_of_mem (mem_detailsFor_some.2 hd))⟩
    obtain ⟨he, hw⟩ := mem_detailsFor_some.1 (List.mem_of_head? first)
    have one := h.filter_detailsFor hd.1
    have : e ∈ [d] := one ▸ List.mem_filter.2 ⟨he, by simp [hw, hd.2]⟩
    rw [first, List.mem_singleton.1 this]

end Store.State

/-! ## §3 The four calls -/

namespace Service

variable {s : State} {workspace : Uuid} {actor : Identity} {d : WorkspaceDetails}

theorem details_eq_ok (h : s.Sound) (o : Office) (supply : Supply) :
    (o.carry (.details workspace actor) (idle s supply)).1 = .ok d ↔
      d ∈ s.detailsFor actor.user none ∧ d.workspace = workspace := by
  rw [← h.head?_detailsFor, Office.carry, Command.action, run_details]
  cases (s.detailsFor actor.user (some workspace)).head? <;> simp

theorem check_eq (o : Office) (supply : Supply) (p : Permission) :
    (o.carry (.check workspace actor p) (idle s supply)).1 =
      .ok ((s.workspace? workspace .active).isSome &&
        (s.membership? actor.user workspace .active).any fun m => m.role.permits p) := by
  rw [Office.carry, Command.action, run_checkPermission]

/-- Looking is open to all who belong. -/
theorem check_view_eq_ok (h : s.Sound) (o : Office) (supply : Supply) :
    (o.carry (.check workspace actor .viewWorkspace) (idle s supply)).1 = .ok true ↔
      s.Belongs actor.user workspace := by
  rw [check_eq]
  simp only [Except.ok.injEq, Bool.and_eq_true, Option.isSome_iff_exists, Option.any_eq_true,
    State.workspace?_active, State.membership?_active, h.pair?_eq_some, Role.permits, and_true,
    and_assoc, State.Belongs]

/-- What is shown of a workspace alone is its row of the list, and true. -/
theorem shown_of_details (h : s.Sound) (owned : s.Owned) (peopled : s.Peopled) (o : Office)
    (supply : Supply)
    (hd : (o.carry (.details workspace actor) (idle s supply)).1 = .ok d) :
    (s.detailsFor actor.user none).filter (fun e => e.workspace = workspace) = [d] ∧
      (∀ p, (o.carry (.check workspace actor p) (idle s supply)).1 =
        .ok (d.callerRole.permits p)) ∧
      (o.carry (.count workspace) (idle s supply)).1 = .ok d.memberCount ∧
      ∃ u, s.OwnedBy workspace u ∧ d.owner = ⟨u.id, u.name, u.email⟩ := by
  obtain ⟨listed, rfl⟩ := (details_eq_ok h o supply).1 hd
  obtain ⟨role, count, owner⟩ := h.shown owned peopled listed
  refine ⟨h.filter_detailsFor listed, fun p => ?_, congrArg _ count, owner⟩
  obtain ⟨⟨x, hx⟩, -⟩ := (State.exists_mem_detailsFor owned peopled).1 ⟨d, listed, rfl⟩
  obtain ⟨m, hm, rank⟩ := Option.map_eq_some_iff.1 role
  rw [check_eq, State.workspace?_active.2 hx, hm, ← rank]
  rfl

/--
After any calls of users, all ways to look at a workspace agree, whoever looks.
It is shown alone exactly if viewing is permitted, exactly if it is listed, and
exactly if the actor is an active member of it and it lives. What is shown then
is the one row of the list about it; it says what the actor may do, how many
active members there are, and whose account holds the one active OWNER row. No
workspace is listed twice, and older ones come first.
-/
theorem views_agree (o : Office) (supply : Supply) (cs : List Command)
    (known : o.FromUsers cs (idle .empty supply)) (workspace : Uuid) (actor : Identity) :
    let w := o.after cs (idle .empty supply)
    let details := (o.carry (.details workspace actor) w).1
    let check := fun p => (o.carry (.check workspace actor p) w).1
    ∃ rows, (o.carry (.list actor) w).1 = .ok rows ∧
      ((∃ d, details = .ok d) ↔ check .viewWorkspace = .ok true) ∧
      (check .viewWorkspace = .ok true ↔ ∃ d ∈ rows, d.workspace = workspace) ∧
      ((∃ d ∈ rows, d.workspace = workspace) ↔ w.published.Belongs actor.user workspace) ∧
      (∀ d, details = .ok d → rows.filter (fun e => e.workspace = workspace) = [d] ∧
        (∀ p, check p = .ok (d.callerRole.permits p)) ∧
        (o.carry (.count workspace) w).1 = .ok d.memberCount ∧
        ∃ u, w.published.OwnedBy workspace u ∧ d.owner = ⟨u.id, u.name, u.email⟩) ∧
      (rows.map WorkspaceDetails.workspace).Nodup ∧
      rows.Pairwise fun a b => ∃ x ∈ w.published.workspaces.rows,
        ∃ y ∈ w.published.workspaces.rows, x.id = a.workspace ∧ y.id = b.workspace ∧
          x.created.nanos ≤ y.created.nanos := by
  obtain ⟨sound, governed⟩ := o.governed_after cs supply ⟨State.Sound.empty, governed_empty⟩
  have peopled := o.peopled_after cs supply State.Sound.empty nofun known
  obtain ⟨s, later, hw, -⟩ := o.after_idle cs .empty supply
  rw [hw] at sound governed peopled ⊢
  have sound : s.Sound := sound
  have owned := sound.owned governed
  have belongs : (∃ d ∈ s.detailsFor actor.user none, d.workspace = workspace) ↔
      s.Belongs actor.user workspace := State.exists_mem_detailsFor owned peopled
  have views : (o.carry (.check workspace actor .viewWorkspace) (idle s later)).1 = .ok true ↔
      s.Belongs actor.user workspace := check_view_eq_ok sound o later
  intro w details check
  refine ⟨s.detailsFor actor.user none, rfl, ?_, views.trans belongs.symm, belongs,
    fun d hd => shown_of_details sound owned peopled o later hd,
    sound.nodup_detailsFor _ _, s.pairwise_detailsFor _ _⟩
  rw [views, ← belongs]
  exact exists_congr fun d => details_eq_ok sound o later

/-- A founder sees the workspace, and that the account that founded it owns it. -/
theorem views_agree_founder :
    let founder : Identity := ⟨.ofNat 0, "n@b"⟩
    let cs : List Command := [.signup "N" "n@b" "p", .create "Acme" .team founder]
    let w := Office.small.after cs (idle .empty .counting)
    Office.small.FromUsers cs (idle .empty .counting) ∧
      ∃ d, (Office.small.carry (.details (.ofNat 3) founder) w).1 = .ok d ∧
        ∃ u, w.published.OwnedBy (.ofNat 3) u ∧ d.owner = ⟨u.id, u.name, u.email⟩ := by
  intro founder cs w
  have known : Office.small.FromUsers cs (idle .empty .counting) := by
    refine ⟨nofun, ?_, trivial⟩
    rintro _ ⟨⟩
    unfold State.HasUser
    decide +kernel
  have belongs : w.published.Belongs founder.user (.ofNat 3) := by
    unfold State.Belongs
    decide +kernel
  obtain ⟨rows, -, viewed, listed, all, shown, -⟩ :=
    views_agree .small .counting cs known (.ofNat 3) founder
  obtain ⟨d, hd⟩ := viewed.2 (listed.2 (all.2 belongs))
  exact ⟨known, d, hd, (shown d hd).2.2.2⟩

end Service

end Roster
