/-
Roster.Proofs.Service.Headcount — the number of members agrees with the books.

`Office.tally` counts the changes of one kind that succeed in a run. Among those
who belong to a workspace (`Roll.members`) an addition puts one more, a removal
and a departure take one away, and all other changes, a hand-over with its two
rows included, leave the same people (`Allowed.headcount`). A founder is there
from the start. The rows that are counted stand for as many people, since no pair
of user and workspace has two (`Sound.encard_members`). So the books balance for
every call (`balanced_carry`), and along every run (`balanced_after`).
-/
import Mathlib.Data.Set.Card
import Roster.Proofs.Service.Escalation
import Roster.Proofs.Service.Standings

namespace Roster

open Store (State)
open World (idle)

namespace Service

/-! ## §1 The books -/

namespace Change

def isAdd : Change → Bool
  | add _ _ => true
  | _ => false

def isRemove : Change → Bool
  | remove _ => true
  | _ => false

def isLeave : Change → Bool
  | leave => true
  | _ => false

end Change

namespace Office

variable {o : Office} {kind : Change → Bool} {workspace : Uuid} {w : World}

/-- One, if the call is a change of the workspace that is of the kind and succeeds. -/
def entry (o : Office) (kind : Change → Bool) (workspace : Uuid) (w : World) : Command → Nat
  | .change x actor wish =>
    if x = workspace ∧ kind wish ∧ (o.carry (.change x actor wish) w).1.isOk then 1 else 0
  | _ => 0

/-- How many of the calls are such changes. -/
def tally (o : Office) (kind : Change → Bool) (workspace : Uuid) : List Command → World → Nat
  | [], _ => 0
  | c :: rest, w => o.entry kind workspace w c + o.tally kind workspace rest (o.carry c w).2

theorem entry_of_alters {x : Uuid} {actor : Identity} {wish : Change}
    (alters : o.Alters workspace w (.change x actor wish)) :
    o.entry kind workspace w (.change x actor wish) = if kind wish then 1 else 0 := by
  obtain ⟨same, ok⟩ := alters
  simp [entry, same, ok, Except.isOk, Except.toBool]

theorem entry_of_not_alters {c : Command} (idles : ¬o.Alters workspace w c) :
    o.entry kind workspace w c = 0 := by
  cases c with
  | change x actor wish =>
    refine if_neg fun ⟨same, _, ok⟩ => idles ⟨same, ?_⟩
    revert ok
    cases (o.carry (.change x actor wish) w).1 with
    | ok _ => exact fun _ => rfl
    | error f => exact nofun
  | _ => rfl

end Office

/-! ## §2 People on the roll -/

namespace Roll

variable {v v' : Roll} {workspace actor : Uuid} {wish : Change}

/-- The number of people after a change that the table allows. -/
theorem Allowed.headcount (a : Allowed v workspace actor wish v') :
    (v'.members workspace).encard + (if wish.isRemove then 1 else 0) +
        (if wish.isLeave then 1 else 0) =
      (v.members workspace).encard + (if wish.isAdd then 1 else 0) := by
  cases a with
  | @add email role rank target acts manages grant account away =>
    have new : target ∉ v.members workspace := away
    rw [members_set_active, members_yield acts, Set.encard_insert_of_notMem new]
    simp [Change.isAdd, Change.isRemove, Change.isLeave]
  | @remove email rank held target acts manages account holds notOwner above =>
    rw [members_set_gone, ← Set.encard_sdiff_singleton_add_one (mem_members_of_active holds)]
    simp [Change.isAdd, Change.isRemove, Change.isLeave]
  | @changeRole email role rank held target acts manages grant account holds notOwner =>
    have there : target ∈ (v.yield actor workspace role).members workspace := by
      rw [members_yield acts]
      exact mem_members_of_active holds
    rw [members_set_active, Set.insert_eq_of_mem there, members_yield acts]
    simp [Change.isAdd, Change.isRemove, Change.isLeave]
  | @leave rank acts notOwner =>
    rw [members_set_gone, ← Set.encard_sdiff_singleton_add_one (mem_members_of_active acts)]
    simp [Change.isAdd, Change.isRemove, Change.isLeave]
  | @transferOwnership email held target owns account distinct holds =>
    have there : target ∈ (v.set actor workspace (.active .admin)).members workspace := by
      rw [members_set_of_active owns]
      exact mem_members_of_active holds
    rw [members_set_active, Set.insert_eq_of_mem there, members_set_of_active owns]
    simp [Change.isAdd, Change.isRemove, Change.isLeave]

end Roll

end Service

/-! ## §3 People in the tables -/

namespace Store.State

/-- As many rows are active as there are people. -/
theorem Sound.encard_members {s : State} (h : s.Sound) (workspace : Uuid) :
    (s.roll.members workspace).encard = s.memberCount workspace := by
  have mem {m : Membership} : m ∈ s.activeMembers workspace ↔
      m ∈ s.memberships.rows ∧ m.workspace = workspace ∧ m.isActive := by
    simp [activeMembers]
  have single : ((s.activeMembers workspace).map Membership.user).Nodup := by
    refine List.Nodup.map_on (fun m hm n hn same => ?_)
      ((List.Nodup.of_map _ s.memberships.nodup).filter _)
    obtain ⟨hm, mw, -⟩ := mem.1 hm
    obtain ⟨hn, nw, -⟩ := mem.1 hn
    exact h.pairs m hm n hn same (mw.trans nw.symm)
  have people : s.roll.members workspace =
      ((s.activeMembers workspace).map Membership.user).toFinset := by
    ext u
    rw [Service.Roll.mem_members, Finset.mem_coe, List.mem_toFinset, List.mem_map]
    constructor
    · intro active
      obtain ⟨m, hm, rfl, rfl, e⟩ := h.mem_of_standing (x := s.roll.standing u workspace) rfl
        fun e => by rw [e] at active; cases active
      rw [← e, Membership.standing_isActive] at active
      exact ⟨m, mem.2 ⟨hm, rfl, active⟩, rfl⟩
    · rintro ⟨m, hm, rfl⟩
      obtain ⟨row, rfl, active⟩ := mem.1 hm
      rwa [h.standing_of_mem row, Membership.standing_isActive]
  rw [people, Set.encard_coe_eq_coe_finsetCard, List.toFinset_card_of_nodup single,
    List.length_map, memberCount]

/-- One, once the workspace exists: no change has put its founder there. -/
def founders (s : State) (workspace : Uuid) : Nat :=
  if s.roll.status workspace = .absent then 0 else 1

end Store.State

namespace Service

/-! ## §4 One call -/

variable {s : State} {o : Office} {c : Command} {supply : Supply} {workspace : Uuid}

theorem memberCount_of_members {t : State} (h : s.Sound) (h' : t.Sound)
    (same : t.roll.members workspace = s.roll.members workspace) :
    t.memberCount workspace = s.memberCount workspace := by
  have e := h'.encard_members workspace
  rw [same, h.encard_members] at e
  exact_mod_cast e.symm

/-- Nobody belongs to a workspace that does not exist. -/
theorem members_of_absent (g : s.roll.Governed) (absent : s.roll.status workspace = .absent) :
    s.roll.members workspace = ∅ := by
  refine Set.eq_empty_of_forall_notMem fun u hu => ?_
  rw [Roll.mem_members, g.unpeopled u workspace absent] at hu
  cases hu

/-- The books balance for every call. -/
theorem balanced_carry (h : s.Sound) (g : s.roll.Governed) (o : Office) (c : Command)
    (supply : Supply) (workspace : Uuid) :
    let t := (o.carry c (idle s supply)).2.published
    t.memberCount workspace + o.entry Change.isRemove workspace (idle s supply) c +
        o.entry Change.isLeave workspace (idle s supply) c + s.founders workspace =
      s.memberCount workspace + o.entry Change.isAdd workspace (idle s supply) c +
        t.founders workspace := by
  intro t
  have h' : t.Sound := o.sound_carry c supply h
  have before := h.encard_members workspace
  have after := h'.encard_members workspace
  cases bearing h o workspace c supply with
  | @founds name type owner founds absent roll =>
    have nobody : s.memberCount workspace = 0 := by
      rw [members_of_absent g absent, Set.encard_empty] at before
      exact_mod_cast before.symm
    have one : t.memberCount workspace = 1 := by
      have people : t.roll.members workspace = {owner.user} := by
        rw [roll, Roll.members_set_active]
        show insert owner.user (s.roll.members workspace) = _
        rw [members_of_absent g absent, insert_empty_eq]
      rw [people, Set.encard_singleton] at after
      exact_mod_cast after.symm
    have exists' : t.roll.status workspace ≠ .absent := by
      rw [roll, Roll.set_status, Roll.mark_status, if_pos rfl]
      exact nofun
    rw [nobody, one, State.founders, State.founders, if_pos absent, if_neg exists']
    rfl
  | @alters actor wish alters lives allowed =>
    have people := allowed.headcount
    rw [before, after] at people
    have same : t.founders workspace = s.founders workspace := by
      rw [State.founders, State.founders, allowed.move.status]
    rw [same, Office.entry_of_alters alters, Office.entry_of_alters alters,
      Office.entry_of_alters alters]
    have people : t.memberCount workspace + (if wish.isRemove then 1 else 0) +
        (if wish.isLeave then 1 else 0) =
        s.memberCount workspace + (if wish.isAdd then 1 else 0) := by
      exact_mod_cast people
    omega
  | none founds alters still =>
    have same : t.founders workspace = s.founders workspace := by
      rw [State.founders, State.founders]
      exact if_congr still.absent rfl rfl
    rw [same, memberCount_of_members h h' still.members, Office.entry_of_not_alters alters,
      Office.entry_of_not_alters alters, Office.entry_of_not_alters alters]

/-- Every founded workspace has its owner among its members. -/
theorem memberCount_pos (h : s.Sound) (g : s.roll.Governed)
    (stored : s.roll.status workspace ≠ .absent) : 1 ≤ s.memberCount workspace := by
  obtain ⟨owner, owns⟩ := g.owned workspace stored
  have people := Set.one_le_encard_iff_nonempty.2
    ⟨owner, Roll.mem_members_of_active ((owns owner).2 rfl)⟩
  rw [h.encard_members] at people
  exact_mod_cast people

/-- What adds nobody and takes nobody away leaves the number as it was. -/
theorem memberCount_of_no_entry (h : s.Sound) (g : s.roll.Governed)
    (stored : s.roll.status workspace ≠ .absent) (supply : Supply)
    (add : o.entry Change.isAdd workspace (idle s supply) c = 0)
    (remove : o.entry Change.isRemove workspace (idle s supply) c = 0)
    (leave : o.entry Change.isLeave workspace (idle s supply) c = 0) :
    (o.carry c (idle s supply)).2.published.memberCount workspace = s.memberCount workspace := by
  have books := balanced_carry h g o c supply workspace
  have stays := (bearing h o workspace c supply).stored (.inl stored)
  simp only [add, remove, leave, State.founders, if_neg stored, if_neg stays] at books
  omega

/-! ## §5 Runs of calls -/

/-- The books balance along every run. -/
theorem balanced_after (h : s.Sound) (g : s.roll.Governed) (o : Office) (cs : List Command)
    (supply : Supply) (workspace : Uuid) :
    let t := (o.after cs (idle s supply)).published
    t.memberCount workspace + o.tally Change.isRemove workspace cs (idle s supply) +
        o.tally Change.isLeave workspace cs (idle s supply) + s.founders workspace =
      s.memberCount workspace + o.tally Change.isAdd workspace cs (idle s supply) +
        t.founders workspace := by
  induction cs generalizing s supply with
  | nil => rfl
  | cons c cs ih =>
    intro t
    obtain ⟨later, e⟩ := carry_idle o c s supply
    have first := balanced_carry h g o c supply workspace
    have rest := ih (o.sound_carry c supply h) (g.step (step_carry h o c supply)) later
    rw [← e] at rest
    simp only [Office.tally, t, Office.after_cons] at first rest ⊢
    omega

/-- Once founded, a workspace exists. -/
theorem stored_after (h : s.Sound) (o : Office) (cs : List Command) (supply : Supply)
    (stored : s.roll.status workspace ≠ .absent ∨
      o.Occurs (o.Founds workspace) cs (idle s supply)) :
    (o.after cs (idle s supply)).published.roll.status workspace ≠ .absent := by
  induction cs generalizing s supply with
  | nil => exact stored.resolve_right Office.not_occurs_nil
  | cons c cs ih =>
    obtain ⟨later, e⟩ := carry_idle o c s supply
    rw [Office.occurs_cons, ← or_assoc, e] at stored
    rw [Office.after_cons, e]
    refine ih (o.sound_carry c supply h) later (stored.imp_left ?_)
    exact (bearing h o workspace c supply).stored

/--
After any calls, the founding of a workspace among them, the number of its
members is one for the founder, and one for every addition, less those who were
removed and those who left. It is never zero, and as many users are found to be
members; and no call but those three, if they succeed, would change it.
-/
theorem headcount_balanced (o : Office) (supply : Supply) (cs : List Command) (workspace : Uuid)
    (founded : o.Occurs (o.Founds workspace) cs (idle .empty supply)) :
    let start := idle .empty supply
    let w := o.after cs start
    ∃ n : Nat, (o.carry (.count workspace) w).1 = .ok n ∧
      (n : Int) = 1 + o.tally Change.isAdd workspace cs start -
        o.tally Change.isRemove workspace cs start - o.tally Change.isLeave workspace cs start ∧
      1 ≤ n ∧
      {u | (w.published.membership? u workspace .active).isSome}.encard = n ∧
      ∀ c, o.entry Change.isAdd workspace w c = 0 → o.entry Change.isRemove workspace w c = 0 →
        o.entry Change.isLeave workspace w c = 0 →
        (o.carry (.count workspace) (o.carry c w).2).1 = .ok n := by
  intro start w
  obtain ⟨sound, governed⟩ : w.published.Sound ∧ w.published.roll.Governed :=
    o.governed_after cs supply ⟨State.Sound.empty, governed_empty⟩
  have stored : w.published.roll.status workspace ≠ .absent :=
    stored_after State.Sound.empty o cs supply (.inr founded)
  have books : w.published.memberCount workspace + o.tally Change.isRemove workspace cs start +
      o.tally Change.isLeave workspace cs start + 0 =
      0 + o.tally Change.isAdd workspace cs start + w.published.founders workspace :=
    balanced_after State.Sound.empty governed_empty o cs supply workspace
  rw [State.founders, if_neg stored] at books
  obtain ⟨s, later, here, -⟩ : ∃ s later, w = idle s later ∧ _ := o.after_idle cs .empty supply
  clear_value w
  subst here
  rw [World.idle_published] at sound governed stored books ⊢
  refine ⟨s.memberCount workspace, rfl, by omega, memberCount_pos sound governed stored, ?_,
    fun c add remove leave => ?_⟩
  · rw [← sound.encard_members]
    exact congrArg Set.encard (Set.ext fun u => State.mem_members.symm)
  · obtain ⟨next, e⟩ := carry_idle o c s later
    rw [e, ← memberCount_of_no_entry sound governed stored later add remove leave]
    rfl

/-- Someone is added, removed, added again, leaves, and is brought back at last. -/
theorem headcount_balanced_comings :
    let founder : Identity := ⟨.ofNat 7, "f@b"⟩
    let other : Identity := ⟨.ofNat 0, "n@b"⟩
    let cs : List Command :=
      [.signup "N" "n@b" "p", .create "Acme" .team founder,
        .change (.ofNat 3) founder (.add "n@b" .member),
        .change (.ofNat 3) founder (.remove "n@b"),
        .change (.ofNat 3) founder (.add "n@b" .admin),
        .change (.ofNat 3) other .leave, .change (.ofNat 3) founder (.add "n@b" .member)]
    let w := Office.small.after cs (idle .empty .counting)
    Office.small.Occurs (Office.small.Founds (.ofNat 3)) cs (idle .empty .counting) ∧
      (Office.small.carry (.count (.ofNat 3)) w).1 = .ok 2 := by
  intro founder other cs w
  have founded : Office.small.Occurs (Office.small.Founds (.ofNat 3)) cs
      (idle .empty .counting) :=
    ⟨[.signup "N" "n@b" "p"], .create "Acme" .team founder, _, rfl, by
      show (Office.small.carry (.create "Acme" .team founder) _).1 = .ok (.ofNat 3)
      decide +kernel⟩
  refine ⟨founded, ?_⟩
  obtain ⟨n, counted, books, -⟩ := headcount_balanced .small .counting cs (.ofNat 3) founded
  have add : Office.small.tally Change.isAdd (.ofNat 3) cs (idle .empty .counting) = 3 := by
    decide +kernel
  have remove : Office.small.tally Change.isRemove (.ofNat 3) cs (idle .empty .counting) = 1 := by
    decide +kernel
  have leave : Office.small.tally Change.isLeave (.ofNat 3) cs (idle .empty .counting) = 1 := by
    decide +kernel
  rw [add, remove, leave] at books
  obtain rfl : n = 2 := by omega
  exact counted

end Service

end Roster
