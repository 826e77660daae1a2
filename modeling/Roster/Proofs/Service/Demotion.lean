/-
Roster.Proofs.Service.Demotion — how an ADMIN loses their place to other admins.

No single call lets an ADMIN remove an ADMIN. But an ADMIN may change the rank
of another one, and may remove a MEMBER, so that together two calls can
(`admin_ousted`). There is no other way. Of the changes that the table allows to
anyone but the owner, one alone takes a user's place, and only a MEMBER's
(`Allowed.keeps_active`); and one alone takes an ADMIN's rank
(`Allowed.keeps_admin`). So in a run in which neither the owner nor the ADMIN
acts, who acted twice against the ADMIN are others of that rank (`admin_after`).
-/
import Roster.Proofs.Service.Escalation
import Roster.Proofs.Service.Standings

namespace Roster.Service

open Store (State)
open World (idle)

/-! ## §1 Changes that admins impose -/

namespace Office

/--
A change of the workspace that succeeds, and which an ADMIN of it asks for about
another user: the one that the address leads to.
-/
structure Imposes (o : Office) (workspace user : Uuid) (w : World) (actor : Identity)
    (email : String) (wish : Change) : Prop where
  other : actor.user ≠ user
  rank : w.published.rank? actor.user workspace = some .admin
  meant : (w.published.userByEmail? (normalizeEmail email)).map User.id = some user
  succeeds : (o.carry (.change workspace actor wish) w).1 = .ok ()

/-- With the call another ADMIN makes the user a MEMBER. -/
def Demotes (o : Office) (workspace user : Uuid) (w : World) (c : Command) : Prop :=
  ∃ actor email, c = .change workspace actor (.changeRole email .member) ∧
    o.Imposes workspace user w actor email (.changeRole email .member)

/-- With the call an ADMIN removes the user, who is a MEMBER. -/
def Expels (o : Office) (workspace user : Uuid) (w : World) (c : Command) : Prop :=
  w.published.rank? user workspace = some .member ∧
    ∃ actor email, c = .change workspace actor (.remove email) ∧
      o.Imposes workspace user w actor email (.remove email)

end Office

/-! ## §2 What the table takes from someone else -/

namespace Roll

variable {v v' : Roll} {workspace actor user : Uuid} {wish : Change}

theorem admin_of_between {role : Role} (manages : role ≠ .member) (low : role ≠ .owner) :
    role = .admin := by
  cases role <;> simp_all

/-- Who is not the owner gives nobody that rank, so makes no room for it. -/
theorem set_yield_standing_of_ne {target u : Uuid} {role : Role} {x : Standing}
    (below : role ≠ .owner) (ne : u ≠ target) :
    ((v.yield actor workspace role).set target workspace x).standing u workspace =
      v.standing u workspace := by
  rw [yield, if_neg below, set_standing, if_neg fun e => ne e.1]

/-- Others than the owner end no membership but a MEMBER's, and only an ADMIN does. -/
theorem Allowed.keeps_active (a : Allowed v workspace actor wish v') (other : actor ≠ user)
    (low : v.standing actor workspace ≠ .active .owner) {held : Role}
    (holds : v.standing user workspace = .active held) :
    (∃ role, v'.standing user workspace = .active role) ∨
      ∃ email, wish = .remove email ∧ v.account (normalizeEmail email) = some user ∧
        v.standing actor workspace = .active .admin ∧ held = .member := by
  cases a with
  | @add email role rank target acts manages grant account away =>
    have below : role ≠ .owner := fun e => low (grant e ▸ acts)
    have ne : user ≠ target := fun e => away (by rw [← e, holds]; rfl)
    exact .inl ⟨held, (set_yield_standing_of_ne below ne).trans holds⟩
  | @remove email rank had target acts manages account has notOwner above =>
    by_cases e : target = user
    · subst e
      obtain rfl : had = held := Standing.active.inj (has.symm.trans holds)
      have rank : rank = .admin := admin_of_between manages fun e => low (e ▸ acts)
      refine .inr ⟨email, rfl, account, rank ▸ acts, ?_⟩
      exact Decidable.byContradiction fun ne => above ⟨rank, admin_of_between ne notOwner⟩
    · refine .inl ⟨held, ?_⟩
      rw [set_standing, if_neg fun h => e h.1.symm, holds]
  | @changeRole email role rank had target acts manages grant account has notOwner =>
    have below : role ≠ .owner := fun e => low (grant e ▸ acts)
    by_cases e : user = target
    · exact .inl ⟨role, by rw [set_standing, if_pos ⟨e, rfl⟩]⟩
    · exact .inl ⟨held, (set_yield_standing_of_ne below e).trans holds⟩
  | leave acts notOwner =>
    refine .inl ⟨held, ?_⟩
    rw [set_standing, if_neg fun e => other e.1.symm, holds]
  | transferOwnership owns account distinct has => exact absurd owns low

/-- Others than the owner do nothing to an ADMIN but make them a MEMBER. -/
theorem Allowed.keeps_admin (a : Allowed v workspace actor wish v') (other : actor ≠ user)
    (low : v.standing actor workspace ≠ .active .owner)
    (admin : v.standing user workspace = .active .admin) :
    v'.standing user workspace = .active .admin ∨
      ∃ email, wish = .changeRole email .member ∧ v.account (normalizeEmail email) = some user ∧
        v.standing actor workspace = .active .admin := by
  cases a with
  | @add email role rank target acts manages grant account away =>
    have below : role ≠ .owner := fun e => low (grant e ▸ acts)
    have ne : user ≠ target := fun e => away (by rw [← e, admin]; rfl)
    exact .inl ((set_yield_standing_of_ne below ne).trans admin)
  | @remove email rank had target acts manages account has notOwner above =>
    have rank : rank = .admin := admin_of_between manages fun e => low (e ▸ acts)
    have ne : user ≠ target := by
      rintro rfl
      exact above ⟨rank, Standing.active.inj (has.symm.trans admin)⟩
    left
    rw [set_standing, if_neg fun e => ne e.1, admin]
  | @changeRole email role rank had target acts manages grant account has notOwner =>
    have below : role ≠ .owner := fun e => low (grant e ▸ acts)
    by_cases e : user = target
    · subst e
      cases role with
      | owner => exact absurd rfl below
      | admin => exact .inl (by rw [set_standing, if_pos ⟨rfl, rfl⟩])
      | member =>
        exact .inr ⟨email, rfl, account, admin_of_between manages (fun e => low (e ▸ acts)) ▸ acts⟩
    · exact .inl ((set_yield_standing_of_ne below e).trans admin)
  | leave acts notOwner =>
    left
    rw [set_standing, if_neg fun e => other e.1.symm, admin]
  | transferOwnership owns account distinct has => exact absurd owns low

end Roll

/-! ## §3 One call -/

/-- What calls by others keep of a workspace with its owner. -/
structure UnderOwner (owner workspace : Uuid) (s : State) : Prop where
  sound : s.Sound
  governed : s.roll.Governed
  ruled : s.roll.Ruled owner workspace

/-- The call acts on the workspace neither for its owner nor for the user. -/
structure Command.Aside (workspace owner user : Uuid) (c : Command) : Prop where
  owner : ¬c.ActsOn workspace owner
  user : ¬c.ActsOn workspace user

variable {s : State} {o : Office} {c : Command} {supply : Supply} {workspace owner user : Uuid}

theorem UnderOwner.carry (k : UnderOwner owner workspace s) (o : Office) (supply : Supply)
    (away : ¬c.ActsOn workspace owner) :
    UnderOwner owner workspace (o.carry c (idle s supply)).2.published where
  sound := o.sound_carry c supply k.sound
  governed := k.governed.step (step_carry k.sound o c supply)
  ruled := ruled_carry k.sound k.governed o c supply k.ruled away

/-- Such a call is a change that the table allows to someone else, or moves nobody. -/
theorem allowed_of_aside (k : UnderOwner owner workspace s) (o : Office) (supply : Supply)
    (aside : c.Aside workspace owner user) :
    Roll.Still workspace s.roll (o.carry c (idle s supply)).2.published.roll ∨
      ∃ actor wish, c = .change workspace actor wish ∧ actor.user ≠ user ∧
        s.roll.standing actor.user workspace ≠ .active .owner ∧
        (o.carry (.change workspace actor wish) (idle s supply)).1 = .ok () ∧
        s.roll.Allowed workspace actor.user wish
          (o.carry (.change workspace actor wish) (idle s supply)).2.published.roll := by
  cases bearing k.sound o workspace c supply with
  | founds founds absent roll =>
    rw [k.ruled.1] at absent
    cases absent
  | @alters actor wish alters lives allowed =>
    obtain ⟨one, only⟩ := k.governed.owned workspace (by simp [lives])
    refine .inr ⟨actor, wish, rfl, fun e => aside.user ⟨rfl, e⟩, fun owns => ?_, alters.2,
      allowed⟩
    exact aside.owner ⟨rfl, ((only _).1 owns).trans ((only _).1 k.ruled.2).symm⟩
  | none founds alters still => exact .inl still

theorem active_carry (k : UnderOwner owner workspace s) (supply : Supply)
    (aside : c.Aside workspace owner user) {held : Role}
    (holds : s.roll.standing user workspace = .active held) :
    (∃ role, (o.carry c (idle s supply)).2.published.roll.standing user workspace =
      .active role) ∨ o.Expels workspace user (idle s supply) c := by
  rcases allowed_of_aside k o supply aside with still | ⟨actor, wish, rfl, other, low, ok, allowed⟩
  · exact .inl ⟨held, (still.standing user).trans holds⟩
  · rcases allowed.keeps_active other low holds with kept | ⟨email, rfl, meant, rank, rfl⟩
    · exact .inl kept
    · exact .inr ⟨State.rank?_eq_some.2 holds, actor, email, rfl, other,
        State.rank?_eq_some.2 rank, meant, ok⟩

theorem admin_carry (k : UnderOwner owner workspace s) (supply : Supply)
    (aside : c.Aside workspace owner user)
    (admin : s.roll.standing user workspace = .active .admin) :
    (o.carry c (idle s supply)).2.published.roll.standing user workspace = .active .admin ∨
      o.Demotes workspace user (idle s supply) c := by
  rcases allowed_of_aside k o supply aside with still | ⟨actor, wish, rfl, other, low, ok, allowed⟩
  · exact .inl ((still.standing user).trans admin)
  · rcases allowed.keeps_admin other low admin with kept | ⟨email, rfl, meant, rank⟩
    · exact .inl kept
    · exact .inr ⟨actor, email, rfl, other, State.rank?_eq_some.2 rank, meant, ok⟩

/-! ## §4 Runs of calls -/

/-- A member stays one until they are expelled, which takes a MEMBER. -/
theorem active_after (k : UnderOwner owner workspace s) (supply : Supply) (cs : List Command)
    (aside : ∀ c ∈ cs, c.Aside workspace owner user) {held : Role}
    (holds : s.roll.standing user workspace = .active held) :
    (∃ role, (o.after cs (idle s supply)).published.roll.standing user workspace =
      .active role) ∨ o.Occurs (o.Expels workspace user) cs (idle s supply) := by
  induction cs generalizing s supply held with
  | nil => exact .inl ⟨held, holds⟩
  | cons c cs ih =>
    have first := aside c List.mem_cons_self
    obtain ⟨later, e⟩ := carry_idle o c s supply
    rw [Office.after_cons, Office.occurs_cons, e]
    rcases active_carry k supply first holds with ⟨role, holds'⟩ | expelled
    · rcases ih (k.carry o supply first.owner) later
        (fun d hd => aside d (List.mem_cons_of_mem _ hd)) holds' with kept | expelled
      · exact .inl kept
      · exact .inr (.inr expelled)
    · exact .inr (.inl expelled)

/-- An ADMIN stays a member unless they are demoted, and later expelled. -/
theorem admin_after (k : UnderOwner owner workspace s) (supply : Supply) (cs : List Command)
    (aside : ∀ c ∈ cs, c.Aside workspace owner user)
    (admin : s.roll.standing user workspace = .active .admin) :
    (∃ role, (o.after cs (idle s supply)).published.roll.standing user workspace =
      .active role) ∨
      ∃ first demotion rest, cs = first ++ demotion :: rest ∧
        o.Demotes workspace user (o.after first (idle s supply)) demotion ∧
        o.Occurs (o.Expels workspace user) rest
          (o.after (first ++ [demotion]) (idle s supply)) := by
  induction cs generalizing s supply with
  | nil => exact .inl ⟨.admin, admin⟩
  | cons c cs ih =>
    have first := aside c List.mem_cons_self
    have rest := fun d hd => aside d (List.mem_cons_of_mem c hd)
    obtain ⟨later, e⟩ := carry_idle o c s supply
    have k' := k.carry o supply first.owner
    by_cases demoted : o.Demotes workspace user (idle s supply) c
    -- Once demoted, they are a member like any other.
    · rcases active_carry (o := o) k supply first admin with ⟨role, holds⟩ | expelled
      · rw [Office.after_cons, e]
        rcases active_after (o := o) k' later cs rest holds with kept | expelled
        · exact .inl kept
        · refine .inr ⟨[], c, cs, rfl, demoted, ?_⟩
          rw [List.nil_append, Office.after_cons, e]
          exact expelled
      · have held := State.rank?_eq_some.1 expelled.1
        rw [World.idle_published, admin] at held
        cases held
    · have holds := (admin_carry k supply first admin).resolve_right demoted
      rw [Office.after_cons, e]
      rcases ih k' later rest holds with kept | ⟨pre, demotion, post, rfl, demoted, expelled⟩
      · exact .inl kept
      · refine .inr ⟨c :: pre, demotion, post, rfl, ?_, ?_⟩
        · rwa [Office.after_cons, e]
        · rwa [List.cons_append, Office.after_cons, e]

/--
After any calls, let a workspace be alive and a user be an ADMIN of it, and let
any calls follow in none of which the user or the owner acts on it. Then they
are still an active member, unless one of the calls was another ADMIN's who made
them a MEMBER, and a later one was an ADMIN's who removed them as such.
-/
theorem admin_stays_unless_demoted (o : Office) (supply : Supply) (before : List Command)
    (workspace user : Uuid)
    (lives : ((o.after before (idle .empty supply)).published.workspace? workspace
      .active).isSome)
    (admin : (o.after before (idle .empty supply)).published.rank? user workspace = some .admin)
    (cs : List Command) (later : Supply)
    (aside : ∀ c ∈ cs, ∀ u, c.ActsOn workspace u → u ≠ user ∧
      (o.after before (idle .empty supply)).published.rank? u workspace ≠ some .owner) :
    let start := idle (o.after before (idle .empty supply)).published later
    ((o.after cs start).published.membership? user workspace .active).isSome ∨
      ∃ first demotion rest, cs = first ++ demotion :: rest ∧
        o.Demotes workspace user (o.after first start) demotion ∧
        o.Occurs (o.Expels workspace user) rest (o.after (first ++ [demotion]) start) := by
  intro start
  obtain ⟨sound, governed⟩ := o.governed_after before supply ⟨State.Sound.empty, governed_empty⟩
  have status := State.status_eq_active.2 (Option.isSome_iff_exists.1 lives)
  obtain ⟨owner, one⟩ := governed.owned workspace fun e => by cases status.symm.trans e
  have owns := (one owner).2 rfl
  have apart : ∀ c ∈ cs, c.Aside workspace owner user := fun c hc =>
    ⟨fun acts => (aside c hc owner acts).2 (State.rank?_eq_some.2 owns),
      fun acts => (aside c hc user acts).1 rfl⟩
  rcases admin_after (o := o) ⟨sound, governed, status, owns⟩ later cs apart
    (State.rank?_eq_some.1 admin) with ⟨role, holds⟩ | ousted
  · left
    have held := State.rank?_eq_some.2 holds
    rw [State.rank?, Option.map_eq_some_iff] at held
    obtain ⟨m, found, -⟩ := held
    rw [found]
    rfl
  · exact .inr ousted

/-- An ADMIN who tries to remove another, and gives them the rank they hold, leaves them there. -/
theorem admin_stays_unless_demoted_rival :
    let founder : Identity := ⟨.ofNat 9, "f@b"⟩
    let rival : Identity := ⟨.ofNat 0, "a@b"⟩
    let before : List Command :=
      [.signup "A" "a@b" "p", .signup "V" "v@b" "p", .create "Acme" .team founder,
        .change (.ofNat 6) founder (.add "a@b" .admin),
        .change (.ofNat 6) founder (.add "v@b" .admin)]
    let s := (Office.small.after before (idle .empty .counting)).published
    let cs : List Command :=
      [.change (.ofNat 6) rival (.remove "v@b"),
        .change (.ofNat 6) rival (.changeRole "v@b" .admin)]
    (s.workspace? (.ofNat 6) .active).isSome ∧ s.rank? (.ofNat 3) (.ofNat 6) = some .admin ∧
      ((Office.small.after cs (idle s .counting)).published.membership? (.ofNat 3) (.ofNat 6)
        .active).isSome := by
  intro founder rival before s cs
  have lives : (s.workspace? (.ofNat 6) .active).isSome := by decide +kernel
  have admin : s.rank? (.ofNat 3) (.ofNat 6) = some .admin := by decide +kernel
  have apart : rival.user ≠ .ofNat 3 ∧ s.rank? rival.user (.ofNat 6) ≠ some .owner := by
    decide +kernel
  refine ⟨lives, admin, ?_⟩
  have kept := admin_stays_unless_demoted .small .counting before (.ofNat 6) (.ofNat 3) lives admin
    cs .counting fun c hc u acts => by
      rcases List.mem_cons.1 hc with rfl | hc
      · exact acts.2 ▸ apart
      · rcases List.mem_singleton.1 hc with rfl
        exact acts.2 ▸ apart
  -- Neither of the two calls makes anybody a MEMBER.
  refine kept.resolve_right ?_
  rintro ⟨first, demotion, rest, split, ⟨actor, email, rfl, -⟩, -⟩
  have mem : Command.change (.ofNat 6) actor (.changeRole email .member) ∈ cs :=
    split ▸ List.mem_append_right first List.mem_cons_self
  simp [cs] at mem

/-- One ADMIN demotes and removes another, as the owner looks on. -/
theorem admin_ousted :
    let founder : Identity := ⟨.ofNat 9, "f@b"⟩
    let rival : Identity := ⟨.ofNat 0, "a@b"⟩
    let before : List Command :=
      [.signup "A" "a@b" "p", .signup "V" "v@b" "p", .create "Acme" .team founder,
        .change (.ofNat 6) founder (.add "a@b" .admin),
        .change (.ofNat 6) founder (.add "v@b" .admin)]
    let s := (Office.small.after before (idle .empty .counting)).published
    let cs : List Command :=
      [.change (.ofNat 6) rival (.changeRole "v@b" .member),
        .change (.ofNat 6) rival (.remove "v@b")]
    (s.workspace? (.ofNat 6) .active).isSome ∧ s.rank? (.ofNat 3) (.ofNat 6) = some .admin ∧
      (∀ c ∈ cs, ∀ u, c.ActsOn (.ofNat 6) u →
        u ≠ .ofNat 3 ∧ s.rank? u (.ofNat 6) ≠ some .owner) ∧
      ((Office.small.after cs (idle s .counting)).published.membership? (.ofNat 3) (.ofNat 6)
        .active) = none := by
  intro founder rival before s cs
  refine ⟨by decide +kernel, by decide +kernel, fun c hc u acts => ?_, by decide +kernel⟩
  have apart : rival.user ≠ .ofNat 3 ∧ s.rank? rival.user (.ofNat 6) ≠ some .owner := by
    decide +kernel
  rcases List.mem_cons.1 hc with rfl | hc
  · exact acts.2 ▸ apart
  · rcases List.mem_singleton.1 hc with rfl
    exact acts.2 ▸ apart

end Roster.Service
