/-
Roster.Proofs.Service.Sessions — one refresh token of a user is good, the latest.

A `Grant` is a pair of tokens that a call handed out. Signing in and renewing
begin a session of a user with it, signing up does not. The stored fingerprints
are at every point those of the users' latest sessions (`Kept`), since every
call leaves the accounts alone, opens one without a fingerprint or gives one the
fingerprint of the pair that it hands out (`Accounts`). Tokens that differ in
their identifier differ, so that no other token is mistaken for the latest.
-/
import Roster.Proofs.Service.Decisions

namespace Roster.Service

open Store (State Row)
open World (idle amid)
open Token (Issuer Pair Use Claims)

/-! ## §1 Grants -/

/-- A pair of tokens that a call handed out. -/
structure Grant where
  /-- The user whose session it began, if the call was a login or a renewal. -/
  session : Option Uuid
  pair : Pair
  /-- The identifiers of the two tokens. -/
  jti : Use → Uuid

/-- The grant of the pair that a call answers with; its tokens take the last two identifiers. -/
def Grant.of (session : Option Uuid) : Except Failure Pair × World → Option Grant
  | (.ok pair, w) =>
    some ⟨session, pair, fun use => w.supply.id (w.supply.nextId - 2 + use.place)⟩
  | (.error _, _) => none

namespace Office

/-- What a call hands out. -/
def grant? (o : Office) (c : Command) (w : World) : Option Grant :=
  match c with
  | .signup name email password => Grant.of none (o.carry (.signup name email password) w)
  | .login email password =>
    Grant.of ((w.published.userByEmail? (normalizeEmail email)).map User.id)
      (o.carry (.login email password) w)
  | .refresh token =>
    Grant.of ((o.issuer.validate w.supply.readClock.1 token .refresh).map Claims.sub)
      (o.carry (.refresh token) w)
  | _ => none

/-- All that the commands hand out, the latest first. -/
def grants (o : Office) : List Command → World → List Grant
  | [], _ => []
  | c :: rest, w => o.grants rest (o.carry c w).2 ++ (o.grant? c w).toList

theorem grants_append (o : Office) (cs ds : List Command) (w : World) :
    o.grants (cs ++ ds) w = o.grants ds (o.after cs w) ++ o.grants cs w := by
  induction cs generalizing w with
  | nil => simp [grants]
  | cons c cs ih => rw [List.cons_append, grants, ih, after_cons, grants, List.append_assoc]

/-- What the last command hands out comes first. -/
theorem grants_concat (o : Office) (cs : List Command) (c : Command) (w : World) :
    o.grants (cs ++ [c]) w = (o.grant? c (o.after cs w)).toList ++ o.grants cs w := by
  rw [grants_append, grants, grants, List.nil_append]

end Office

/-- The refresh token of a user's latest session. -/
def latest (gs : List Grant) (user : Uuid) : Option String :=
  (gs.find? fun g => g.session == some user).map fun g => g.pair.refresh

theorem latest_cons (g : Grant) (gs : List Grant) (user : Uuid) :
    latest (g :: gs) user =
      if g.session = some user then some g.pair.refresh else latest gs user := by
  rw [latest, List.find?_cons]
  by_cases h : g.session = some user
  · simp [h]
  · have other : (g.session == some user) = false := by simpa using h
    rw [other, if_neg h, latest]

/-- The latest session is one of those begun. -/
theorem mem_of_latest {gs : List Grant} {user : Uuid} {t : String}
    (h : latest gs user = some t) :
    ∃ g ∈ gs, g.session = some user ∧ g.pair.half .refresh = t := by
  obtain ⟨g, found, e⟩ := Option.map_eq_some_iff.1 h
  exact ⟨g, List.mem_of_find?_eq_some found, by simpa using List.find?_some found, e⟩

/-- Later sessions of the same user come first. -/
theorem latest_append {newer : List Grant} {h : Grant} {user : Uuid} (hh : h ∈ newer)
    (hs : h.session = some user) (older : List Grant) :
    latest (newer ++ older) user = latest newer user := by
  rw [latest, latest, List.find?_append]
  cases found : newer.find? fun g => g.session == some user with
  | none => exact absurd (List.find?_eq_none.1 found h hh) (by simp [hs])
  | some g => rfl

/-! ## §2 What calls do to the accounts -/

/-- What a call does to the accounts, beside the pair that it hands out. -/
inductive Accounts (s : State) : State → Option Grant → Prop
  | same {t : State} : t.users = s.users → Accounts s t none
  | opened {u : User} {g : Grant} : s.Admits (.user u) → u.version = 0 →
    u.refreshFingerprint = none → g.session = none → Accounts s (s.put (.user u)) (some g)
  | renewed {u : User} {g : Grant} : u ∈ s.users.rows → g.session = some u.id →
    Accounts s (s.put (.user (u.honouring g.pair.refresh))) (some g)

/-- Both tokens are signed for one user, with the identifiers of the grant. -/
def Grant.Issued (i : Issuer) (clock : Nat → Reading) (g : Grant) : Prop :=
  ∃ u : User, (∀ user, g.session = some user → user = u.id) ∧
    ∀ use, ∃ n, g.pair.half use = i.sign (i.claims u use (clock n) (g.jti use))

variable {s : State} {supply : Supply}

/-- The grant of a pair that is issued with what the streams give next. -/
def Grant.drawn (i : Issuer) (u : User) (supply : Supply) (session : Option Uuid) : Grant :=
  ⟨session, (i.drawPair u supply).1, fun use => supply.id (supply.nextId + use.place)⟩

theorem Grant.of_drawPair (i : Issuer) (u : User) (supply : Supply) (session : Option Uuid)
    (t : State) :
    Grant.of session (.ok (i.drawPair u supply).1, idle t (i.drawPair u supply).2) =
      some (.drawn i u supply session) := by
  have last : (i.drawPair u supply).2.nextId - 2 = supply.nextId :=
    Nat.add_sub_cancel supply.nextId 2
  rw [Grant.of, World.idle_supply, last]
  rfl

theorem Grant.issued_drawn (i : Issuer) (u : User) (supply : Supply) {session : Option Uuid}
    (own : ∀ user, session = some user → user = u.id) :
    (Grant.drawn i u supply session).Issued i supply.clock :=
  ⟨u, own, fun use => ⟨supply.nextReading + use.place, i.half_drawPair u supply use⟩⟩

/-- The refresh token of a session is good for its user until its leeway has passed. -/
theorem Grant.Issued.validates {i : Issuer} {clock : Nat → Reading} {g : Grant}
    (h : g.Issued i clock) {user : Uuid} (session : g.session = some user) :
    ∃ (c : Claims) (n : Nat), c.sub = user ∧ c.exp = (clock n).seconds + i.lifetime .refresh ∧
      ∀ now : Reading, now.seconds ≤ c.exp + 60 →
        i.validate now g.pair.refresh .refresh = some c := by
  obtain ⟨u, own, signed⟩ := h
  obtain ⟨n, same⟩ := signed .refresh
  have same : g.pair.refresh = _ := same
  have claims := i.claims_eq u .refresh (clock n) (g.jti .refresh)
  refine ⟨i.claims u .refresh (clock n) (g.jti .refresh), n, ?_, ?_, fun now current => ?_⟩
  · rw [claims, own user session]
  · rw [claims]
  · rw [same, Issuer.validate_sign (i.claims_proper ..)]
    exact if_pos ⟨by rw [claims], now.presentDay.late, current⟩

theorem bearer?_eq_some {i : Issuer} {now : Moment} {token : String} {u : User} :
    s.bearer? i now token = some u ↔ ∃ c, i.validate now token .refresh = some c ∧
      s.user? c.sub = some u ∧ u.refreshFingerprint = some (Token.fingerprint token) := by
  rw [State.bearer?, Option.bind_eq_some_iff]
  refine exists_congr fun c => and_congr_right fun _ => ?_
  rw [Option.filter_eq_some_iff]
  refine and_congr_right fun _ => ?_
  cases u.refreshFingerprint with
  | none => simp
  | some f =>
    rw [Option.any_some, Token.fingerprintMatches, beq_iff_eq, Option.some_inj, eq_comm]

theorem opened?_eq_some {hasher : Password.Hasher} {email password : String} {u : User}
    (h : s.opened? hasher email password = some u) :
    s.userByEmail? (normalizeEmail email) = some u :=
  (Option.filter_eq_some_iff.1 h).1

/-- What a call does to the accounts fits what it hands out, and that is issued. -/
def Accounted (o : Office) (c : Command) (s : State) (supply : Supply) : Prop :=
  Accounts s (o.carry c (idle s supply)).2.published (o.grant? c (idle s supply)) ∧
    ∀ g ∈ o.grant? c (idle s supply), g.Issued o.issuer supply.clock

/-- A call that hands out nothing leaves the accounts alone. -/
theorem Accounted.of_users {o : Office} {c : Command}
    (users : (o.carry c (idle s supply)).2.published.users = s.users)
    (nothing : o.grant? c (idle s supply) = none) : Accounted o c s supply := by
  rw [Accounted, nothing]
  exact ⟨.same users, nofun⟩

theorem accounted_signup (o : Office) (name email password : String) :
    Accounted o (.signup name email password) s supply := by
  rcases Credentials.signup_cases o.issuer o.hasher s supply name email password with
    ⟨f, later, run⟩ | ⟨text, admits, run⟩
  · have run : o.carry (.signup name email password) (idle s supply) = _ := run
    refine .of_users ?_ ?_
    · rw [run]
      rfl
    · rw [Office.grant?, run]
      rfl
  · have run : o.carry (.signup name email password) (idle s supply) = _ := run
    rw [Accounted, Office.grant?, run, Grant.of_drawPair]
    refine ⟨.opened admits rfl rfl rfl, fun g hg => ?_⟩
    cases hg
    exact Grant.issued_drawn o.issuer _ supply.drawSalt.2.drawId.2.readClock.2 nofun

theorem accounted_login (h : s.Sound) (o : Office) (email password : String) :
    Accounted o (.login email password) s supply := by
  have run : o.carry (.login email password) (idle s supply) = _ :=
    Credentials.run_login h email password
  cases found : s.opened? o.hasher email password with
  | none =>
    rw [found] at run
    refine .of_users ?_ ?_
    · rw [run]
      rfl
    · rw [Office.grant?, run]
      rfl
  | some u =>
    rw [found] at run
    have user : (idle s supply).published.userByEmail? (normalizeEmail email) = some u :=
      opened?_eq_some found
    rw [Accounted, Office.grant?, run, user, Option.map_some]
    dsimp only
    rw [Grant.of_drawPair]
    refine ⟨.renewed (g := .drawn ..) (List.mem_of_find?_eq_some user) rfl, fun g hg => ?_⟩
    cases hg
    exact Grant.issued_drawn o.issuer u supply fun _ e => (Option.some.inj e).symm

theorem accounted_refresh (h : s.Sound) (o : Office) (token : String) :
    Accounted o (.refresh token) s supply := by
  have run : o.carry (.refresh token) (idle s supply) = _ := Credentials.run_refresh h token
  cases found : s.bearer? o.issuer supply.readClock.1 token with
  | none =>
    rw [found] at run
    refine .of_users ?_ ?_
    · rw [run]
      rfl
    · rw [Office.grant?, run]
      rfl
  | some u =>
    rw [found] at run
    obtain ⟨c, valid, user, -⟩ := bearer?_eq_some.1 found
    have valid : o.issuer.validate (idle s supply).supply.readClock.1 token .refresh = some c :=
      valid
    obtain ⟨hu, hid⟩ := Store.Table.find?_eq_some.1 user
    have hid : c.sub = u.id := hid.symm
    rw [Accounted, Office.grant?, run, valid, Option.map_some, hid]
    dsimp only
    rw [Grant.of_drawPair]
    refine ⟨.renewed (g := .drawn ..) hu rfl, fun g hg => ?_⟩
    cases hg
    exact Grant.issued_drawn o.issuer u supply.readClock.2 fun _ e => (Option.some.inj e).symm

theorem users_create (o : Office) (name : String) (type : WorkspaceType) (owner : Identity) :
    (o.carry (.create name type owner) (idle s supply)).2.published.users = s.users := by
  rcases create_cases s supply name type owner with ⟨later, run⟩ | ⟨-, -, later, run⟩
  · have run : o.carry (.create name type owner) (idle s supply) = _ := run
    rw [run]
    rfl
  · have run : o.carry (.create name type owner) (idle s supply) = _ := run
    rw [run]
    rfl

theorem users_change (h : s.Sound) (o : Office) (workspace : Uuid) (actor : Identity)
    (wish : Change) :
    (o.carry (.change workspace actor wish) (idle s supply)).2.published.users = s.users := by
  rcases change_cases h supply workspace actor wish with ⟨f, -, run⟩ | ⟨v, -, settled⟩
  · have run : o.carry (.change workspace actor wish) (idle s supply) = _ := run
    rw [run]
    rfl
  · rcases settled with ⟨s', later, run, users, -⟩ | ⟨-, later, run⟩
    · have run : o.carry (.change workspace actor wish) (idle s supply) = _ := run
      rw [run]
      exact users
    · have run : o.carry (.change workspace actor wish) (idle s supply) = _ := run
      rw [run]
      rfl

/-- Whatever is called, and however it ends, the accounts change in one of three ways. -/
theorem accounted_carry (h : s.Sound) (o : Office) (c : Command) (supply : Supply) :
    Accounted o c s supply := by
  cases c with
  | signup name email password => exact accounted_signup o name email password
  | login email password => exact accounted_login h o email password
  | refresh token => exact accounted_refresh h o token
  | create name type owner => exact .of_users (users_create o name type owner) rfl
  | update workspace actor name type =>
    refine .of_users ?_ rfl
    have run : o.carry (.update workspace actor name type) (idle s supply) = _ :=
      run_update name type
    rw [run]
    cases s.authorize workspace actor .updateWorkspace
      "Only owner or admin can update the workspace" <;> rfl
  | delete workspace actor =>
    refine .of_users ?_ rfl
    have run : o.carry (.delete workspace actor) (idle s supply) = _ := run_delete
    rw [run]
    cases s.authorize workspace actor .deleteWorkspace
      "Only the owner can delete the workspace" <;> rfl
  | change workspace actor wish => exact .of_users (users_change h o workspace actor wish) rfl
  | details workspace actor =>
    refine .of_users ?_ rfl
    have run : o.carry (.details workspace actor) (idle s supply) = _ := run_details
    rw [run]
    cases (s.detailsFor actor.user (some workspace)).head? <;> rfl
  | list actor => exact .of_users rfl rfl
  | check workspace actor permission =>
    refine .of_users ?_ rfl
    have run : o.carry (.check workspace actor permission) (idle s supply) = _ :=
      run_checkPermission permission
    rw [run]
    rfl
  | count workspace => exact .of_users rfl rfl

/-! ## §3 Fingerprints are those of the latest sessions -/

/-- What is true of the accounts once the grants have been handed out. -/
structure Kept (s : State) (gs : List Grant) : Prop where
  sound : s.Sound
  fingerprints : ∀ u ∈ s.users.rows, u.refreshFingerprint = (latest gs u.id).map Token.fingerprint
  /-- Whoever has a session has an account. -/
  stored : ∀ g ∈ gs, ∀ user, g.session = some user → ∃ u ∈ s.users.rows, u.id = user

theorem Kept.empty : Kept .empty [] := ⟨State.Sound.empty, nofun, nofun⟩

variable {gs : List Grant}

/-- Whoever has no account has no session. -/
theorem Kept.latest_eq_none (h : Kept s gs) {user : Uuid}
    (new : ∀ u ∈ s.users.rows, u.id ≠ user) : latest gs user = none := by
  cases found : latest gs user with
  | none => rfl
  | some t =>
    obtain ⟨g, mem, hg, -⟩ := mem_of_latest found
    obtain ⟨u, hu, hid⟩ := h.stored g mem user hg
    exact absurd hid (new u hu)

theorem Kept.opened (h : Kept s gs) {u : User} {g : Grant} (admits : s.Admits (.user u))
    (version : u.version = 0) (blank : u.refreshFingerprint = none) (none : g.session = none) :
    Kept (s.put (.user u)) (g :: gs) := by
  have other (user : Uuid) : latest (g :: gs) user = latest gs user := by
    rw [latest_cons, none, if_neg nofun]
  have new : ∀ v ∈ s.users.rows, v.id ≠ u.id :=
    (Store.Table.carries_zero h.sound.userVersions).1 (version ▸ admits.1)
  refine ⟨h.sound.put_user admits, fun v hv => ?_, fun f hf user hs => ?_⟩
  · rw [other]
    rcases State.mem_put_user.1 hv with rfl | ⟨hv, -⟩
    · rw [User.saved_refreshFingerprint, User.saved_id, blank, h.latest_eq_none new]
      rfl
    · exact h.fingerprints v hv
  · rcases List.mem_cons.1 hf with rfl | hf
    · rw [none] at hs
      cases hs
    · obtain ⟨v, hv, hid⟩ := h.stored f hf user hs
      exact ⟨v, State.mem_put_user.2 (.inr ⟨hv, new v hv⟩), hid⟩

theorem Kept.renewed (h : Kept s gs) {u : User} {g : Grant} (hu : u ∈ s.users.rows)
    (hg : g.session = some u.id) :
    Kept (s.put (.user (u.honouring g.pair.refresh))) (g :: gs) := by
  have admits := Credentials.admits_honouring h.sound hu g.pair.refresh
  refine ⟨h.sound.put_user admits, fun v hv => ?_, fun f hf user hs => ?_⟩
  · rw [latest_cons, hg]
    rcases State.mem_put_user.1 hv with rfl | ⟨hv, other⟩
    · have same : (u.honouring g.pair.refresh).id = u.id := rfl
      rw [User.saved_id, same, if_pos rfl]
      rfl
    · have other : v.id ≠ u.id := other
      rw [if_neg fun e => other (Option.some.inj e).symm]
      exact h.fingerprints v hv
  · have row (x : Uuid) (stored : ∃ v ∈ s.users.rows, v.id = x) :
        ∃ v ∈ (s.put (.user (u.honouring g.pair.refresh))).users.rows, v.id = x := by
      obtain ⟨v, hv, rfl⟩ := stored
      by_cases same : v.id = u.id
      · exact ⟨_, State.mem_put_user.2 (.inl rfl), same.symm⟩
      · exact ⟨v, State.mem_put_user.2 (.inr ⟨hv, same⟩), rfl⟩
    rcases List.mem_cons.1 hf with rfl | hf
    · rw [hg] at hs
      exact row user ⟨u, hu, Option.some.inj hs⟩
    · exact row user (h.stored f hf user hs)

/-- Each call keeps it. -/
theorem Kept.carry (h : Kept s gs) (o : Office) (c : Command) (supply : Supply) :
    Kept (o.carry c (idle s supply)).2.published ((o.grant? c (idle s supply)).toList ++ gs) := by
  have sound := o.sound_carry c supply h.sound
  have accounts := (accounted_carry h.sound o c supply).1
  revert sound accounts
  generalize (o.carry c (idle s supply)).2.published = t
  generalize o.grant? c (idle s supply) = g
  intro sound accounts
  cases accounts with
  | same users => exact ⟨sound, users ▸ h.fingerprints, users ▸ h.stored⟩
  | opened admits version blank none => exact h.opened admits version blank none
  | renewed hu hg => exact h.renewed hu hg

/-- Every run keeps it, and every pair that it hands out is issued. -/
theorem Kept.run (h : Kept s gs) (o : Office) (cs : List Command) (supply : Supply) :
    Kept (o.after cs (idle s supply)).published (o.grants cs (idle s supply) ++ gs) ∧
      ∀ g ∈ o.grants cs (idle s supply), g.Issued o.issuer supply.clock := by
  induction cs generalizing s supply gs with
  | nil => exact ⟨h, nofun⟩
  | cons c cs ih =>
    have step := h.carry o c supply
    have issued := (accounted_carry h.sound o c supply).2
    obtain ⟨s₁, supply₁, next, before⟩ := (c.action o).exists_idle s supply
    rw [Office.after_cons, Office.grants]
    have next : (o.carry c (idle s supply)).2 = idle s₁ supply₁ := next
    rw [next] at step ⊢
    obtain ⟨kept, later⟩ := ih step supply₁
    rw [List.append_assoc]
    refine ⟨kept, fun g hg => ?_⟩
    rcases List.mem_append.1 hg with hg | hg
    · exact before.clock ▸ later g hg
    · exact issued g (Option.mem_toList.1 hg)

/-! ## §4 Who is let in -/

/-- No other session's token has the fingerprint of the given one. -/
def Clear (gs : List Grant) (t : String) : Prop :=
  ∀ g ∈ gs, g.session ≠ none →
    Hash.sha256 (Hash.textBytes g.pair.refresh) = Hash.sha256 (Hash.textBytes t) →
      g.pair.refresh = t

/-- A token opens an account exactly if it is the one of its user's latest session. -/
theorem Kept.exists_bearer (h : Kept s gs) {t : String} (clear : Clear gs t) (i : Issuer)
    (now : Moment) :
    (∃ u, s.bearer? i now t = some u) ↔
      ∃ c, i.validate now t .refresh = some c ∧ latest gs c.sub = some t := by
  constructor
  · rintro ⟨u, found⟩
    obtain ⟨c, valid, user, fingerprint⟩ := bearer?_eq_some.1 found
    obtain ⟨hu, hid⟩ := Store.Table.find?_eq_some.1 user
    have hid : u.id = c.sub := hid
    have kept := h.fingerprints u hu
    rw [fingerprint, hid] at kept
    obtain ⟨t', current, same⟩ := Option.map_eq_some_iff.1 kept.symm
    obtain ⟨g, mem, hg, rfl⟩ := mem_of_latest current
    have same : g.pair.refresh = t :=
      clear g mem (hg ▸ nofun) (Token.fingerprint_eq_iff.1 same)
    exact ⟨c, valid, same ▸ current⟩
  · rintro ⟨c, valid, current⟩
    obtain ⟨g, mem, hg, -⟩ := mem_of_latest current
    obtain ⟨u, hu, hid⟩ := h.stored g mem c.sub hg
    have kept := h.fingerprints u hu
    rw [hid, current] at kept
    exact ⟨u, bearer?_eq_some.2 ⟨c, valid, Store.Table.find?_eq_some.2 ⟨hu, hid⟩, kept⟩⟩

/-- How an attempt to renew ends. -/
theorem Kept.refresh_cases (h : Kept s gs) {t : String} (clear : Clear gs t) (o : Office)
    (supply : Supply) :
    let out := o.carry (.refresh t) (idle s supply)
    ((∃ pair, out.1 = .ok pair) ↔ ∃ c, o.issuer.validate supply.readClock.1 t .refresh = some c ∧
        latest gs c.sub = some t) ∧
      ∀ f, out.1 = .error f → f = .invalidToken ∧ out.2.published = s := by
  intro out
  have run : out = _ := Credentials.run_refresh h.sound t
  rw [← h.exists_bearer clear o.issuer, run]
  cases found : s.bearer? o.issuer supply.readClock.1 t with
  | none =>
    refine ⟨⟨nofun, nofun⟩, fun f e => ?_⟩
    cases e
    exact ⟨rfl, rfl⟩
  | some u => exact ⟨⟨fun _ => ⟨u, rfl⟩, fun _ => ⟨_, rfl⟩⟩, nofun⟩

/-! ## §5 Spent tokens -/

/-- The identifiers of all tokens that were handed out. -/
def stamps (gs : List Grant) : List Uuid := gs.flatMap fun g => [g.jti .access, g.jti .refresh]

theorem jti_mem_stamps {g : Grant} (hg : g ∈ gs) (use : Use) : g.jti use ∈ stamps gs := by
  refine List.mem_flatMap.2 ⟨g, hg, ?_⟩
  cases use <;> simp

/-- The same token has the same identifier. -/
theorem jti_eq_of_half_eq {i : Issuer} {clock : Nat → Reading} {g h : Grant} {use other : Use}
    (hg : g.Issued i clock) (hh : h.Issued i clock)
    (same : g.pair.half use = h.pair.half other) : g.jti use = h.jti other := by
  obtain ⟨_, -, signed⟩ := hg
  obtain ⟨_, -, signed'⟩ := hh
  obtain ⟨_, e⟩ := signed use
  obtain ⟨_, e'⟩ := signed' other
  have jti := Token.jti_eq_of_encode_eq (e.symm.trans (same.trans e'))
  rwa [Issuer.claims_eq, Issuer.claims_eq] at jti

/-- No two tokens share an identifier. -/
theorem eq_of_jti_eq (fresh : (stamps gs).Nodup) {g h : Grant} {use other : Use} (hg : g ∈ gs)
    (hh : h ∈ gs) (same : g.jti use = h.jti other) : g = h ∧ use = other := by
  induction gs with
  | nil => cases hg
  | cons f gs ih =>
    rw [stamps, List.flatMap_cons] at fresh
    obtain ⟨own, rest, apart⟩ := List.nodup_append.1 fresh
    have ownStamp (use : Use) : f.jti use ∈ [f.jti .access, f.jti .refresh] := by
      cases use <;> simp
    rcases List.mem_cons.1 hg with rfl | before <;> rcases List.mem_cons.1 hh with rfl | behind
    · have distinct : h.jti .access ≠ h.jti .refresh := by simpa using own
      refine ⟨rfl, ?_⟩
      cases use <;> cases other
      · rfl
      · exact absurd same distinct
      · exact absurd same.symm distinct
      · rfl
    · exact absurd same (apart _ (ownStamp use) _ (jti_mem_stamps behind other))
    · exact absurd same.symm (apart _ (ownStamp other) _ (jti_mem_stamps before use))
    · exact ih rest before behind

variable {i : Issuer} {clock : Nat → Reading} {newer older : List Grant} {g h : Grant} {user : Uuid}

/-- The token of a session is the latest of its own user, if of anybody. -/
theorem session_of_latest (fresh : (stamps gs).Nodup) (issued : ∀ g ∈ gs, g.Issued i clock)
    (hg : g ∈ gs) (use : Use) (current : latest gs user = some (g.pair.half use)) :
    use = .refresh ∧ g.session = some user := by
  obtain ⟨f, mem, hf, same⟩ := mem_of_latest current
  obtain ⟨rfl, rfl⟩ := eq_of_jti_eq fresh mem hg
    (jti_eq_of_half_eq (issued f mem) (issued g hg) same)
  exact ⟨rfl, hf⟩

/-- A token that was followed by another session of its user is not the latest of anybody. -/
theorem latest_ne_of_superseded (fresh : (stamps (newer ++ g :: older)).Nodup)
    (issued : ∀ f ∈ newer ++ g :: older, f.Issued i clock) (hg : g.session = some user)
    (hh : h ∈ newer) (hs : h.session = some user) (other : Uuid) :
    latest (newer ++ g :: older) other ≠ some g.pair.refresh := by
  intro current
  have mem : g ∈ newer ++ g :: older := by simp
  obtain ⟨-, own⟩ := session_of_latest fresh issued mem .refresh current
  obtain rfl : other = user := Option.some.inj (own.symm.trans hg)
  rw [latest_append hh hs] at current
  obtain ⟨f, before, -, same⟩ := mem_of_latest current
  have same : f.pair.half .refresh = g.pair.half .refresh := same
  have jti := jti_eq_of_half_eq (issued f (List.mem_append_left _ before)) (issued g mem) same
  rw [stamps, List.flatMap_append] at fresh
  obtain ⟨-, -, apart⟩ := List.nodup_append.1 fresh
  exact apart _ (jti_mem_stamps before .refresh) _
    (jti_mem_stamps (List.mem_cons_self (l := older)) .refresh) jti

/-- Why a token is good no longer, or never was. -/
inductive Spent (o : Office) (cs : List Command) (w : World) (t : String) : Prop
  /-- It was renewed before. -/
  | renewed (before after : List Command) (pair : Pair) :
    cs = before ++ .refresh t :: after →
      (o.carry (.refresh t) (o.after before w)).1 = .ok pair → Spent o cs w t
  /-- Its user began another session since it was handed out. -/
  | superseded (newer : List Grant) (g : Grant) (older : List Grant) (h : Grant) (user : Uuid) :
    o.grants cs w = newer ++ g :: older → t = g.pair.refresh → g.session = some user →
      h ∈ newer → h.session = some user → Spent o cs w t
  /-- It is one of the two that signing up handed out. -/
  | signedUp (g : Grant) (use : Use) :
    g ∈ o.grants cs w → g.session = none → t = g.pair.half use → Spent o cs w t
  /-- It is the access token of a pair. -/
  | access (g : Grant) : g ∈ o.grants cs w → t = g.pair.access → Spent o cs w t
  /-- It is good as an access token at some time, however it came about. -/
  | accepted (now : Moment) (c : Claims) :
    o.issuer.validate now t .access = some c → Spent o cs w t
  /-- No session began with it. -/
  | foreign : (∀ g ∈ o.grants cs w, g.session ≠ none → t ≠ g.pair.refresh) → Spent o cs w t

variable {o : Office} {supply : Supply} {cs : List Command} {t : String}

/-- A renewal begins a session of the user whom the old token names. -/
theorem grant?_refresh {w : World} {pair : Pair} {c : Claims}
    (ok : (o.carry (.refresh t) w).1 = .ok pair)
    (valid : o.issuer.validate w.supply.readClock.1 t .refresh = some c) :
    ∃ h, o.grant? (.refresh t) w = some h ∧ h.session = some c.sub := by
  have answer : o.carry (.refresh t) w = (.ok pair, (o.carry (.refresh t) w).2) := by
    rw [← ok]
  rw [Office.grant?, answer, valid]
  exact ⟨_, rfl, rfl⟩

/-- A token that was renewed was followed by another session of its user. -/
theorem superseded_of_renewed (clear : Clear (o.grants cs (idle .empty supply)) t)
    {before after : List Command} {pair : Pair} (e : cs = before ++ .refresh t :: after)
    (ok : (o.carry (.refresh t) (o.after before (idle .empty supply))).1 = .ok pair) :
    ∃ newer g older h user, o.grants cs (idle .empty supply) = newer ++ g :: older ∧
      t = g.pair.refresh ∧ g.session = some user ∧ h ∈ newer ∧ h.session = some user := by
  obtain ⟨s, later, there, -⟩ := o.after_idle before .empty supply
  have kept := (Kept.empty.run o before supply).1
  have split : o.grants cs (idle .empty supply) =
      o.grants after (o.carry (.refresh t) (idle s later)).2 ++
        ((o.grant? (.refresh t) (idle s later)).toList ++
          o.grants before (idle .empty supply)) := by
    rw [e, Office.grants_append, Office.grants, there, List.append_assoc]
  rw [there] at ok kept
  rw [List.append_nil] at kept
  have clear : Clear (o.grants before (idle .empty supply)) t := by
    intro g hg
    exact clear g (split ▸ by simp [hg])
  obtain ⟨c, valid, current⟩ := (kept.refresh_cases clear o later).1.1 ⟨pair, ok⟩
  obtain ⟨g, found, same⟩ := Option.map_eq_some_iff.1 current
  obtain ⟨hg, newer, older, parts, -⟩ := List.find?_eq_some_iff_append.1 found
  obtain ⟨h, renewal, session⟩ := grant?_refresh ok valid
  refine ⟨o.grants after (o.carry (.refresh t) (idle s later)).2 ++ h :: newer, g, older, h, c.sub,
    ?_, same.symm, by simpa using hg, by simp, session⟩
  rw [split, renewal, parts]
  simp

/-- A token that is good no longer, or never was, is the latest of nobody. -/
theorem Spent.not_latest (spent : Spent o cs (idle .empty supply) t)
    (fresh : (stamps (o.grants cs (idle .empty supply))).Nodup)
    (clear : Clear (o.grants cs (idle .empty supply)) t)
    (issued : ∀ g ∈ o.grants cs (idle .empty supply), g.Issued o.issuer supply.clock)
    {now : Moment} {c : Claims} (valid : o.issuer.validate now t .refresh = some c) :
    latest (o.grants cs (idle .empty supply)) c.sub ≠ some t := by
  intro current
  cases spent with
  | renewed before after pair e ok =>
    obtain ⟨newer, g, older, h, user, parts, rfl, hg, hh, hs⟩ := superseded_of_renewed clear e ok
    rw [parts] at fresh issued current
    exact latest_ne_of_superseded fresh issued hg hh hs c.sub current
  | superseded newer g older h user parts same hg hh hs =>
    rw [parts] at fresh issued current
    exact latest_ne_of_superseded fresh issued hg hh hs c.sub (same ▸ current)
  | signedUp g use hg none same =>
    obtain ⟨-, session⟩ := session_of_latest fresh issued hg use (same ▸ current)
    rw [none] at session
    cases session
  | access g hg same =>
    obtain ⟨half, -⟩ := session_of_latest fresh issued hg .access (same ▸ current)
    cases half
  | accepted now d accepts =>
    have use := (Issuer.validate_eq_some.1 valid).2
    have other := (Issuer.validate_eq_some.1 accepts).2
    rw [Issuer.validate_unique valid accepts, other] at use
    cases use
  | foreign others =>
    obtain ⟨g, hg, session, same⟩ := mem_of_latest current
    exact others g hg (session ▸ nofun) same.symm

/--
After any calls a refresh token is renewed exactly if it is the one that the
latest login or renewal of its user handed out and it is valid at the time. All
others are refused as invalid, which changes nothing.
-/
theorem one_live_token (o : Office) (supply : Supply) (cs : List Command) (t : String)
    (fresh : (stamps (o.grants cs (idle .empty supply))).Nodup)
    (clear : Clear (o.grants cs (idle .empty supply)) t) :
    let w := o.after cs (idle .empty supply)
    let out := o.carry (.refresh t) w
    ((∃ pair, out.1 = .ok pair) ↔
      ∃ c, o.issuer.validate w.supply.readClock.1 t .refresh = some c ∧
        latest (o.grants cs (idle .empty supply)) c.sub = some t) ∧
    (∀ f, out.1 = .error f → f = .invalidToken ∧ out.2.published = w.published) ∧
    (Spent o cs (idle .empty supply) t → out.1 = .error .invalidToken) := by
  obtain ⟨s, later, there, -⟩ := o.after_idle cs .empty supply
  obtain ⟨kept, issued⟩ := Kept.empty.run o cs supply
  rw [there, List.append_nil] at kept
  rw [there]
  obtain ⟨renews, refuses⟩ := kept.refresh_cases clear o later
  refine ⟨renews, refuses, fun spent => ?_⟩
  cases answer : (o.carry (.refresh t) (idle s later)).1 with
  | ok pair =>
    obtain ⟨c, valid, current⟩ := renews.1 ⟨pair, answer⟩
    exact absurd current (spent.not_latest fresh clear issued valid)
  | error f => rw [(refuses f answer).1]

/-! ## §6 Two sessions -/

/-- An account of which nothing has been stored. -/
def ann : User := ⟨.ofNat 0, "N", "n@b", "p", none, Reading.june, 0⟩

/-- Ann's refresh token with the given identifier, of the first of June 2026. -/
def annToken (n : Nat) : String :=
  Office.small.issuer.sign (Office.small.issuer.claims ann .refresh .june (.ofNat n))

theorem annToken_apart : Token.fingerprint (annToken 6) ≠ Token.fingerprint (annToken 4) := by
  -- Two hashes with different first bytes, computed one after the other.
  have six : (Hash.sha256 (Hash.textBytes (annToken 6))).head? = some 159 := by decide +kernel
  have four : (Hash.sha256 (Hash.textBytes (annToken 4))).head? = some 13 := by decide +kernel
  intro same
  rw [Token.fingerprint_eq_iff.1 same, four] at six
  exact absurd six (by decide)

/-- Only who the user is and where they are written to counts for a token. -/
theorem claims_congr (i : Issuer) {u v : User} (id : v.id = u.id) (email : v.email = u.email)
    (use : Use) (now : Reading) (jti : Uuid) : i.claims v use now jti = i.claims u use now jti := by
  rw [Issuer.claims_eq, Issuer.claims_eq, id, email]

/-- After any commands, a login of Ann's hands out the token with the second identifier. -/
theorem grant?_login_ann (cs : List Command) (email password : String) {n : Nat}
    (opened : ((Office.small.after cs (idle .empty .counting)).published.opened?
      Office.small.hasher email password).map (fun u => (u.id, u.email)) =
        some (ann.id, ann.email))
    (next : (Office.small.after cs (idle .empty .counting)).supply.nextId = n) :
    ∃ g, Office.small.grant? (.login email password)
        (Office.small.after cs (idle .empty .counting)) = some g ∧
      g.session = some ann.id ∧ g.pair.refresh = annToken (n + 1) := by
  have h := Office.small.sound_after cs .counting
  obtain ⟨s, later, there, before⟩ := Office.small.after_idle cs .empty .counting
  rw [there] at h opened next ⊢
  obtain ⟨u, found, same⟩ := Option.map_eq_some_iff.1 opened
  obtain ⟨own, address⟩ := Prod.mk.inj same
  have run : Office.small.carry (.login email password) (idle s later) = _ :=
    Credentials.run_login h email password
  rw [found] at run
  dsimp only at run
  refine ⟨.drawn Office.small.issuer u later (some u.id), ?_, congrArg some own, ?_⟩
  · rw [Office.grant?, run, opened?_eq_some found, Option.map_some, Grant.of_drawPair]
  · have token : (Office.small.issuer.drawPair u later).1.refresh = Office.small.issuer.sign
        (Office.small.issuer.claims u .refresh (later.clock (later.nextReading + 1))
          (later.id (later.nextId + 1))) :=
      Office.small.issuer.half_drawPair u later .refresh
    have next : later.nextId = n := next
    show (Office.small.issuer.drawPair u later).1.refresh = _
    rw [token, claims_congr _ own address, before.clock, before.id, next]
    rfl

/-- What is handed out when Ann signs up and signs in twice. -/
theorem grants_ann :
    ∃ new old first : Grant,
      Office.small.grants [.signup "N" "n@b" "p", .login "N@b" "p", .login "n@b" "p"]
        (idle .empty .counting) = [new, old, first] ∧ first.session = none ∧
      (old.session = some ann.id ∧ old.pair.refresh = annToken 4) ∧
      new.session = some ann.id ∧ new.pair.refresh = annToken 6 := by
  obtain ⟨first, signedUp, outside⟩ :
      ∃ g, Office.small.grant? (.signup "N" "n@b" "p") (idle .empty .counting) = some g ∧
        g.session = none :=
    Option.map_eq_some_iff.1 (by decide +kernel)
  obtain ⟨old, earlier, oldSession⟩ := grant?_login_ann [.signup "N" "n@b" "p"] "N@b" "p" (n := 3)
    (by decide +kernel) (by decide +kernel)
  obtain ⟨new, later, newSession⟩ :=
    grant?_login_ann [.signup "N" "n@b" "p", .login "N@b" "p"] "n@b" "p" (n := 5)
      (by decide +kernel) (by decide +kernel)
  refine ⟨new, old, first, ?_, outside, oldSession, newSession⟩
  have split (w : World) :
      Office.small.grants [.signup "N" "n@b" "p", .login "N@b" "p", .login "n@b" "p"] w =
        Office.small.grants ((([] ++ [.signup "N" "n@b" "p"]) ++ [.login "N@b" "p"]) ++
          [.login "n@b" "p"]) w := rfl
  rw [split, Office.grants_concat, Office.grants_concat, Office.grants_concat]
  simp only [List.nil_append, List.cons_append, Office.after_nil]
  rw [later, earlier, signedUp]
  rfl

/-- Of two sessions whose tokens have different hashes, neither hides the other. -/
theorem clear_of_apart {new old first : Grant} (outside : first.session = none)
    (apart : Token.fingerprint new.pair.refresh ≠ Token.fingerprint old.pair.refresh) :
    Clear [new, old, first] new.pair.refresh ∧ Clear [new, old, first] old.pair.refresh := by
  have members {g : Grant} (hg : g ∈ [new, old, first]) (session : g.session ≠ none) :
      g = new ∨ g = old := by
    rcases List.mem_cons.1 hg with rfl | hg
    · exact .inl rfl
    rcases List.mem_cons.1 hg with rfl | hg
    · exact .inr rfl
    · rw [List.mem_singleton.1 hg] at session
      exact absurd outside session
  constructor
  · intro g hg session same
    rcases members hg session with rfl | rfl
    · rfl
    · exact absurd (Token.fingerprint_eq_iff.2 same.symm) apart
  · intro g hg session same
    rcases members hg session with rfl | rfl
    · exact absurd (Token.fingerprint_eq_iff.2 same) apart
    · rfl

/-- Two logins, one after the other: the token of the second is good, that of the first no more. -/
theorem one_live_token_login :
    let cs : List Command := [.signup "N" "n@b" "p", .login "N@b" "p", .login "n@b" "p"]
    let start := idle .empty .counting
    let gs := Office.small.grants cs start
    ∃ new old first, gs = [new, old, first] ∧ (stamps gs).Nodup ∧
      Clear gs new.pair.refresh ∧ Clear gs old.pair.refresh ∧
      (∃ pair, (Office.small.carry (.refresh new.pair.refresh)
        (Office.small.after cs start)).1 = .ok pair) ∧
      (Office.small.carry (.refresh old.pair.refresh) (Office.small.after cs start)).1 =
        .error .invalidToken := by
  intro cs start gs
  have fresh : (stamps gs).Nodup := by decide +kernel
  obtain ⟨new, old, first, parts, outside, ⟨began, oldToken⟩, beganNew, newToken⟩ := grants_ann
  have parts : gs = [new, old, first] := parts
  obtain ⟨clearNew, clearOld⟩ : Clear gs new.pair.refresh ∧ Clear gs old.pair.refresh := by
    rw [parts]
    refine clear_of_apart outside ?_
    rw [newToken, oldToken]
    exact annToken_apart
  have current : latest gs ann.id = some new.pair.refresh := by
    rw [parts, latest_cons, if_pos beganNew]
  have mem : new ∈ gs := by
    rw [parts]
    exact List.mem_cons_self
  obtain ⟨c, n, user, expires, valid⟩ :=
    ((Kept.empty.run .small cs .counting).2 new mem).validates beganNew
  have now : (Office.small.after cs (idle .empty .counting)).supply.readClock.1.seconds =
      1780272000 := by
    decide +kernel
  have clock : (Supply.counting.clock n).seconds = 1780272000 := by
    show Reading.june.seconds = 1780272000
    decide
  have life := (Office.small.issuer.lifetime_bounds .refresh).1
  have good := one_live_token .small .counting cs new.pair.refresh fresh clearNew
  have spent := one_live_token .small .counting cs old.pair.refresh fresh clearOld
  refine ⟨new, old, first, parts, fresh, clearNew, clearOld,
    good.1.2 ⟨c, valid _ (by omega), user ▸ current⟩, spent.2.2 ?_⟩
  exact .superseded [new] old [first] new ann.id parts rfl began List.mem_cons_self beganNew

end Roster.Service
