/-
Roster.Proofs.Service.Registration — an address signs up once, for good.

An address is brought into normal form by the call, by the account that it makes
and by every look-up. All that is one form, so that the look-up before signing
up finds an account exactly if the store would refuse the address (§1). What is
stored of an account, its identifier, address and password hash, then never
changes: signing up adds one (`signup_cases_of_hash`), and all other calls leave
them as they are (`renewed_carry`, §2). So a run of calls has as many accounts as
addresses that signed up in it (`Registry`, §3), and logging in asks for one of
them (`credentials_durable`, §4).
-/
import Roster.Proofs.Service.Failures
import Roster.Proofs.Service.Sessions
import Roster.Proofs.Store.Orders
import Roster.Proofs.Text.NormalForm

namespace Roster

open Store (State Row)
open World (idle)

namespace Store.State

/-! ## §1 Addresses in normal form -/

variable {s : State} {u : User} {email id' text : String} {id : Uuid}

/-- All stored addresses are in normal form. -/
def Normal (s : State) : Prop := ∀ u ∈ s.users.rows, normalizeEmail u.email = u.email

theorem Normal.emailKey (h : s.Normal) (hu : u ∈ s.users.rows) : u.emailKey = u.email := by
  rw [User.emailKey, ← h u hu, lowercase_normalizeEmail]

theorem Normal.empty : Normal .empty := nofun

theorem Normal.put_user (h : s.Normal) (hu : normalizeEmail u.email = u.email) :
    (s.put (.user u)).Normal := by
  intro v hv
  rcases mem_put_user.1 hv with rfl | ⟨hv, -⟩
  · exact hu
  · exact h v hv

/-- A look-up finds the account that has the normal form of the address. -/
theorem userByEmail?_eq_some (sound : s.Sound) (h : s.Normal) :
    s.userByEmail? (normalizeEmail email) = some u ↔
      u ∈ s.users.rows ∧ u.email = normalizeEmail email := by
  rw [sound.unique.userByEmail?_iff, lowercase_normalizeEmail]
  exact and_congr_right fun hu => by rw [h.emailKey hu]

/-- Where a look-up finds nothing, the store would not refuse the address either. -/
theorem emailKey_ne_of_unknown (unknown : s.userByEmail? (normalizeEmail email) = none)
    (hu : u ∈ s.users.rows) : u.emailKey ≠ normalizeEmail email := by
  have := List.find?_eq_none.1 unknown u hu
  rwa [decide_eq_true_eq, lowercase_normalizeEmail] at this

/-! ## §2 What is stored of an account -/

/-- There is an account with the identifier, the address and the password hash. -/
def Registered (s : State) (id : Uuid) (email text : String) : Prop :=
  ∃ u ∈ s.users.rows, u.id = id ∧ u.email = email ∧ u.passwordHash = text

theorem registered_of_users {t : State} (users : t.users = s.users) :
    t.Registered id email text ↔ s.Registered id email text := by
  rw [Registered, Registered, users]

/-- Renewing a session changes none of that. -/
theorem registered_put_honouring (hu : u ∈ s.users.rows) (token : String) :
    (s.put (.user (u.honouring token))).Registered id email text ↔ s.Registered id email text := by
  constructor
  · rintro ⟨v, hv, stored⟩
    rcases mem_put_user.1 hv with rfl | ⟨hv, -⟩
    · exact ⟨u, hu, stored⟩
    · exact ⟨v, hv, stored⟩
  · rintro ⟨v, hv, stored⟩
    by_cases e : v.id = u.id
    · obtain rfl := Table.eq_of_mem hv hu e
      exact ⟨_, mem_put_user.2 (.inl rfl), stored⟩
    · exact ⟨v, mem_put_user.2 (.inr ⟨hv, e⟩), stored⟩

/-- An account that is new is added to the others. -/
theorem registered_put_new (new : ∀ v ∈ s.users.rows, v.id ≠ u.id) :
    (s.put (.user u)).Registered id email text ↔
      s.Registered id email text ∨ u.id = id ∧ u.email = email ∧ u.passwordHash = text := by
  constructor
  · rintro ⟨v, hv, stored⟩
    rcases mem_put_user.1 hv with rfl | ⟨hv, -⟩
    · exact .inr stored
    · exact .inl ⟨v, hv, stored⟩
  · rintro (⟨v, hv, stored⟩ | stored)
    · exact ⟨v, mem_put_user.2 (.inr ⟨hv, new v hv⟩), stored⟩
    · exact ⟨_, mem_put_user.2 (.inl rfl), stored⟩

end Store.State

namespace Service

open Token (Pair Use Claims)

variable {s : State} {supply : Supply} {o : Office}

/-- The account that signing up is about to open has an identifier that is stored already. -/
def SignupTaken (s : State) (supply : Supply) : Prop :=
  ∃ u ∈ s.users.rows, u.id = supply.drawSalt.2.drawId.1

instance : Decidable (SignupTaken s supply) :=
  inferInstanceAs (Decidable (∃ u ∈ s.users.rows, u.id = supply.drawSalt.2.drawId.1))

/-- The call brings no new password, or one that can be hashed. -/
def Office.Hashes (o : Office) (w : World) : Command → Prop
  | .signup _ _ password => ∃ text, o.hasher.hash w.supply.drawSalt.1 password = .ok text
  | _ => True

/-- Signing up, once the password is hashed. -/
theorem signup_cases_of_hash (h : s.Sound) (supply : Supply) (name email : String)
    {password text : String}
    (hashed : o.hasher.hash supply.drawSalt.1 password = .ok text) :
    let outcome := o.carry (.signup name email password) (idle s supply)
    let u := Credentials.opening supply.drawSalt.2 name email text
    (∃ v, s.userByEmail? (normalizeEmail email) = some v ∧
      outcome = (.error .duplicateIdentity, idle s supply.drawSalt.2)) ∨
    s.userByEmail? (normalizeEmail email) = none ∧
      ((SignupTaken s supply ∧ ∃ later, outcome = (.error .conflict, idle s later)) ∨
        ¬SignupTaken s supply ∧ s.Admits (.user u) ∧
          ∃ pair later, outcome = (.ok pair, idle (s.put (.user u)) later)) := by
  intro outcome u
  have run : outcome = _ := Credentials.run_signup name email password
  rw [hashed] at run
  cases known : s.userByEmail? (normalizeEmail email) with
  | some v =>
    rw [known] at run
    exact .inl ⟨v, rfl, run⟩
  | none =>
    rw [known] at run
    refine .inr ⟨rfl, ?_⟩
    -- The call has normalized the address, the account does so again, and the store takes its
    -- lower case.
    have key : u.emailKey = normalizeEmail email := by
      show Text.lowercase (normalizeEmail (normalizeEmail email)) = _
      rw [normalizeEmail_normalizeEmail, lowercase_normalizeEmail]
    have free : ∀ v ∈ s.users.rows, v.id ≠ u.id → v.emailKey ≠ u.emailKey := by
      intro v hv _
      rw [key]
      exact State.emailKey_ne_of_unknown known hv
    have new : s.users.Carries User.version u.id u.version ↔ ¬SignupTaken s supply := by
      rw [SignupTaken, not_exists]
      exact (Store.Table.carries_zero h.userVersions).trans
        (forall_congr' fun v => not_and.symm)
    dsimp only at run
    by_cases taken : SignupTaken s supply
    · obtain ⟨detail, refused⟩ := State.saveUser_of_not_carries (mt new.1 (not_not.2 taken))
      rw [show s.saveUser (Credentials.opening ..) = _ from refused] at run
      exact .inl ⟨taken, _, run⟩
    · have admits : s.Admits (.user u) := ⟨new.2 taken, free⟩
      rw [show s.saveUser (Credentials.opening ..) = _ from State.saveUser_of_admits admits] at run
      exact .inr ⟨taken, admits, _, _, run⟩

theorem Accounts.users_of_none {t : State} (a : Accounts s t none) : t.users = s.users := by
  cases a
  assumption

/-- All calls but signing up leave the accounts alone or renew the session of one. -/
theorem renewed_carry (h : s.Sound) (o : Office) (c : Command) (supply : Supply)
    (other : ∀ name email password, c ≠ .signup name email password) :
    let t := (o.carry c (idle s supply)).2.published
    t.users = s.users ∨ ∃ u ∈ s.users.rows, ∃ token, t = s.put (.user (u.honouring token)) := by
  intro t
  have accounts := (accounted_carry h o c supply).1
  cases c with
  | signup name email password => exact absurd rfl (other name email password)
  | login email password =>
    have run : o.carry (.login email password) (idle s supply) = _ :=
      Credentials.run_login h email password
    cases found : s.opened? o.hasher email password with
    | none => exact .inl (by simp only [t, run, found, World.idle_published])
    | some u =>
      refine .inr ⟨u, List.mem_of_find?_eq_some (opened?_eq_some found),
        (o.issuer.drawPair u supply).1.refresh, ?_⟩
      simp only [t, run, found, World.idle_published]
  | refresh token =>
    have run : o.carry (.refresh token) (idle s supply) = _ := Credentials.run_refresh h token
    cases found : s.bearer? o.issuer supply.readClock.1 token with
    | none => exact .inl (by simp only [t, run, found, World.idle_published])
    | some u =>
      obtain ⟨c, -, user, -⟩ := bearer?_eq_some.1 found
      refine .inr ⟨u, (Store.Table.find?_eq_some.1 user).1,
        (o.issuer.drawPair u supply.readClock.2).1.refresh, ?_⟩
      simp only [t, run, found, World.idle_published]
  | _ => exact .inl accounts.users_of_none

/-! ## §3 Runs of calls -/

namespace Office

/-- The call opens an account under the address: with which identifier, and with which hash. -/
def Opens (o : Office) (w : World) (email : String) (id : Uuid) (text : String) : Command → Prop
  | .signup name given password =>
    (∃ pair, (o.carry (.signup name given password) w).1 = .ok pair) ∧
      normalizeEmail given = normalizeEmail email ∧
      o.hasher.hash w.supply.drawSalt.1 password = .ok text ∧ w.supply.drawSalt.2.drawId.1 = id
  | _ => False

/-- One of the calls opened the account of the address. -/
def SignedUp (o : Office) (cs : List Command) (w : World) (email : String) (id : Uuid)
    (text : String) : Prop :=
  ∃ before c after, cs = before ++ c :: after ∧ o.Opens (o.after before w) email id text c

theorem signedUp_cons {c : Command} {cs : List Command} {w : World} {email text : String}
    {id : Uuid} :
    o.SignedUp (c :: cs) w email id text ↔
      o.Opens w email id text c ∨ o.SignedUp cs (o.carry c w).2 email id text :=
  occurs_cons (P := fun w c => o.Opens w email id text c)

end Office

/-- Signing up adds the account that it opens, if it opens one. -/
theorem registered_signup (h : s.Sound) (o : Office) (supply : Supply)
    (name given password : String) {email text : String} {id : Uuid} :
    (o.carry (.signup name given password) (idle s supply)).2.published.Registered id
        (normalizeEmail email) text ↔
      s.Registered id (normalizeEmail email) text ∨
        o.Opens (idle s supply) email id text (.signup name given password) := by
  cases answer : (o.carry (.signup name given password) (idle s supply)).1 with
  | error f =>
    rw [Command.published_of_error o answer, or_iff_left]
    · rfl
    · rintro ⟨⟨pair, ok⟩, -⟩
      exact absurd (answer.symm.trans ok) nofun
  | ok pair =>
    cases hashed : o.hasher.hash supply.drawSalt.1 password with
    | error detail =>
      have run : o.carry (.signup name given password) (idle s supply) = _ :=
        Credentials.run_signup name given password
      rw [hashed] at run
      rw [run] at answer
      cases answer
    | ok hash =>
      rcases signup_cases_of_hash h supply name given hashed with
        ⟨v, -, run⟩ | ⟨-, ⟨-, later, run⟩ | ⟨taken, -, _, later, run⟩⟩
      · rw [run] at answer
        cases answer
      · rw [run] at answer
        cases answer
      · let u := Credentials.opening supply.drawSalt.2 name given hash
        have new : ∀ v ∈ s.users.rows, v.id ≠ u.id := fun v hv e => taken ⟨v, hv, e⟩
        have address : u.email = normalizeEmail given := normalizeEmail_normalizeEmail given
        rw [congrArg (fun x => x.2.published) run]
        show (s.put (.user u)).Registered _ _ _ ↔ _
        rw [State.registered_put_new new, address]
        refine or_congr_right ⟨?_, ?_⟩
        · rintro ⟨rfl, same, rfl⟩
          exact ⟨⟨pair, answer⟩, same, hashed, rfl⟩
        · rintro ⟨-, same, stored, rfl⟩
          exact ⟨rfl, same, Except.ok.inj (hashed.symm.trans stored)⟩

/-- One call: what is registered afterwards was so before, or the call opened it. -/
theorem registered_carry (h : s.Sound) (o : Office) (c : Command) (supply : Supply)
    (email : String) (id : Uuid) (text : String) :
    (o.carry c (idle s supply)).2.published.Registered id (normalizeEmail email) text ↔
      s.Registered id (normalizeEmail email) text ∨ o.Opens (idle s supply) email id text c := by
  by_cases signup : ∃ name given password, c = .signup name given password
  · obtain ⟨name, given, password, rfl⟩ := signup
    exact registered_signup h o supply name given password
  · have nothing : ¬o.Opens (idle s supply) email id text c := by
      cases c with
      | signup name given password => exact absurd ⟨name, given, password, rfl⟩ signup
      | _ => exact not_false
    rw [or_iff_left nothing]
    rcases renewed_carry h o c supply fun name given password e =>
        signup ⟨name, given, password, e⟩ with users | ⟨u, hu, token, put⟩
    · exact State.registered_of_users users
    · rw [put]
      exact State.registered_put_honouring hu token

/-- All calls store addresses in normal form. -/
theorem normal_carry (h : s.Sound) (normal : s.Normal) (o : Office) (c : Command)
    (supply : Supply) : (o.carry c (idle s supply)).2.published.Normal := by
  by_cases signup : ∃ name given password, c = .signup name given password
  · obtain ⟨name, given, password, rfl⟩ := signup
    rcases Credentials.signup_cases o.issuer o.hasher s supply name given password with
      ⟨f, later, run⟩ | ⟨text, -, run⟩
    · rw [Office.carry, Command.action, run]
      exact normal
    · rw [Office.carry, Command.action, run]
      refine normal.put_user (u := Credentials.opening supply.drawSalt.2 name given text) ?_
      exact normalizeEmail_normalizeEmail _
  · rcases renewed_carry h o c supply fun name given password e =>
        signup ⟨name, given, password, e⟩ with users | ⟨u, hu, token, put⟩
    · rw [State.Normal, users]
      exact normal
    · rw [put]
      exact normal.put_user (normal u hu)

/-- What holds of the accounts at every point of a run. -/
structure Registry (s : State) : Prop where
  sound : s.Sound
  normal : s.Normal

theorem Registry.carry (h : Registry s) (o : Office) (c : Command) (supply : Supply) :
    Registry (o.carry c (idle s supply)).2.published :=
  ⟨o.sound_carry c supply h.sound, normal_carry h.sound h.normal o c supply⟩

/-- Any calls: what is registered at the end was so at the start, or one of them opened it. -/
theorem Registry.after (h : Registry s) (o : Office) (cs : List Command) (supply : Supply) :
    Registry (o.after cs (idle s supply)).published ∧
      ∀ email id text,
        (o.after cs (idle s supply)).published.Registered id (normalizeEmail email) text ↔
          s.Registered id (normalizeEmail email) text ∨
            o.SignedUp cs (idle s supply) email id text := by
  induction cs generalizing s supply with
  | nil =>
    refine ⟨h, fun email id text => (or_iff_left ?_).symm⟩
    rintro ⟨before, c, after, e, -⟩
    simp at e
  | cons c cs ih =>
    obtain ⟨t, later, e, -⟩ := o.after_idle [c] s supply
    have e : (o.carry c (idle s supply)).2 = idle t later := e
    have first := h.carry o c supply
    have step := registered_carry h.sound o c supply
    simp only [Office.signedUp_cons, Office.after_cons]
    rw [e, World.idle_published] at first step
    obtain ⟨rest, registered⟩ := ih first later
    rw [e]
    refine ⟨rest, fun email id text => ?_⟩
    rw [registered, ← or_assoc, step]

theorem Registry.empty : Registry .empty := ⟨State.Sound.empty, State.Normal.empty⟩

/-- Where calls lead from empty tables. -/
theorem Office.reached (o : Office) (cs : List Command) (supply : Supply) :
    ∃ s later, o.after cs (idle .empty supply) = idle s later ∧ Registry s := by
  obtain ⟨s, later, there, -⟩ := o.after_idle cs .empty supply
  have registry := (Registry.empty.after o cs supply).1
  rw [there] at registry
  exact ⟨s, later, there, registry⟩

/-- What is registered after calls on empty tables is what signed up in them. -/
theorem registered_iff_signedUp (o : Office) (cs : List Command) (supply : Supply)
    (email : String) (id : Uuid) (text : String) :
    (o.after cs (idle .empty supply)).published.Registered id (normalizeEmail email) text ↔
      o.SignedUp cs (idle .empty supply) email id text := by
  rw [(Registry.empty.after o cs supply).2, or_iff_right]
  rintro ⟨u, hu, -⟩
  cases hu

/-! ## §4 Signing up and in -/

/-- Whether an address is known is whether it is registered. -/
theorem Registry.known_iff (h : Registry s) {email : String} :
    (∃ u, s.userByEmail? (normalizeEmail email) = some u) ↔
      ∃ id text, s.Registered id (normalizeEmail email) text := by
  simp only [State.userByEmail?_eq_some h.sound h.normal]
  exact ⟨fun ⟨u, hu, same⟩ => ⟨_, _, u, hu, rfl, same, rfl⟩,
    fun ⟨_, _, u, hu, _, same, _⟩ => ⟨u, hu, same⟩⟩

/-- An address is registered once. -/
theorem Registry.unique (h : Registry s) {email text text' : String} {id id' : Uuid}
    (r : s.Registered id (normalizeEmail email) text)
    (r' : s.Registered id' (normalizeEmail email) text') : id' = id ∧ text' = text := by
  obtain ⟨u, hu, rfl, same, rfl⟩ := r
  obtain ⟨v, hv, rfl, same', rfl⟩ := r'
  have key : u.emailKey = v.emailKey := by
    rw [h.normal.emailKey hu, h.normal.emailKey hv, same, same']
  rw [h.sound.emails u hu v hv key]
  exact ⟨rfl, rfl⟩

theorem Registry.signup_duplicate (h : Registry s) (supply : Supply)
    {name email password : String}
    (hashes : o.Hashes (idle s supply) (.signup name email password)) :
    (o.carry (.signup name email password) (idle s supply)).1 = .error .duplicateIdentity ↔
      ∃ id text, s.Registered id (normalizeEmail email) text := by
  obtain ⟨text, hashed⟩ := hashes
  rw [← h.known_iff]
  rcases signup_cases_of_hash h.sound supply name email hashed with
    ⟨v, known, run⟩ | ⟨unknown, ⟨-, later, run⟩ | ⟨-, -, pair, later, run⟩⟩
  · rw [run]
    exact ⟨fun _ => ⟨v, known⟩, fun _ => rfl⟩
  · rw [run, unknown]
    simp
  · rw [run, unknown]
    simp

/-- Logging in, seen from what is registered. -/
theorem Registry.login (h : Registry s) (o : Office) (supply : Supply)
    (email password : String) :
    let out := o.carry (.login email password) (idle s supply)
    (∃ id text, s.Registered id (normalizeEmail email) text ∧
        o.hasher.verify password text = true ∧ ∃ pair later t,
        out = (.ok pair, idle t later) ∧
          ∀ use, ∃ c : Claims, pair.half use = o.issuer.sign c ∧ c.sub = id ∧ c.use = use) ∨
      (∀ id text, s.Registered id (normalizeEmail email) text →
        o.hasher.verify password text = false) ∧
        out = (.error .invalidCredential, idle s supply) := by
  intro out
  have run : out = _ := Credentials.run_login h.sound email password
  cases found : s.opened? o.hasher email password with
  | none =>
    rw [found] at run
    refine .inr ⟨?_, run⟩
    rintro id text ⟨u, hu, rfl, same, rfl⟩
    have known := (State.userByEmail?_eq_some h.sound h.normal).2 ⟨hu, same⟩
    rw [State.opened?, known, Option.filter_eq_none_iff] at found
    exact Bool.eq_false_iff.2 (found u rfl)
  | some u =>
    rw [found] at run
    obtain ⟨known, fits⟩ := Option.filter_eq_some_iff.1 found
    obtain ⟨hu, same⟩ := (State.userByEmail?_eq_some h.sound h.normal).1 known
    refine .inl ⟨u.id, u.passwordHash, ⟨u, hu, rfl, same, rfl⟩, fits, _, _, _, run, fun use => ?_⟩
    refine ⟨_, o.issuer.half_drawPair u supply use, ?_⟩
    rw [Token.Issuer.drawClaims, Token.Issuer.claims_eq]
    exact ⟨rfl, rfl⟩

/--
After any calls, signing up with a password that can be hashed is refused for the
address exactly if one of the calls signed up under it, however it was spelled,
and no two of them did. Logging in succeeds exactly if the password fits the
hash of that signing up, and hands out two tokens for its user; else it is
refused in one way, and nothing at all changes.
-/
theorem credentials_durable (o : Office) (supply : Supply) (cs : List Command) :
    let start := idle .empty supply
    let w := o.after cs start
    (∀ email id text id' text', o.SignedUp cs start email id text →
      o.SignedUp cs start email id' text' → id' = id ∧ text' = text) ∧
    (∀ name email password, o.Hashes w (.signup name email password) →
      ((o.carry (.signup name email password) w).1 = .error .duplicateIdentity ↔
        ∃ id text, o.SignedUp cs start email id text)) ∧
    ∀ email password,
      let out := o.carry (.login email password) w
      ((∃ pair, out.1 = .ok pair) ↔
        ∃ id text, o.SignedUp cs start email id text ∧ o.hasher.verify password text = true) ∧
      (∀ pair, out.1 = .ok pair → ∀ id text, o.SignedUp cs start email id text →
        ∀ use, ∃ c : Claims, pair.half use = o.issuer.sign c ∧ c.sub = id ∧ c.use = use) ∧
      ∀ f, out.1 = .error f → f = .invalidCredential ∧ out.2 = w := by
  intro start w
  obtain ⟨s, later, there, registry⟩ := o.reached cs supply
  have registered (email : String) (id : Uuid) (text : String) :
      o.SignedUp cs start email id text ↔ s.Registered id (normalizeEmail email) text := by
    have := registered_iff_signedUp o cs supply email id text
    rw [there] at this
    exact this.symm
  have here : w = idle s later := there
  simp only [registered, here]
  refine ⟨fun email id text id' text' r r' => registry.unique r r',
    fun name email password hashes => registry.signup_duplicate later hashes,
    fun email password => ?_⟩
  · rcases registry.login o later email password with
      ⟨id, text, r, fits, pair, after, t, run, signed⟩ | ⟨wrong, run⟩
    · rw [run]
      refine ⟨⟨fun _ => ⟨id, text, r, fits⟩, fun _ => ⟨pair, rfl⟩⟩, ?_, nofun⟩
      rintro _ ⟨⟩ id' text' r'
      obtain ⟨rfl, -⟩ := registry.unique r r'
      exact signed
    · rw [run]
      refine ⟨⟨nofun, ?_⟩, nofun, ?_⟩
      · rintro ⟨id, text, r, fits⟩
        rw [wrong id text r] at fits
        cases fits
      · rintro _ ⟨⟩
        exact ⟨rfl, rfl⟩

/-- An address with white space around it signs up; in capitals it is known, and good to log in. -/
theorem credentials_durable_small :
    let cs : List Command := [.signup "N" " n@b " "p", .create "Acme" .team ⟨.ofNat 0, "n@b"⟩]
    let w := Office.small.after cs (idle .empty .counting)
    (Office.small.carry (.signup "M" "N@B" "q") w).1 = .error .duplicateIdentity ∧
      ∃ pair, (Office.small.carry (.login "N@B" "p") w).1 = .ok pair := by
  intro cs w
  obtain ⟨-, duplicate, login⟩ := credentials_durable .small .counting cs
  have address : normalizeEmail " n@b " = normalizeEmail "N@B" := by decide +kernel
  have signedUp : Office.small.SignedUp cs (idle .empty .counting) "N@B" (.ofNat 0) "p" :=
    ⟨[], _, _, rfl, ⟨_, rfl⟩, address, rfl, rfl⟩
  exact ⟨(duplicate "M" "N@B" "q" ⟨"q", rfl⟩).2 ⟨_, _, signedUp⟩,
    (login "N@B" "p").1.2 ⟨_, _, signedUp, by decide⟩⟩

end Service

end Roster
