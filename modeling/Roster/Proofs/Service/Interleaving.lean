/-
Roster.Proofs.Service.Interleaving — calls at the same time are calls one by one.

However the requests of any calls are interleaved, and wherever calls are
cancelled, what is published is what those that commit publish one after
another, and every call that ends answers as it does alone in its turn
(`serializable`). From this two calls cannot both win a race for something that
the first of them uses up: a refresh token that no call hands out anew (§1), or
the ownership of a workspace (§2). A token whose identifier is drawn again within
the same second is handed out anew, and is renewed twice (`renewed_twice`).
-/
import Roster.Proofs.Service.Pool
import Roster.Proofs.Service.Sessions
import Roster.Proofs.Service.Ownership
import Roster.Proofs.Store.Clients

namespace Roster

open Store (State Row)
open World (idle amid)

/-- A save leaves a trace: the version of the row. -/
theorem Store.State.put_ne {s : State} {r : Row} (h : s.Admits r) : s.put r ≠ s := by
  intro e
  have stored := s.row?_put_self r
  have version := h.version
  rw [e] at stored
  rw [stored, Option.map_some, Option.getD_some, Row.version_saved] at version
  omega

namespace Service

open Token (Issuer)
open Action (Succeeds)

variable {s t : State} {supply : Supply}

/-! ## §1 A refresh token is spent once -/

/-- The token opens no account at any time. -/
def Worthless (i : Issuer) (token : String) (s : State) : Prop :=
  ∀ now, s.bearer? i now token = none

theorem bearer?_of_users {i : Issuer} {now : Moment} {token : String} {u : User}
    (e : t.bearer? i now token = some u) (hu : s.user? u.id = some u) :
    s.bearer? i now token = some u := by
  obtain ⟨c, valid, found, fingerprint⟩ := bearer?_eq_some.1 e
  have hid : u.id = c.sub := (Store.Table.find?_eq_some.1 found).2
  exact bearer?_eq_some.2 ⟨c, valid, hid ▸ hu, fingerprint⟩

/--
A token is worthless after a call that began a session of whoever could use it,
as long as the call did not hand out a token with its fingerprint.
-/
theorem worthless_of_accounts {i : Issuer} {token : String} {g? : Option Grant}
    (accounts : Accounts s t g?)
    (other : ∀ g ∈ g?, g.session ≠ none →
      Token.fingerprint g.pair.refresh ≠ Token.fingerprint token)
    (superseded : ∀ now u, s.bearer? i now token = some u → ∃ g ∈ g?, g.session = some u.id) :
    Worthless i token t := by
  intro now
  cases found : t.bearer? i now token with
  | none => rfl
  | some u =>
    obtain ⟨c, valid, stored, fingerprint⟩ := bearer?_eq_some.1 found
    obtain ⟨hu, -⟩ := Store.Table.find?_eq_some.1 stored
    -- A bearer whose row is an old one would have begun a session with this call.
    have old (hu : u ∈ s.users.rows) : ∃ g ∈ g?, g.session = some u.id :=
      superseded now u (bearer?_of_users found (Store.Table.find?_eq_some.2 ⟨hu, rfl⟩))
    cases accounts with
    | same users =>
      obtain ⟨g, hg, -⟩ := old (users ▸ hu)
      cases hg
    | opened _ _ blank none =>
      rcases State.mem_put_user.1 hu with rfl | ⟨hu, -⟩
      · rw [User.saved_refreshFingerprint, blank] at fingerprint
        cases fingerprint
      · obtain ⟨g, hg, session⟩ := old hu
        cases hg
        rw [none] at session
        cases session
    | renewed hv session =>
      rcases State.mem_put_user.1 hu with rfl | ⟨hu, ne⟩
      · exact absurd (Option.some.inj fingerprint) (other _ rfl (session ▸ nofun))
      · obtain ⟨g, hg, session'⟩ := old hu
        cases hg
        exact absurd (Option.some.inj (session'.symm.trans session)) ne

/-- A renewal is for the only bearer of its token, and begins a session of theirs. -/
theorem session_of_refresh (h : s.Sound) (o : Office) {token : String}
    (ok : Succeeds (o.carry (.refresh token) (idle s supply)).1) {now : Moment} {u : User}
    (bearer : s.bearer? o.issuer now token = some u) :
    ∃ g ∈ o.grant? (.refresh token) (idle s supply), g.session = some u.id := by
  obtain ⟨pair, ok⟩ := ok
  have run : o.carry (.refresh token) (idle s supply) = _ := Credentials.run_refresh h token
  cases found : s.bearer? o.issuer supply.readClock.1 token with
  | none =>
    rw [run, found] at ok
    cases ok
  | some v =>
    obtain ⟨c, valid, -⟩ := bearer?_eq_some.1 found
    obtain ⟨d, valid', stored, -⟩ := bearer?_eq_some.1 bearer
    obtain ⟨g, hg, session⟩ := grant?_refresh ok valid
    have hid : u.id = d.sub := (Store.Table.find?_eq_some.1 stored).2
    refine ⟨g, hg, ?_⟩
    rw [session, hid, Issuer.validate_unique valid valid']

theorem refresh_writes (h : s.Sound) (o : Office) {token : String}
    (ok : Succeeds (o.carry (.refresh token) (idle s supply)).1) :
    (o.carry (.refresh token) (idle s supply)).2.published ≠ s := by
  obtain ⟨pair, ok⟩ := ok
  have run : o.carry (.refresh token) (idle s supply) = _ := Credentials.run_refresh h token
  cases found : s.bearer? o.issuer supply.readClock.1 token with
  | none =>
    rw [run, found] at ok
    cases ok
  | some u =>
    obtain ⟨c, -, stored, -⟩ := bearer?_eq_some.1 found
    rw [run, found]
    exact State.put_ne (Credentials.admits_honouring h (Store.Table.find?_eq_some.1 stored).1 _)

theorem refresh_refuses (h : s.Sound) (o : Office) {token : String}
    (worthless : Worthless o.issuer token s) :
    ¬Succeeds (o.carry (.refresh token) (idle s supply)).1 := by
  have run : o.carry (.refresh token) (idle s supply) = _ := Credentials.run_refresh h token
  rw [run, worthless]
  exact nofun

/-! ## §2 A workspace is handed over once -/

theorem Roll.decide_transfer {v v' : Roll} {workspace user : Uuid} {email : String}
    (h : v.decide workspace user (.transferOwnership email) = .ok v') :
    v.standing user workspace = .active .owner ∧ v'.standing user workspace = .active .admin := by
  rw [decide, enter_bind_eq_ok] at h
  obtain ⟨-, rank, acts, h⟩ := h
  obtain ⟨owns, h⟩ := check_bind_eq_ok.1 h
  obtain ⟨target, h, -⟩ := target_bind_eq_ok.1 h
  obtain ⟨distinct, h⟩ := check_bind_eq_ok.1 h
  obtain ⟨_, -, h⟩ := rank_bind_eq_ok.1 h
  cases h
  refine ⟨owns ▸ acts, ?_⟩
  rw [set_standing, if_neg fun e => distinct e.1.symm, set_standing, if_pos ⟨rfl, rfl⟩]

/-- A transfer succeeds for the owner, who is an ADMIN afterwards, or else changes nothing. -/
theorem transfer_cases (h : s.Sound) (o : Office) (supply : Supply) (workspace : Uuid)
    (actor : Identity) (email : String) :
    let out := o.carry (.change workspace actor (.transferOwnership email)) (idle s supply)
    (¬Succeeds out.1 ∧ out.2.published = s) ∨
      s.roll.standing actor.user workspace = .active .owner ∧
        out.2.published.roll.standing actor.user workspace = .active .admin := by
  intro out
  rcases change_cases h supply workspace actor (.transferOwnership email) with
    ⟨f, -, run⟩ | ⟨v, decided, settled⟩
  · have run : out = (.error f, idle s supply) := run
    rw [run]
    exact .inl ⟨nofun, rfl⟩
  · rcases settled with ⟨s', later, run, -, -, hv⟩ | ⟨-, later, run⟩
    · have run : out = (.ok (), idle s' later) := run
      obtain ⟨before, after⟩ := Roll.decide_transfer decided
      rw [run]
      exact .inr ⟨before, hv ▸ after⟩
    · have run : out = (.error .conflict, idle s later) := run
      rw [run]
      exact .inl ⟨nofun, rfl⟩

/-! ## §3 Calls in a pool -/

section Pools

variable {ι : Type}

namespace Office

/-- Calls that run at the same time, each with draws of its own. -/
def pool (o : Office) (calls : ι → Command) (draws : ι → Supply) (s : State) :
    Pool fun i => Except Failure (calls i).Answer :=
  Pool.start (fun i => ExceptT.run ((calls i).action o)) draws s

/-- The tables after calls one after another, the latest first. -/
def inTurn (o : Office) (calls : ι → Command) (draws : ι → Supply) (s : State) : List ι → State
  | [] => s
  | i :: earlier =>
    (o.carry (calls i) (idle (o.inTurn calls draws s earlier) (draws i))).2.published

/-- What calls hand out one after another, the latest first. -/
def grantsInTurn (o : Office) (calls : ι → Command) (draws : ι → Supply) (s : State) :
    List ι → List Grant
  | [] => []
  | i :: earlier =>
    (o.grant? (calls i) (idle (o.inTurn calls draws s earlier) (draws i))).toList ++
      o.grantsInTurn calls draws s earlier

variable {o : Office} {calls : ι → Command} {draws : ι → Supply}

theorem inTurn_eq (l : List ι) :
    Pool.inTurn (fun i => ExceptT.run ((calls i).action o)) draws s l =
      o.inTurn calls draws s l := by
  induction l with
  | nil => rfl
  | cons i l ih =>
    rw [Pool.inTurn, ih]
    rfl

theorem mem_grantsInTurn {later earlier : List ι} {i : ι} {g : Grant}
    (hg : g ∈ o.grant? (calls i) (idle (o.inTurn calls draws s earlier) (draws i))) :
    g ∈ o.grantsInTurn calls draws s (later ++ i :: earlier) := by
  induction later with
  | nil => exact List.mem_append_left _ (Option.mem_toList.2 hg)
  | cons j later ih => exact List.mem_append_right _ ih

end Office

/-- The call has ended well. -/
def Won {calls : ι → Command} (m : Pool fun i => Except Failure (calls i).Answer) (i : ι) : Prop :=
  ∃ a, (m.thread i).phase = .finished (.ok a)

instance {calls : ι → Command} (m : Pool fun i => Except Failure (calls i).Answer) (i : ι) :
    Decidable (Won m i) :=
  match h : (m.thread i).phase with
  | .finished (.ok a) => isTrue ⟨a, h⟩
  | .finished (.error _) => isFalse fun ⟨_, e⟩ => nomatch h.symm.trans e
  | .running _ => isFalse fun ⟨_, e⟩ => nomatch h.symm.trans e
  | .cancelled => isFalse fun ⟨_, e⟩ => nomatch h.symm.trans e

variable {o : Office} {calls : ι → Command} {draws : ι → Supply}

theorem valid_play [DecidableEq ι] (calls : ι → Command) (s : State) (es : List (Event ι)) :
    Pool.Valid (fun _ => Succeeds) (fun i => ExceptT.run ((calls i).action o)) draws s
      ((o.pool calls draws s).play es) :=
  (Pool.Valid.start fun i => (calls i).single o).play es

variable {m : Pool fun i => Except Failure (calls i).Answer}

/-- Nobody begins a session with the identifier of a token, or with another of its fingerprint. -/
structure Unrepeated (i : Issuer) (gs : List Grant) (token : String) : Prop where
  clear : Clear gs token
  fresh : ∀ u now id, token = i.sign (i.claims u .refresh now id) → id ∉ stamps gs

theorem Unrepeated.other_fingerprint {token : String} {gs : List Grant} {clock : Nat → Reading}
    {g : Grant} (h : Unrepeated o.issuer gs token) (issued : g.Issued o.issuer clock) (hg : g ∈ gs)
    (began : g.session ≠ none) :
    Token.fingerprint g.pair.refresh ≠ Token.fingerprint token := by
  intro same
  have same := h.clear g hg began (Token.fingerprint_eq_iff.1 same)
  obtain ⟨u, -, signed⟩ := issued
  obtain ⟨n, e⟩ := signed .refresh
  exact h.fresh u (clock n) (g.jti .refresh) (same.symm.trans e) (jti_mem_stamps hg .refresh)

variable {S : ι → Prop} {Q : State → Prop}

/-- Rivals over sound tables, in terms of calls. -/
theorem rivals_of (h : s.Sound)
    (writes : ∀ i, S i → ∀ t : State, t.Sound →
      Succeeds (o.carry (calls i) (idle t (draws i))).1 →
        (o.carry (calls i) (idle t (draws i))).2.published ≠ t)
    (refuses : ∀ i, S i → ∀ t : State, t.Sound → Q t →
      ¬Succeeds (o.carry (calls i) (idle t (draws i))).1)
    (spends : ∀ i later earlier, m.turns = later ++ i :: earlier → S i →
      ∀ t, t = o.inTurn calls draws s earlier → t.Sound →
        Succeeds (o.carry (calls i) (idle t (draws i))).1 →
          Q (o.carry (calls i) (idle t (draws i))).2.published)
    (keeps : ∀ i later earlier, m.turns = later ++ i :: earlier →
      ∀ t, t = o.inTurn calls draws s earlier → t.Sound → Q t →
        Q (o.carry (calls i) (idle t (draws i))).2.published) :
    Pool.Rivals (fun _ => Succeeds) (fun i => ExceptT.run ((calls i).action o)) draws s m S
      State.Sound Q where
  start := h
  sound i _ ht := o.sound_carry (calls i) (draws i) ht
  writes := writes
  refuses := refuses
  spends i later earlier e hi ht ok := by
    rw [Pool.inTurn]
    exact spends i later earlier e hi _ (Office.inTurn_eq earlier) ht ok
  keeps i later earlier e ht q := by
    rw [Pool.inTurn]
    exact keeps i later earlier e _ (Office.inTurn_eq earlier) ht q

/-- Those who renew the same token are rivals. -/
theorem rivals_refresh (h : s.Sound) {token : String}
    (once : Unrepeated o.issuer (o.grantsInTurn calls draws s m.turns) token) :
    Pool.Rivals (fun _ => Succeeds) (fun i => ExceptT.run ((calls i).action o)) draws s m
      (fun i => calls i = .refresh token) State.Sound (Worthless o.issuer token) := by
  have other : ∀ i later earlier, m.turns = later ++ i :: earlier →
      ∀ t, t = o.inTurn calls draws s earlier → t.Sound →
      ∀ g ∈ o.grant? (calls i) (idle t (draws i)), g.session ≠ none →
        Token.fingerprint g.pair.refresh ≠ Token.fingerprint token := by
    rintro i later earlier e _ rfl ht g hg
    have issued := (accounted_carry ht o (calls i) (draws i)).2 g hg
    exact once.other_fingerprint issued (e ▸ Office.mem_grantsInTurn hg)
  refine rivals_of h ?writes ?refuses ?spends ?keeps
  case writes =>
    intro i hi t ht ok
    generalize calls i = c at hi ok
    subst hi
    exact refresh_writes ht o ok
  case refuses =>
    intro i hi t ht worthless
    generalize calls i = c at hi
    subst hi
    exact refresh_refuses ht o worthless
  case spends =>
    intro i later earlier e hi t eq ht ok
    have other := other i later earlier e t eq ht
    generalize calls i = c at hi ok other
    subst hi
    exact worthless_of_accounts (accounted_carry ht o _ (draws i)).1 other
      fun now u bearer => session_of_refresh ht o ok bearer
  case keeps =>
    intro i later earlier e t eq ht worthless
    exact worthless_of_accounts (accounted_carry ht o _ (draws i)).1
      (other i later earlier e t eq ht)
      fun now u bearer => by rw [worthless now] at bearer; cases bearer

/-- Those who hand over the same workspace in the name of the same user are rivals. -/
theorem rivals_transfer (h : s.Sound) {workspace user : Uuid}
    (same : ∀ i, ∃ (actor : Identity) (email : String), actor.user = user ∧
      calls i = .change workspace actor (.transferOwnership email)) :
    Pool.Rivals (fun _ => Succeeds) (fun i => ExceptT.run ((calls i).action o)) draws s m
      (fun _ => True) State.Sound
      fun t => t.roll.standing user workspace ≠ .active .owner := by
  have cases : ∀ i (t : State), t.Sound →
      ¬Succeeds (o.carry (calls i) (idle t (draws i))).1 ∧
        (o.carry (calls i) (idle t (draws i))).2.published = t ∨
      t.roll.standing user workspace = .active .owner ∧
        (o.carry (calls i) (idle t (draws i))).2.published.roll.standing user workspace =
          .active .admin := by
    intro i t ht
    obtain ⟨actor, email, rfl, e⟩ := same i
    rw [e]
    exact transfer_cases ht o (draws i) workspace actor email
  refine rivals_of h ?writes ?refuses ?spends ?keeps
  case writes =>
    intro i _ t ht ok unchanged
    rcases cases i t ht with ⟨failed, -⟩ | ⟨owner, admin⟩
    · exact failed ok
    · rw [unchanged, owner] at admin
      cases admin
  case refuses =>
    intro i _ t ht spent ok
    rcases cases i t ht with ⟨failed, -⟩ | ⟨owner, -⟩
    · exact failed ok
    · exact spent owner
  case spends =>
    intro i _ _ _ _ t _ ht ok
    rcases cases i t ht with ⟨failed, -⟩ | ⟨-, admin⟩
    · exact absurd ok failed
    · simp [admin]
  case keeps =>
    intro i _ _ _ t _ ht spent
    rcases cases i t ht with ⟨-, unchanged⟩ | ⟨-, admin⟩
    · rwa [unchanged]
    · simp [admin]

/-! ## §4 Renewals of a token that is honoured -/

/-- The account of a user is there, and honours a token. -/
def Honours (s : State) (u : User) (token : String) : Prop :=
  ∃ v, s.user? u.id = some v ∧ v.email = u.email ∧
    v.refreshFingerprint = some (Token.fingerprint token)

/-- Only who a user is and where they are written to counts for a pair. -/
theorem drawPair_congr (i : Issuer) {u v : User} (id : v.id = u.id) (email : v.email = u.email)
    (supply : Supply) : i.drawPair v supply = i.drawPair u supply := by
  simp only [Issuer.drawPair, Issuer.drawToken, Issuer.drawClaims, claims_congr i id email]

variable {u : User} {issued : Reading} {id : Uuid} {token : String}

/-- The token that is honoured is renewed until its leeway is over, and then the new one is. -/
theorem refresh_of_honours (h : s.Sound) (o : Office) (honours : Honours s u token)
    (signed : token = o.issuer.sign (o.issuer.claims u .refresh issued id))
    (current : supply.readClock.1.seconds ≤ issued.seconds + o.issuer.lifetime .refresh + 60) :
    let pair := (o.issuer.drawPair u supply.readClock.2).1
    let out := o.carry (.refresh token) (idle s supply)
    out.1 = .ok pair ∧ Honours out.2.published u pair.refresh ∧
      o.grant? (.refresh token) (idle s supply) =
        some (.drawn o.issuer u supply.readClock.2 (some u.id)) := by
  intro pair out
  obtain ⟨v, stored, email, honoured⟩ := honours
  have own : v.id = u.id := (Store.Table.find?_eq_some.1 stored).2
  have claims := o.issuer.claims_eq u .refresh issued id
  have valid : o.issuer.validate (idle s supply).supply.readClock.1 token .refresh =
      some (o.issuer.claims u .refresh issued id) := by
    rw [signed, Issuer.validate_sign (o.issuer.claims_proper ..), claims]
    exact if_pos ⟨rfl, supply.readClock.1.presentDay.late, current⟩
  have bearer : s.bearer? o.issuer supply.readClock.1 token = some v :=
    bearer?_eq_some.2 ⟨_, valid, by rw [claims]; exact stored, honoured⟩
  have run : out = _ := Credentials.run_refresh h token
  rw [bearer] at run
  dsimp only at run
  rw [drawPair_congr o.issuer own email] at run
  refine ⟨by rw [run], ?_, ?_⟩
  · rw [run]
    refine ⟨(v.honouring pair.refresh).saved, ?_, email, rfl⟩
    rw [← own]
    exact s.users.find?_insert_self (v.honouring pair.refresh).saved
  · have run : o.carry (.refresh token) (idle s supply) = _ := run
    rw [Office.grant?, run, valid, Option.map_some, claims, Grant.of_drawPair]

/-- Where another token is honoured, a token of the same user is refused. -/
theorem refresh_of_other (h : s.Sound) (o : Office) {other : String} (honours : Honours s u other)
    (signed : token = o.issuer.sign (o.issuer.claims u .refresh issued id))
    (distinct : Token.fingerprint other ≠ Token.fingerprint token) :
    ¬Succeeds (o.carry (.refresh token) (idle s supply)).1 := by
  refine refresh_refuses h o fun now => ?_
  cases found : s.bearer? o.issuer now token with
  | none => rfl
  | some w =>
    obtain ⟨v, stored, -, honoured⟩ := honours
    obtain ⟨c, valid, user, fingerprint⟩ := bearer?_eq_some.1 found
    rw [signed, Issuer.validate_sign (o.issuer.claims_proper ..),
      Option.ite_none_right_eq_some] at valid
    obtain rfl := Option.some.inj valid.2
    rw [Issuer.claims_eq] at user
    obtain rfl : v = w := Option.some.inj (stored.symm.trans user)
    exact absurd (Option.some.inj (honoured.symm.trans fingerprint)) distinct

theorem Unrepeated.nil (i : Issuer) (token : String) : Unrepeated i [] token :=
  ⟨nofun, fun _ _ _ _ => List.not_mem_nil⟩

/-- A single session began with another token, and has identifiers of its own. -/
theorem Unrepeated.singleton {i : Issuer} {g : Grant}
    (signed : token = i.sign (i.claims u .refresh issued id))
    (apart : Token.fingerprint g.pair.refresh ≠ Token.fingerprint token) (new : id ∉ stamps [g]) :
    Unrepeated i [g] token where
  clear f hf _ same := by
    obtain rfl := List.mem_singleton.1 hf
    exact absurd (Token.fingerprint_eq_iff.2 same) apart
  fresh v now other same := by
    have jti := Token.jti_eq_of_encode_eq (signed.symm.trans same)
    rw [Issuer.claims_eq, Issuer.claims_eq] at jti
    have jti : id = other := jti
    exact jti ▸ new

/-- The tables with Ann's account, which honours the token. -/
def annTables (n : Nat) : State := State.empty.put (.user (ann.honouring (annToken n)))

theorem held_annTables (n : Nat) : (annTables n).Held := .put .empty ⟨rfl, nofun⟩

theorem honours_annTables (n : Nat) : Honours (annTables n) ann (annToken n) :=
  ⟨_, rfl, rfl, rfl⟩

/-- Streams whose identifiers count up from the given one. -/
def idsFrom (k : Nat) : Supply := { Supply.counting with nextId := k }

/-- Ann's token is renewed, and honoured after that is the one with the second identifier. -/
theorem refresh_annToken (h : s.Sound) {n : Nat} (honours : Honours s ann (annToken n)) (k : Nat) :
    Succeeds (Office.small.carry (.refresh (annToken n)) (idle s (idsFrom k))).1 ∧
      Honours (Office.small.carry (.refresh (annToken n)) (idle s (idsFrom k))).2.published ann
        (annToken (k + 1)) ∧
      ∃ g, Office.small.grant? (.refresh (annToken n)) (idle s (idsFrom k)) = some g ∧
        g.pair.refresh = annToken (k + 1) ∧ stamps [g] = [.ofNat k, .ofNat (k + 1)] := by
  have life := (Office.small.issuer.lifetime_bounds .refresh).1
  have current : (idsFrom k).readClock.1.seconds ≤
      Reading.june.seconds + Office.small.issuer.lifetime .refresh + 60 := by
    show Reading.june.seconds ≤ _
    omega
  obtain ⟨ok, next, grant⟩ := refresh_of_honours h .small honours rfl current
  have token : (Office.small.issuer.drawPair ann (idsFrom k).readClock.2).1.refresh =
      annToken (k + 1) := Office.small.issuer.half_drawPair ann (idsFrom k).readClock.2 .refresh
  rw [token] at next
  exact ⟨⟨_, ok⟩, next, _, grant, token, rfl⟩

/-- Of two programs, one of which has not committed, only the other can have had a turn. -/
theorem turns_of_uncommitted {α : Bool → Type} {m : Pool α} (nodup : m.acquired.Nodup)
    (uncommitted : m.committed false = false) : m.turns = [] ∨ m.turns = [true] := by
  have own : ∀ b ∈ m.turns, b = true := by
    intro b hb
    have committed : m.committed b = true := (List.mem_filter.1 hb).2
    cases b with
    | true => rfl
    | false => exact absurd committed (by simp [uncommitted])
  have all := List.eq_replicate_of_mem own
  have once : m.turns.length ≤ 1 := by
    have nodup : m.turns.Nodup := nodup.filter _
    rw [all] at nodup
    exact List.nodup_replicate.1 nodup
  generalize m.turns.length = n at all once
  cases n with
  | zero => exact .inl all
  | succ n =>
    obtain rfl : n = 0 := by omega
    exact .inr all

/-- Two renewals of one token that both begin before one of them goes on, and then the other. -/
theorem two_renewals (o : Office) (token : String) (draws : Bool → Supply) (s : State) :
    ∃ es,
      let m := (o.pool (fun _ => .refresh token) draws s).play
        (.advance true :: .advance false :: es)
      let first := o.carry (.refresh token) (idle s (draws true))
      let second := o.carry (.refresh token) (idle first.2.published (draws false))
      (m.thread true).phase = .finished first.1 ∧ (m.thread false).phase = .finished second.1 := by
  let begun : List (Event Bool) := [.advance true, .advance false]
  have valid : Pool.Valid (fun _ => Succeeds) _ draws s
      ((o.pool (fun _ => .refresh token) draws s).play begun) := valid_play _ s begun
  obtain ⟨es, first, second, -⟩ := valid.one_by_one (i := true) (j := false) rfl nofun rfl rfl
  exact ⟨es, first, second⟩

/-! ## §5 One after another -/

/--
Any calls at the same time over one store, in any interleaving of their
requests and with any of them cancelled at any point. What is published is what
those that commit publish when they run alone, one after another, in the order
in which they opened their units of work. A call that ends answers what it
answers alone in its place in that order; one that never opens a unit of work
answers so over all tables. A call that fails has published nothing, and
whatever has ended, by itself or cancelled, holds nothing.

Over any tables that a store can hold, of calls that present one refresh token at
most one succeeds, as long as its identifier is not drawn again and no other token
that is handed out has its fingerprint; and of calls that all hand over one
workspace in the name of one user at most one succeeds.
-/
theorem serializable [DecidableEq ι] (o : Office) (calls : ι → Command) (draws : ι → Supply)
    (s : State) (es : List (Event ι)) :
    let m := (o.pool calls draws s).play es
    let tables := o.inTurn calls draws s
    m.acquired.Nodup ∧
    m.history = m.turns.tails.map tables ∧
    m.published = tables m.turns ∧
    (∀ i out, (m.thread i).phase = .finished out →
      (∀ later earlier, m.acquired = later ++ i :: earlier →
        out = (o.carry (calls i) (idle (tables (earlier.filter m.committed)) (draws i))).1) ∧
      (i ∉ m.acquired → ∀ t, out = (o.carry (calls i) (idle t (draws i))).1) ∧
      (¬Succeeds out → m.committed i = false)) ∧
    (∀ i, (∀ rest, (m.thread i).phase ≠ .running rest) → Pool.held m.tx i = none) ∧
    (s.Held → ∀ token, Unrepeated o.issuer (o.grantsInTurn calls draws s m.turns) token →
      ∀ i j, calls i = .refresh token → calls j = .refresh token →
        Won m i → Won m j → i = j) ∧
    (s.Held → ∀ workspace user,
      (∀ i, ∃ (actor : Identity) (email : String), actor.user = user ∧
        calls i = .change workspace actor (.transferOwnership email)) →
      ∀ i j, Won m i → Won m j → i = j) := by
  intro m tables
  have valid : Pool.Valid _ _ draws s m := valid_play (o := o) calls s es
  have same : Pool.inTurn (fun i => ExceptT.run ((calls i).action o)) draws s = tables :=
    funext Office.inTurn_eq
  refine ⟨valid.nodup, same ▸ valid.history, same ▸ valid.published, ?_, ?_, ?_, ?_⟩
  · intro i out ended
    rcases valid.finished ended with ⟨away, uncommitted, alone⟩ | ⟨t, found, answer, outcome⟩
    · refine ⟨fun later earlier e => absurd ?_ away, fun _ t => (alone t).1.symm,
        fun _ => uncommitted⟩
      rw [e]
      exact List.mem_append_right _ List.mem_cons_self
    · refine ⟨fun later earlier e => ?_, fun away => ?_, fun failed => ?_⟩
      · have nodup := valid.nodup
        rw [e] at found nodup
        rw [Pool.place_append nodup, same] at found
        rw [Option.some.inj found]
        exact answer.symm
      · rw [Pool.place_eq_none.2 away] at found
        cases found
      · rcases outcome with ⟨-, ok⟩ | ⟨uncommitted, -⟩
        · exact absurd ok failed
        · exact uncommitted
  · exact fun i ended => valid.held_ended ended
  · rintro held token once i j hi hj ⟨a, endI⟩ ⟨b, endJ⟩
    exact (rivals_refresh held.sound once).at_most_one valid hi hj endI ⟨a, rfl⟩ endJ ⟨b, rfl⟩
  · rintro held workspace user transfers i j ⟨a, endI⟩ ⟨b, endJ⟩
    exact (rivals_transfer held.sound transfers).at_most_one valid trivial trivial endI ⟨a, rfl⟩
      endJ ⟨b, rfl⟩

/--
Two calls that renew one token, and two that hand over one workspace in the name
of its owner: of each two that run at the same time, the first that opens its unit
of work succeeds, and the other does not.
-/
theorem serializable_races :
    (let calls : Bool → Command := fun _ => .refresh (annToken 4)
      let draws : Bool → Supply := fun b => idsFrom (cond b 5 7)
      let s := annTables 4
      s.Held ∧
        ∃ es,
          let m := (Office.small.pool calls draws s).play es
          Unrepeated Office.small.issuer (Office.small.grantsInTurn calls draws s m.turns)
              (annToken 4) ∧ Won m true ∧ ¬Won m false) ∧
    let owner : Identity := ⟨.ofNat 0, "n@b"⟩
    let before : List Command := [.signup "N" "n@b" "p", .create "Acme" .team owner,
      .signup "F" "f@b" "p", .change (.ofNat 3) owner (.add "f@b" .member)]
    let s := (Office.small.after before (idle .empty .counting)).published
    let calls : Bool → Command := fun _ => .change (.ofNat 3) owner (.transferOwnership "f@b")
    let m := (Office.small.pool calls (fun _ => .counting) s).play
      (List.replicate 12 [.advance true, .advance false]).flatten
    s.Held ∧ Won m true ∧ ¬Won m false := by
  constructor
  · intro calls draws s
    have held : s.Held := held_annTables 4
    obtain ⟨⟨_, ok⟩, honours, g, grant, renewed, stamps⟩ :=
      refresh_annToken held.sound (honours_annTables 4) 5
    have refused : ¬Succeeds (Office.small.carry (.refresh (annToken 4)) (idle _ (idsFrom 7))).1 :=
      refresh_of_other (Office.small.sound_carry _ _ held.sound) .small honours rfl annToken_apart
    obtain ⟨es, first, second⟩ := two_renewals .small (annToken 4) draws s
    dsimp only [draws, cond_true, cond_false] at first second
    let es := .advance true :: .advance false :: es
    let m := (Office.small.pool calls draws s).play es
    obtain ⟨nodup, -, -, answers, -, once, -⟩ := serializable .small calls draws s es
    have uncommitted : m.committed false = false := (answers false _ second).2.2 refused
    have grants : Office.small.grantsInTurn calls draws s [true] = [g] :=
      congrArg (fun g? : Option Grant => g?.toList ++ []) grant
    have unrepeated : Unrepeated Office.small.issuer
        (Office.small.grantsInTurn calls draws s m.turns) (annToken 4) := by
      rcases turns_of_uncommitted nodup uncommitted with e | e
      · rw [e]
        exact .nil ..
      · rw [e, grants]
        refine .singleton rfl ?_ ?_
        · rw [renewed]
          exact annToken_apart
        · rw [stamps]
          decide
    have won : Won m true := ⟨_, first.trans (congrArg _ ok)⟩
    refine ⟨held, es, unrepeated, won, fun lost => ?_⟩
    cases once held _ unrepeated true false rfl rfl won lost
  · intro owner before s calls m
    have held : s.Held := Office.small.held_after before .counting .empty
    have won : Won m true := by decide +kernel
    refine ⟨held, won, fun lost => ?_⟩
    have once := serializable .small calls (fun _ => .counting) s
      (List.replicate 12 [.advance true, .advance false]).flatten
    cases once.2.2.2.2.2.2 held (.ofNat 3) (.ofNat 0)
      (fun _ => ⟨owner, "f@b", rfl, rfl⟩) true false won lost

/--
Over tables that a store can hold, a token is renewed by two calls at the same
time, each of which draws the identifier that the token has.
-/
theorem renewed_twice :
    let calls : Bool → Command := fun _ => .refresh (annToken 4)
    (annTables 4).Held ∧
      ∃ es,
        let m := (Office.small.pool calls (fun _ => idsFrom 3) (annTables 4)).play es
        Won m true ∧ Won m false := by
  intro calls
  have held := held_annTables 4
  obtain ⟨⟨_, ok⟩, honours, -⟩ := refresh_annToken held.sound (honours_annTables 4) 3
  obtain ⟨⟨_, again⟩, -⟩ := refresh_annToken (Office.small.sound_carry _ _ held.sound) honours 3
  obtain ⟨es, first, second⟩ := two_renewals .small (annToken 4) (fun _ => idsFrom 3) (annTables 4)
  exact ⟨held, _, ⟨_, first.trans (congrArg _ ok)⟩, ⟨_, second.trans (congrArg _ again)⟩⟩

end Pools

end Service

end Roster
