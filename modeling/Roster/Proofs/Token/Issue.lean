/-
Roster.Proofs.Token.Issue — what an issued pair is good for.

A token is issued with one clock reading and one drawn identifier. Its claims
are such as a token can carry (`proper_of_claims?`), so that both halves of a
pair are read back with exactly the claims that were signed, for as long as their
use allows (`pair_round_trip`). At some ends it is otherwise (`round_trip_ends`):
the calendar may be over before the token is, no token is good in the first
minute after 1970, and the last second of the leeway counts in full.
-/
import Roster.Proofs.Service.Runs
import Roster.Proofs.Token.Codec

namespace Roster

/-- The instants after 1970 that the calendar has. -/
structure Moment.InCalendar (m : Moment) : Prop where
  nonneg : 0 ≤ m.nanos
  le_last : m.seconds ≤ Moment.lastSecond

namespace Token

/-- The place of a half in the order in which a pair is issued. -/
def Use.place : Use → Nat
  | .access => 0
  | .refresh => 1

/-- The token of a pair that has the given use. -/
def Pair.half (p : Pair) : Use → String
  | .access => p.access
  | .refresh => p.refresh

namespace Issuer

variable {i : Issuer} {user : User} {use : Use} {now : Moment} {jti : Uuid} {c : Claims}

/-! ## §1 Draws -/

/-- The claims of the token that is issued with what the streams give next. -/
def drawClaims (i : Issuer) (user : User) (use : Use) (supply : Supply) : Claims :=
  i.claims user use supply.readClock.1 supply.drawId.1

/-- The token that is issued with what the streams give next. -/
def drawToken (i : Issuer) (user : User) (use : Use) (supply : Supply) : String × Supply :=
  (i.sign (i.drawClaims user use supply), supply.readClock.2.drawId.2)

/-- The pair that is issued with what the streams give next. -/
def drawPair (i : Issuer) (user : User) (supply : Supply) : Pair × Supply :=
  let access := i.drawToken user .access supply
  let refresh := i.drawToken user .refresh access.2
  (⟨access.1, refresh.1, "Bearer", i.lifetime .access⟩, refresh.2)

theorem draws_issuePair (i : Issuer) (user : User) :
    (i.issuePair user).Draws (i.drawPair user) := fun _ => rfl

/-- The supply that the half of a pair is issued with. -/
def drawnAt (use : Use) (supply : Supply) : Supply :=
  { supply with
    nextId := supply.nextId + use.place
    nextReading := supply.nextReading + use.place }

theorem half_drawPair (i : Issuer) (user : User) (supply : Supply) (use : Use) :
    (i.drawPair user supply).1.half use = i.sign (i.drawClaims user use (drawnAt use supply)) := by
  cases use <;> rfl

/-! ## §2 Claims -/

theorem make_eq_ok {secret : String} {minutes days : Int} (h : make secret minutes days = .ok i) :
    i.secret = secret ∧ i.minutes = minutes ∧ i.days = days := by
  unfold make at h
  split at h
  · cases h
  · split at h
    · split at h
      · cases h
        exact ⟨rfl, rfl, rfl⟩
      · cases h
    · cases h

/-- The expiry follows the issue by the lifetime; the part of a second is lost in both alike. -/
theorem claims?_eq_some :
    i.claims? user use now jti = some c ↔ now.seconds + i.lifetime use ≤ Moment.lastSecond ∧
      c = ⟨user.id, user.email, use, now.seconds + i.lifetime use, now.seconds, jti⟩ := by
  rw [claims?, Option.map_eq_some_iff]
  constructor
  · rintro ⟨expiry, later, rfl⟩
    obtain ⟨early, rfl⟩ := Moment.later?_eq_some.1 later
    exact ⟨early, by rw [Moment.seconds_addSeconds]⟩
  · rintro ⟨early, rfl⟩
    exact ⟨_, Moment.later?_eq_some.2 ⟨early, rfl⟩, by rw [Moment.seconds_addSeconds]⟩

theorem claims?_claims (i : Issuer) (user : User) (use : Use) (now : Reading) (jti : Uuid) :
    i.claims? user use now jti = some (i.claims user use now jti) :=
  (Option.some_get _).symm

/-- Only who the user is and where they are written to is signed, of all that is kept of them. -/
theorem claims_eq (i : Issuer) (user : User) (use : Use) (now : Reading) (jti : Uuid) :
    i.claims user use now jti =
      ⟨user.id, user.email, use, now.seconds + i.lifetime use, now.seconds, jti⟩ :=
  (claims?_eq_some.1 (i.claims?_claims user use now jti)).2

theorem proper_of_claims? (issued : i.claims? user use now jti = some c)
    (nonneg : 0 ≤ now.seconds) : c.Proper := by
  obtain ⟨early, rfl⟩ := claims?_eq_some.1 issued
  have positive := (i.lifetime_bounds use).1
  unfold Moment.lastSecond at early
  exact ⟨nonneg, Int.le_add_of_nonneg_right (Int.le_of_lt positive), by dsimp only; omega⟩

theorem claims_proper (i : Issuer) (user : User) (use : Use) (now : Reading) (jti : Uuid) :
    (i.claims user use now jti).Proper :=
  proper_of_claims? (i.claims?_claims user use now jti)
    (Int.le_trans (by decide) now.presentDay.late)

/-! ## §3 Pairs -/

/-- The pair that is issued at the given instants, if the calendar has both expiries. -/
def pair? (i : Issuer) (user : User) (now : Use → Moment) (jti : Use → Uuid) : Option Pair := do
  let access ← i.claims? user .access (now .access) (jti .access)
  let refresh ← i.claims? user .refresh (now .refresh) (jti .refresh)
  return ⟨i.sign access, i.sign refresh, "Bearer", i.lifetime .access⟩

theorem pair?_eq_some {now : Use → Moment} {jti : Use → Uuid} {c : Use → Claims}
    (issued : ∀ use, i.claims? user use (now use) (jti use) = some (c use)) :
    i.pair? user now jti =
      some ⟨i.sign (c .access), i.sign (c .refresh), "Bearer", i.lifetime .access⟩ := by
  rw [pair?, issued, issued]
  rfl

/-- What a pair is issued with: the next two readings, and the next two identifiers. -/
theorem pair?_run (i : Issuer) (user : User) (w : World) :
    i.pair? user (fun use => w.supply.clock (w.supply.nextReading + use.place))
        (fun use => w.supply.id (w.supply.nextId + use.place)) =
      some ((i.issuePair user).run w).1 := by
  have run : ((i.issuePair user).run w).1 = (i.drawPair user w.supply).1 :=
    congrArg Prod.fst (draws_issuePair i user w)
  rw [pair?_eq_some fun use => i.claims?_claims .., run]
  rfl

/--
A pair is issued at any instants after 1970 if the calendar has both expiries. It
says how long its first half lives. Each half says what was signed, for its own
use and until the second is over that is a minute after its expiry, only not in
the first minute after 1970; whom it speaks for is read at any time. From the
issue to the expiry it is exactly the lifetime that was set. And at what a clock
shows, a pair is always issued.
-/
theorem pair_round_trip {secret : String} {minutes days : Int}
    (made : make secret minutes days = .ok i) (user : User) :
    let life (use : Use) : Int := match use with
      | .access => 60 * minutes
      | .refresh => 86400 * days
    (∀ (now : Use → Moment) (jti : Use → Uuid), (∀ use, 0 ≤ (now use).nanos) →
      (∀ use, (now use).seconds + life use ≤ Moment.lastSecond) →
      ∃ pair, i.pair? user now jti = some pair ∧
        pair.kind = "Bearer" ∧ pair.expiresIn = life .access ∧
        ∀ use, ∃ c : Claims,
          (c.sub = user.id ∧ c.email = user.email ∧ c.use = use ∧ c.iat = (now use).seconds ∧
            c.jti = jti use ∧ c.exp - c.iat = life use ∧ c.exp < 2 ^ 63) ∧
          (∀ later expected, i.validate later (pair.half use) expected =
            if expected = use ∧ 60 ≤ later.seconds ∧ later.seconds ≤ c.exp + 60 then some c
            else none) ∧
          subject (pair.half use) = .ok ⟨user.id, user.email⟩) ∧
    ∀ w : World,
      i.pair? user (fun use => w.supply.clock (w.supply.nextReading + use.place))
          (fun use => w.supply.id (w.supply.nextId + use.place)) =
        some ((i.issuePair user).run w).1 := by
  intro life
  obtain ⟨-, hm, hd⟩ := make_eq_ok made
  have lives (use : Use) : i.lifetime use = life use := by
    cases use
    · exact congrArg (60 * ·) hm
    · exact congrArg (86400 * ·) hd
  refine ⟨fun now jti nonneg early => ?_, i.pair?_run user⟩
  let c (use : Use) : Claims :=
    ⟨user.id, user.email, use, (now use).seconds + i.lifetime use, (now use).seconds, jti use⟩
  have issued (use : Use) : i.claims? user use (now use) (jti use) = some (c use) :=
    claims?_eq_some.2 ⟨lives use ▸ early use, rfl⟩
  refine ⟨_, pair?_eq_some issued, rfl, lives .access, fun use => ?_⟩
  have proper : (c use).Proper :=
    proper_of_claims? (issued use) (Int.fdiv_nonneg (nonneg use) (by decide))
  have half :
      Pair.half ⟨i.sign (c .access), i.sign (c .refresh), "Bearer", i.lifetime .access⟩ use =
        i.sign (c use) := by
    cases use <;> rfl
  rw [half]
  refine ⟨c use, ⟨rfl, rfl, rfl, rfl, rfl, ?_, proper.bound⟩, fun later expected => ?_, ?_⟩
  · rw [← lives]
    dsimp only [c]
    omega
  · exact validate_sign proper
  · exact subject_encode i.secret proper

/-- An address with quotes, a backslash and a line feed in it, five seconds after the issue. -/
theorem pair_round_trip_escapes :
    let email := "\"a\\\n\"@é.org"
    let user : User := ⟨.ofNat 7, "Ann", email, "hash", none, ⟨0⟩, 1⟩
    ∃ i, make "secret" 15 7 = .ok i ∧
      let token := ((i.issuePair user).run (.idle .empty .counting)).1.access
      ∃ c, c.email = email ∧ (c.iat = 1780272000 ∧ c.exp = 1780272900) ∧
        i.validate (.ofSeconds 1780272005) token .access = some c := by
  intro email user
  obtain ⟨i, made⟩ : ∃ i, make "secret" 15 7 = .ok i := ⟨_, rfl⟩
  obtain ⟨pairs, runs⟩ := pair_round_trip made user
  obtain ⟨pair, issued, -, -, halves⟩ := pairs (fun _ => Reading.june)
    (fun use => .ofNat (0 + use.place)) (fun _ => by decide) (fun use => by cases use <;> decide)
  have run : pair = ((i.issuePair user).run (.idle .empty .counting)).1 :=
    Option.some.inj (issued.symm.trans (runs (.idle .empty .counting)))
  obtain ⟨c, ⟨-, address, -, issue, -, life, -⟩, good, -⟩ := halves .access
  have june : c.iat = 1780272000 := issue.trans (by decide)
  have fifteen : c.exp - c.iat = 900 := life
  have five : (Moment.ofSeconds 1780272005).seconds = 1780272005 := by decide
  rw [run] at good
  refine ⟨i, made, c, address, ⟨june, by omega⟩, ?_⟩
  exact (good _ _).trans (if_pos ⟨rfl, by omega, by omega⟩)

/--
There is no pair whose expiry is beyond the calendar. Of a pair that was issued
five seconds after 1970 the first half is not good at ten seconds. And half a
second after the minute behind its expiry that of a pair is still good.
-/
theorem round_trip_ends :
    let user : User := ⟨.ofNat 7, "Ann", "ann@example.org", "hash", none, ⟨0⟩, 1⟩
    let jti (use : Use) : Uuid := .ofNat use.place
    ∃ i, make "secret" 15 7 = .ok i ∧
      i.pair? user (fun _ => .ofSeconds Moment.lastSecond) jti = none ∧
      (∃ pair, i.pair? user (fun _ => .ofSeconds 5) jti = some pair ∧
        i.validate (.ofSeconds 10) pair.access .access = none) ∧
      ∃ pair c, i.pair? user (fun _ => Reading.june) jti = some pair ∧
        let late : Moment := ⟨(Moment.ofSeconds (c.exp + 60)).nanos + 500000000⟩
        i.validate late pair.access .access = some c := by
  intro user jti
  obtain ⟨i, made⟩ : ∃ i, make "secret" 15 7 = .ok i := ⟨_, rfl⟩
  have life : i.lifetime .access = 900 := congrArg (60 * ·) (make_eq_ok made).2.1
  have week : i.lifetime .refresh = 604800 := congrArg (86400 * ·) (make_eq_ok made).2.2
  refine ⟨i, made, ?_, ?_, ?_⟩
  · have none : i.claims? user .access (.ofSeconds Moment.lastSecond) (jti .access) = none := by
      refine Option.eq_none_iff_forall_ne_some.2 fun c issued => ?_
      obtain ⟨early, -⟩ := claims?_eq_some.1 issued
      rw [life] at early
      revert early
      decide
    rw [pair?, none]
    rfl
  · let five : Moment := .ofSeconds 5
    have issued (use : Use) : i.claims? user use five (jti use) =
        some ⟨user.id, user.email, use, five.seconds + i.lifetime use, five.seconds, jti use⟩ := by
      refine claims?_eq_some.2 ⟨?_, rfl⟩
      cases use
      · rw [life]
        decide
      · rw [week]
        decide
    refine ⟨_, pair?_eq_some issued, ?_⟩
    show i.validate _ (i.sign _) .access = none
    rw [validate_sign (proper_of_claims? (issued .access) (by decide))]
    exact if_neg fun good => absurd good.2.1 (by decide)
  · refine ⟨_, i.claims user .access .june (jti .access),
      pair?_eq_some fun use => i.claims?_claims user use .june (jti use), ?_⟩
    intro late
    show i.validate late (i.sign _) .access = _
    rw [validate_sign (i.claims_proper ..)]
    refine if_pos ?_
    simp only [late, claims_eq, life]
    decide

end Issuer

/-! ## §4 Fingerprints -/

theorem hexField_injective {x y : UInt8}
    (h : Digits.hexField 2 x.toNat = Digits.hexField 2 y.toNat) : x = y := by
  have hx := Digits.hexFold?_hexField (n := x.toNat) 0 (show x.toNat < 16 ^ 2 from x.toNat_lt)
  have hy := Digits.hexFold?_hexField (n := y.toNat) 0 (show y.toNat < 16 ^ 2 from y.toNat_lt)
  rw [h, hy] at hx
  apply UInt8.toNat_inj.1
  have := Option.some.inj hx
  omega

theorem flatMap_hexField_injective {xs ys : List UInt8}
    (h : (xs.flatMap fun b => Digits.hexField 2 b.toNat) =
      ys.flatMap fun b => Digits.hexField 2 b.toNat) : xs = ys := by
  induction xs generalizing ys with
  | nil =>
    cases ys with
    | nil => rfl
    | cons y ys =>
      have := congrArg List.length h
      simp only [List.flatMap_nil, List.flatMap_cons, List.length_append,
        Digits.length_hexField, List.length_nil] at this
      omega
  | cons x xs ih =>
    cases ys with
    | nil =>
      have := congrArg List.length h
      simp only [List.flatMap_nil, List.flatMap_cons, List.length_append,
        Digits.length_hexField, List.length_nil] at this
      omega
    | cons y ys =>
      rw [List.flatMap_cons, List.flatMap_cons] at h
      obtain ⟨first, rest⟩ := List.append_inj h (by simp only [Digits.length_hexField])
      rw [hexField_injective first, ih rest]

/-- Fingerprints tell tokens apart as well as their hashes do. -/
theorem fingerprint_eq_iff {s t : String} :
    fingerprint s = fingerprint t ↔
      Hash.sha256 (Hash.textBytes s) = Hash.sha256 (Hash.textBytes t) := by
  constructor
  · intro h
    exact flatMap_hexField_injective (String.ofList_injective h)
  · intro h
    rw [fingerprint, fingerprint, h]

end Token

end Roster
