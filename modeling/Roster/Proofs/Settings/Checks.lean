/-
Roster.Proofs.Settings.Checks — what the checks of the settings are good for.

Settings that pass (`Accepted`) bound the lives of tokens as the issuer of tokens
does, so that it can only complain of an empty secret (`issuer_error`), and every
expiry is in the calendar (`expiry_inCalendar`). The windows of the allowances
are not checked: settings pass with windows too long for the words that hold
their milliseconds, or the nanoseconds of a burst, and with these no service can
be set up (`window_overflows`).
-/
import Roster.Proofs.Api.Boundary
import Roster.Proofs.Limits.Quota
import Roster.Proofs.Token.Issue

namespace Roster

/-! ## §1 Settings that pass -/

namespace Settings

/-- What the checks of the settings add up to. -/
structure Accepted (s : Settings) : Prop where
  port : s.listen.port ≠ 0
  minutes : 1 ≤ s.signing.accessMinutes ∧ s.signing.accessMinutes ≤ Token.greatestMinutes
  days : 1 ≤ s.signing.refreshDays ∧ s.signing.refreshDays ≤ Token.greatestDays
  connections : s.database.minConnections ≤ s.database.maxConnections
  origins : s.mode = .prod → "*" ∉ s.origins

variable {s : Settings}

theorem flaw?_eq_none : s.flaw? = none ↔ s.Accepted := by
  have minutes : (greatestMinutes : Int) = Token.greatestMinutes := rfl
  have days : (greatestDays : Int) = Token.greatestDays := rfl
  unfold flaw?
  rw [minutes, days]
  constructor
  · intro h
    split at h
    · cases h
    split at h
    · cases h
    split at h
    · cases h
    split at h
    · cases h
    split at h
    · cases h
    rename_i port access refresh few star
    exact ⟨port, by omega, by omega, by omega, fun prod any => star ⟨prod, any⟩⟩
  · rintro ⟨port, access, refresh, connections, star⟩
    rw [if_neg port, if_neg (by omega), if_neg (by omega), if_neg (by omega),
      if_neg fun both => star both.1 both.2]

/-- Of settings that pass, the issuer of tokens can refuse an empty secret only. -/
theorem Accepted.issuer_error (h : s.Accepted) {f : Token.Issuer.Flaw}
    (refused : Token.Issuer.make s.signing.secret s.signing.accessMinutes s.signing.refreshDays =
      .error f) : f = .emptySecret ∧ s.signing.secret = "" := by
  unfold Token.Issuer.make at refused
  split at refused
  · rename_i empty
    exact ⟨(Except.error.inj refused).symm, empty⟩
  · rw [dif_pos h.minutes, dif_pos h.days] at refused
    cases refused

end Settings

namespace Http.Origins

variable {origins : List String}

theorem mem_of_ofList_error {o : String} (h : ofList origins = .error o) : o ∈ origins := by
  unfold ofList at h
  split at h
  · cases h
  · split at h
    · rename_i found
      cases h
      exact List.mem_of_find?_eq_some found
    · cases h

theorem exists_ofList : (∃ o, ofList origins = .ok o) ↔
    "*" ∈ origins ∨ ∀ o ∈ origins, isHeaderValue o = true := by
  unfold ofList
  by_cases star : "*" ∈ origins
  · simp [star]
  · rw [if_neg star]
    cases found : origins.find? fun o => !isHeaderValue o with
    | some o =>
      have unfit := List.find?_some found
      have mem := List.mem_of_find?_eq_some found
      refine ⟨nofun, fun fit => ?_⟩
      rcases fit with any | fit
      · exact absurd any star
      · simp [fit o mem] at unfit
    | none =>
      have fit := List.find?_eq_none.1 found
      exact ⟨fun _ => .inr fun o mem => by simpa using fit o mem, fun _ => ⟨_, rfl⟩⟩

/-- Only a star among the origins admits all. -/
theorem eq_only_of_ofList {o : Origins} (starless : "*" ∉ origins) (h : ofList origins = .ok o) :
    o = .only origins := by
  unfold ofList at h
  rw [if_neg starless] at h
  split at h
  · cases h
  · cases h
    rfl

end Http.Origins

open Token (bind_eq_ok mapError_eq_ok)

/-- What a service that can be set up consists of. -/
theorem Site.make_eq_ok {s : Settings} {hasher : Password.Hasher} {counting : Bool}
    {world : World} {site : Site} : make s hasher counting world = .ok site ↔
      ∃ issuer origins,
        Token.Issuer.make s.signing.secret s.signing.accessMinutes s.signing.refreshDays =
          .ok issuer ∧
        s.authAllowance.Fits ∧ s.allowance.Fits ∧
        Http.Origins.ofList s.origins = .ok origins ∧
        site = {
          setup := ⟨s, issuer, hasher, origins⟩
          signIns := .ofQuota (.spread s.authAllowance)
          requests := .ofQuota (.spread s.allowance)
          traffic := if counting then some [] else none
          world } := by
  unfold make
  constructor
  · intro made
    obtain ⟨issuer, issued, made⟩ := bind_eq_ok.1 made
    obtain ⟨signIns, signing, made⟩ := bind_eq_ok.1 made
    obtain ⟨requests, requesting, made⟩ := bind_eq_ok.1 made
    obtain ⟨origins, named, made⟩ := bind_eq_ok.1 made
    obtain ⟨auth, rfl⟩ := Limiter.ofAllowance_eq_ok.1 (mapError_eq_ok.1 signing)
    obtain ⟨all, rfl⟩ := Limiter.ofAllowance_eq_ok.1 (mapError_eq_ok.1 requesting)
    cases made
    exact ⟨issuer, origins, mapError_eq_ok.1 issued, auth, all, mapError_eq_ok.1 named, rfl⟩
  · rintro ⟨issuer, origins, issued, auth, all, named, rfl⟩
    rw [issued, Limiter.ofAllowance_eq_ok.2 ⟨auth, rfl⟩, Limiter.ofAllowance_eq_ok.2 ⟨all, rfl⟩,
      named]
    rfl

/-- Where there is an issuer, an allowance without a quota stops the start of the service. -/
theorem Site.make_overflow {s : Settings} {issuer : Token.Issuer} {o : Quota.Overflow}
    (issued : Token.Issuer.make s.signing.secret s.signing.accessMinutes s.signing.refreshDays =
      .ok issuer) (auth : s.authAllowance.Fits) (long : Quota.ofAllowance s.allowance = .error o)
    (hasher : Password.Hasher) (counting : Bool) (world : World) :
    make s hasher counting world = .error (.overflow o) := by
  unfold make
  rw [issued, Limiter.ofAllowance_eq_ok.2 ⟨auth, rfl⟩, Limiter.ofAllowance, long]
  rfl

namespace Settings

variable {s : Settings} {hasher : Password.Hasher} {counting : Bool} {world : World}

/-- A service with settings that pass can be set up if the settings fit what else it is made of. -/
theorem Accepted.exists_make (h : s.Accepted) :
    (∃ site, Site.make s hasher counting world = .ok site) ↔
      s.signing.secret ≠ "" ∧ s.authAllowance.Fits ∧ s.allowance.Fits ∧
        ("*" ∈ s.origins ∨ ∀ o ∈ s.origins, Http.isHeaderValue o = true) := by
  constructor
  · rintro ⟨site, made⟩
    obtain ⟨issuer, origins, issued, auth, all, named, -⟩ := Site.make_eq_ok.1 made
    refine ⟨?_, auth, all, Http.Origins.exists_ofList.1 ⟨origins, named⟩⟩
    obtain ⟨secret, -⟩ := Token.Issuer.make_eq_ok issued
    exact secret ▸ issuer.secret_ne
  · rintro ⟨secret, auth, all, fit⟩
    obtain ⟨origins, named⟩ := Http.Origins.exists_ofList.2 fit
    cases issued : Token.Issuer.make s.signing.secret s.signing.accessMinutes
        s.signing.refreshDays with
    | error f => exact absurd (h.issuer_error issued).2 secret
    | ok issuer => exact ⟨_, Site.make_eq_ok.2 ⟨issuer, origins, issued, auth, all, named, rfl⟩⟩

/-- What is wrong with settings that pass, if no service can be set up with them. -/
theorem Accepted.make_error (h : s.Accepted) {f : Site.Flaw}
    (refused : Site.make s hasher counting world = .error f) :
    f = .issuer .emptySecret ∧ s.signing.secret = "" ∨
      (∃ a ∈ [s.authAllowance, s.allowance], ∃ o, Quota.ofAllowance a = .error o ∧
        f = .overflow o) ∨
      ∃ o ∈ s.origins, f = .origin o := by
  unfold Site.make at refused
  cases issued : Token.Issuer.make s.signing.secret s.signing.accessMinutes
      s.signing.refreshDays with
  | error flaw =>
    rw [issued] at refused
    cases refused
    obtain ⟨rfl, empty⟩ := h.issuer_error issued
    exact .inl ⟨rfl, empty⟩
  | ok issuer =>
    rw [issued] at refused
    refine .inr ?_
    cases auth : Quota.ofAllowance s.authAllowance with
    | error o =>
      rw [Limiter.ofAllowance, auth] at refused
      cases refused
      exact .inl ⟨s.authAllowance, List.mem_cons_self, o, auth, rfl⟩
    | ok signIns =>
      cases all : Quota.ofAllowance s.allowance with
      | error o =>
        rw [Limiter.ofAllowance, auth, Limiter.ofAllowance, all] at refused
        cases refused
        exact .inl ⟨s.allowance, List.mem_cons_of_mem _ List.mem_cons_self, o, all, rfl⟩
      | ok requests =>
        rw [Limiter.ofAllowance, auth, Limiter.ofAllowance, all] at refused
        cases named : Http.Origins.ofList s.origins with
        | error o =>
          rw [named] at refused
          cases refused
          exact .inr ⟨o, Http.Origins.mem_of_ofList_error named, rfl⟩
        | ok origins =>
          rw [named] at refused
          cases refused

end Settings

/-! ## §2 Expiries -/

/-- An expiry within a year of an instant is in the calendar, which goes on for much longer. -/
theorem Token.Issuer.expiry_inCalendar (i : Token.Issuer) (use : Token.Use) {now : Moment}
    (calendar : now.InCalendar) (early : now.seconds + 86400 * 365 ≤ Moment.lastSecond) :
    (now.addSeconds (i.lifetime use)).InCalendar := by
  obtain ⟨positive, short⟩ := i.lifetime_bounds use
  have nonneg := calendar.nonneg
  refine ⟨?_, ?_⟩
  · simp only [Moment.addSeconds, Moment.second]
    omega
  · rw [Moment.seconds_addSeconds]
    omega

/-! ## §3 The arithmetic of a service -/

/--
Of settings that pass. An allowance is divided by a number that is not zero. The
milliseconds of its window fit 64 bits up to 18446744073709551 seconds and no
longer; up to 584 years, so do the nanoseconds of a whole burst. A service can be
set up if both fit for both allowances, but for an empty secret or an origin that
can be no header value; and if one does not fit, that is why it cannot. What it
then keeps to is the window over the attempts, and a millisecond at least. And
every life of a token for which there is an issuer leads from any instant, but
for the last year of the calendar, to an expiry that the calendar has.
-/
theorem arithmetic_of_accepted {s : Settings} (accepted : s.flaw? = none)
    (words : s.authAllowance.InWords ∧ s.allowance.InWords) :
    (∀ a ∈ [s.authAllowance, s.allowance],
      max a.attempts 1 ≠ 0 ∧
      (max a.seconds 1 * 1000 < 2 ^ 64 ↔ a.seconds ≤ 18446744073709551) ∧
      (a.seconds ≤ 18446744073 → a.Fits)) ∧
    (∀ hasher counting world,
      ((∃ site, Site.make s hasher counting world = .ok site) ↔
        s.signing.secret ≠ "" ∧ s.authAllowance.Fits ∧ s.allowance.Fits ∧
          ("*" ∈ s.origins ∨ ∀ o ∈ s.origins, Http.isHeaderValue o = true)) ∧
      (∀ f, Site.make s hasher counting world = .error f →
        f = .issuer .emptySecret ∧ s.signing.secret = "" ∨
          (∃ a ∈ [s.authAllowance, s.allowance],
            f = .overflow .window ∧ 18446744073709551 < a.seconds ∨
              f = .overflow .reach ∧ 18446744073 < a.seconds ∧ a.seconds ≤ 18446744073709551) ∨
          ∃ o ∈ s.origins, f = .origin o) ∧
      ∀ site, Site.make s hasher counting world = .ok site →
        ∀ p ∈ [(s.authAllowance, site.signIns), (s.allowance, site.requests)],
          let window := max p.1.seconds 1 * 1000
          let attempts := max p.1.attempts 1
          p.2.quota.burst = attempts ∧ window < 2 ^ 64 ∧ p.2.quota.reach < 2 ^ 64 ∧
          p.2.quota.period = max (window / attempts) 1 * Quota.millisecond) ∧
    ∀ secret minutes days i, Token.Issuer.make secret minutes days = .ok i →
      ∀ (use : Token.Use) (now : Moment), now.InCalendar →
        now.seconds + 86400 * 365 ≤ Moment.lastSecond →
        let expiry := now.addSeconds (match use with
          | .access => 60 * minutes
          | .refresh => 86400 * days)
        expiry.InCalendar ∧
          ∀ user jti, ∃ c, i.claims? user use now jti = some c ∧ c.exp = expiry.seconds := by
  have accepted := Settings.flaw?_eq_none.1 accepted
  have attempts : ∀ a ∈ [s.authAllowance, s.allowance], a.attempts < 2 ^ 32 := by
    intro a mem
    rcases List.mem_pair.1 mem with rfl | rfl
    · exact words.1.attempts
    · exact words.2.attempts
  refine ⟨fun a mem => ⟨by omega, by omega, Allowance.fits_of_le (attempts a mem)⟩,
    fun hasher counting world => ⟨accepted.exists_make, fun f refused => ?_, ?_⟩, ?_⟩
  · rcases accepted.make_error refused with empty | ⟨a, mem, o, long, rfl⟩ | unfit
    · exact .inl empty
    · refine .inr (.inl ⟨a, mem, ?_⟩)
      rcases Quota.ofAllowance_error long with ⟨rfl, window⟩ | ⟨rfl, window, reach⟩
      · exact .inl ⟨rfl, by omega⟩
      · refine .inr ⟨rfl, Nat.lt_of_not_le fun short => ?_, by omega⟩
        have fits := Allowance.fits_of_le (attempts a mem) short
        exact Nat.not_lt_of_le reach fits.reach
    · exact .inr (.inr unfit)
  · intro site made p mem window attempts
    obtain ⟨_, _, -, auth, all, -, rfl⟩ := Site.make_eq_ok.1 made
    obtain ⟨spread, fits⟩ : p.2 = .ofQuota (.spread p.1) ∧ p.1.Fits := by
      rcases List.mem_pair.1 mem with rfl | rfl
      · exact ⟨rfl, auth⟩
      · exact ⟨rfl, all⟩
    rw [spread]
    exact ⟨rfl, fits.window, fits.reach, rfl⟩
  · intro secret minutes days i made use now calendar early expiry
    obtain ⟨-, hm, hd⟩ := Token.Issuer.make_eq_ok made
    have life : expiry = now.addSeconds (i.lifetime use) := by
      cases use
      · rw [Token.Issuer.lifetime, hm]
      · rw [Token.Issuer.lifetime, hd]
    have later := i.expiry_inCalendar use calendar early
    rw [life]
    refine ⟨later, fun user jti => ⟨_, Token.Issuer.claims?_eq_some.2 ⟨?_, rfl⟩, ?_⟩⟩
    · rw [← Moment.seconds_addSeconds]
      exact later.le_last
    · rw [Moment.seconds_addSeconds]

/-- As many attempts as there can be, over the longest window for which their reach fits. -/
theorem arithmetic_of_accepted_longest :
    let s : Settings := { Site.small.setup.settings with allowance := ⟨4294967295, 18446884532⟩ }
    (s.flaw? = none ∧ s.authAllowance.InWords ∧ s.allowance.InWords) ∧
      ∃ site, Site.make s Site.small.setup.hasher false Site.small.world = .ok site ∧
        site.requests.quota.period = 4294 * Quota.millisecond := by
  intro s
  have accepted : s.flaw? = none := by decide
  have words : s.authAllowance.InWords ∧ s.allowance.InWords :=
    ⟨⟨by decide, by decide⟩, ⟨by decide, by decide⟩⟩
  have fits : s.allowance.Fits := ⟨by decide, by decide⟩
  obtain ⟨arithmetic, make, -⟩ := arithmetic_of_accepted accepted words
  have auth : s.authAllowance.Fits := (arithmetic _ List.mem_cons_self).2.2 (by decide)
  obtain ⟨possible, -, spread⟩ := make Site.small.setup.hasher false Site.small.world
  obtain ⟨site, made⟩ := possible.2 ⟨by decide, auth, fits, by decide⟩
  obtain ⟨-, -, -, period⟩ :=
    spread site made (s.allowance, site.requests) (List.mem_cons_of_mem _ List.mem_cons_self)
  have millis : Quota.periodMillis ⟨4294967295, 18446884532⟩ = 4294 := by decide
  exact ⟨⟨accepted, words⟩, site, made, period.trans (congrArg (· * Quota.millisecond) millis)⟩

/-- Settings that pass with a window too long for its milliseconds, or for the reach of a burst. -/
theorem window_overflows :
    let s (seconds : Nat) : Settings :=
      { Site.small.setup.settings with allowance := ⟨1, seconds⟩ }
    let made (seconds : Nat) :=
      Site.make (s seconds) Site.small.setup.hasher false Site.small.world
    ((s 18446744073709552).flaw? = none ∧ (s 18446744073709552).allowance.InWords ∧
      made 18446744073709552 = .error (.overflow .window)) ∧
    (s 18446744074).flaw? = none ∧ (s 18446744074).allowance.InWords ∧
      made 18446744074 = .error (.overflow .reach) := by
  intro s made
  have auth : Site.small.setup.settings.authAllowance.Fits :=
    Allowance.fits_of_le (by decide) (by decide)
  have stops (seconds : Nat) (o : Quota.Overflow)
      (long : Quota.ofAllowance ⟨1, seconds⟩ = .error o) : made seconds = .error (.overflow o) :=
    Site.make_overflow (s := s seconds) rfl auth long _ _ _
  exact ⟨⟨by decide, ⟨by decide, by decide⟩, stops _ _ rfl⟩,
    by decide, ⟨by decide, by decide⟩, stops _ _ rfl⟩

end Roster
