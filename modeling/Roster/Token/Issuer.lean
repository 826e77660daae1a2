/-
Roster.Token.Issuer — making and checking the tokens of one secret.

An issuer has a secret that is not empty, and lifetimes of a year at most. A
token whose expiry the calendar does not have cannot be issued; at what a clock
shows, all tokens can. A token is good for one use only.
-/
import Roster.Program
import Roster.Token.Codec

namespace Roster.Token

/-- The longest life of an access token, in minutes: one day. -/
def greatestMinutes : Int := 24 * 60

/-- The longest life of a refresh token, in days: one year. -/
def greatestDays : Int := 365

/-- Who signs tokens, and for how long. -/
structure Issuer where
  secret : String
  /-- Life of an access token. -/
  minutes : Int
  /-- Life of a refresh token. -/
  days : Int
  secret_ne : secret ≠ ""
  minutes_mem : 1 ≤ minutes ∧ minutes ≤ greatestMinutes
  days_mem : 1 ≤ days ∧ days ≤ greatestDays

/-- Two tokens, as they are handed to a client. -/
structure Pair where
  access : String
  refresh : String
  kind : String
  /-- Life of the access token in seconds. -/
  expiresIn : Int
  deriving DecidableEq, Repr

namespace Issuer

/-- Why there is no issuer with the given settings. -/
inductive Flaw where
  | emptySecret
  | minutesOutOfRange
  | daysOutOfRange
  deriving DecidableEq, Repr

def Flaw.message : Flaw → String
  | emptySecret => "JWT secret must not be empty"
  | minutesOutOfRange => "Access token lifetime out of range"
  | daysOutOfRange => "Refresh token lifetime out of range"

/-- The issuer with the given settings; the secret is checked first. -/
def make (secret : String) (minutes days : Int) : Except Flaw Issuer :=
  if hs : secret = "" then .error .emptySecret
  else if hm : 1 ≤ minutes ∧ minutes ≤ greatestMinutes then
    if hd : 1 ≤ days ∧ days ≤ greatestDays then .ok ⟨secret, minutes, days, hs, hm, hd⟩
    else .error .daysOutOfRange
  else .error .minutesOutOfRange

/-- Life in seconds of a token. -/
def lifetime (i : Issuer) : Use → Int
  | .access => 60 * i.minutes
  | .refresh => 86400 * i.days

theorem lifetime_bounds (i : Issuer) (use : Use) :
    0 < i.lifetime use ∧ i.lifetime use ≤ 86400 * 365 := by
  have minutes := i.minutes_mem
  have days := i.days_mem
  unfold greatestMinutes at minutes
  unfold greatestDays at days
  cases use
  · simp only [lifetime]
    omega
  · simp only [lifetime]
    omega

/-- The claims of a token issued at an instant, if the calendar has its expiry. -/
def claims? (i : Issuer) (user : User) (use : Use) (now : Moment) (jti : Uuid) : Option Claims :=
  (now.later? (i.lifetime use)).map fun expiry => {
    sub := user.id
    email := user.email
    use
    exp := expiry.seconds
    iat := now.seconds
    jti }

theorem isSome_claims? (i : Issuer) (user : User) (use : Use) (now : Reading) (jti : Uuid) :
    (i.claims? user use now jti).isSome := by
  have short := (i.lifetime_bounds use).2
  have early := now.presentDay.early
  rw [claims?, Option.isSome_map, Option.isSome_iff_exists]
  exact ⟨_, Moment.later?_eq_some.2 ⟨by omega, rfl⟩⟩

/-- The claims of a token issued at what a clock shows. -/
def claims (i : Issuer) (user : User) (use : Use) (now : Reading) (jti : Uuid) : Claims :=
  (i.claims? user use now jti).get (i.isSome_claims? user use now jti)

/-- The text of a token with the given claims. -/
def sign (i : Issuer) (c : Claims) : String := encode signing i.secret c

/-- Issues one token. -/
def issue (i : Issuer) (user : User) (use : Use) : Program String := do
  let now ← Program.readClock
  let jti ← Program.drawId
  return i.sign (i.claims user use now jti)

/-- Issues both halves of a pair. -/
def issuePair (i : Issuer) (user : User) : Program Pair := do
  let access ← i.issue user .access
  let refresh ← i.issue user .refresh
  return { access, refresh, kind := "Bearer", expiresIn := i.lifetime .access }

/-- The claims of a good token of the expected use; any flaw makes it no token at all. -/
def validate (i : Issuer) (now : Moment) (token : String) (expected : Use) : Option Claims :=
  match verify i.secret now token with
  | .ok c => if c.use = expected then some c else none
  | .error _ => none

end Issuer

/-! ## Fingerprints -/

/-- What is stored in place of a refresh token: its SHA-256 hash in hexadecimal. -/
def fingerprint (token : String) : String :=
  String.ofList ((Hash.sha256 (Hash.textBytes token)).flatMap fun b => Digits.hexField 2 b.toNat)

/-- Whether a stored fingerprint is that of the token. -/
def fingerprintMatches (token stored : String) : Bool := fingerprint token == stored

end Roster.Token
