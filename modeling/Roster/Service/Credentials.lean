/-
Roster.Service.Credentials — signing up, signing in and renewing tokens.

A user has at most one refresh token that is honoured, the one from the latest
sign-in or renewal; its fingerprint is stored with the user in the same unit of
work. The pair from signing up is not recorded, so its refresh token is good
for nothing.
-/
import Roster.Failure
import Roster.Password.Hasher
import Roster.Token.Issuer

namespace Roster.Service.Credentials

open Password (Hasher)
open Token (Issuer Pair)

/-- Hashes a new password. -/
def hashPassword (hasher : Hasher) (password : String) : Action String := do
  let salt ← Action.perform Program.drawSalt
  match hasher.hash salt password with
  | .ok text => return text
  | .error detail => throw (.internal detail)

/-- Issues a pair and makes its refresh token the one that is honoured. -/
def renew (issuer : Issuer) (user : User) : Action Pair := do
  let pair ← Action.perform (issuer.issuePair user)
  let _ ← Action.store
    (.saveUser { user with refreshFingerprint := some (Token.fingerprint pair.refresh) })
  Action.commit
  return pair

/-- Opens an account. -/
def signup (issuer : Issuer) (hasher : Hasher) (name email password : String) :
    Action Pair := do
  let email := normalizeEmail email
  let passwordHash ← hashPassword hasher password
  Action.begin
  let known ← Action.store (.findUserByEmail email)
  Action.require known.isNone .duplicateIdentity
  let id ← Action.perform Program.drawId
  let now ← Action.perform Program.readClock
  let user ← Action.store (.saveUser (User.fresh id now (Text.trim name) email passwordHash))
  let pair ← Action.perform (issuer.issuePair user)
  Action.commit
  return pair

/-- Starts a session; an unknown address and a wrong password are refused alike. -/
def login (issuer : Issuer) (hasher : Hasher) (email password : String) : Action Pair := do
  let email := normalizeEmail email
  Action.begin
  let found ← Action.store (.findUserByEmail email)
  let user ← Action.orFail .invalidCredential found
  Action.require (hasher.verify password user.passwordHash) .invalidCredential
  renew issuer user

/-- Exchanges the honoured refresh token for a new pair. -/
def refresh (issuer : Issuer) (token : String) : Action Pair := do
  let now ← Action.perform Program.readClock
  let claims ← Action.orFail .invalidToken (issuer.validate now token .refresh)
  Action.begin
  let found ← Action.store (.findUser claims.sub)
  let user ← Action.orFail .invalidToken found
  Action.require (user.refreshFingerprint.any (Token.fingerprintMatches token)) .invalidToken
  renew issuer user

end Roster.Service.Credentials
