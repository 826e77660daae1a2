/-
Roster.User — accounts, which an e-mail address identifies.

Addresses are compared and stored in normal form: without white space at the
ends and in lower case. A user holds at most one live refresh token, of which
only the fingerprint is kept.
-/
import Roster.Moment
import Roster.Text.Lowercase
import Roster.Uuid

namespace Roster

/-- The normal form of an address: trimmed and in lower case. -/
def normalizeEmail (email : String) : String := Text.lowercase (Text.trim email)

/-- Who makes a request. -/
structure Identity where
  user : Uuid
  email : String
  deriving DecidableEq

/-- An account. -/
structure User where
  id : Uuid
  name : String
  email : String
  passwordHash : String
  /-- Fingerprint of the one refresh token that is honoured. -/
  refreshFingerprint : Option String
  created : Moment
  /-- How often the account has been saved. -/
  version : Int
  deriving DecidableEq

namespace User

/-- An account that has not been saved yet. -/
def fresh (id : Uuid) (created : Moment) (name email passwordHash : String) : User where
  id
  name
  email := normalizeEmail email
  passwordHash
  refreshFingerprint := none
  created
  version := 0

def identity (u : User) : Identity := ⟨u.id, u.email⟩

/-- Lower case of the address, in which two accounts must differ. -/
def emailKey (u : User) : String := Text.lowercase u.email

end User

end Roster
