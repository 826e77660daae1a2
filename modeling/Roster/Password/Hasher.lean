/-
Roster.Password.Hasher — hashing and checking passwords.

A hasher is any pair of a salted hash and a check. The one here hashes with a
cost of its own, but checks with the settings that the stored text gives, so
that hashes of any cost can be checked.
-/
import Roster.Password.Stored

namespace Roster.Password

open Hash (textBytes)
open Hash.Argon2 (Cost Settings)

/-- A one-way hash and its check. -/
structure Hasher where
  /-- The text to store for a password, or why there is none. -/
  hash : (salt : List UInt8) → (password : String) → Except String String
  /-- Whether a password fits a stored text; a text that makes no sense fits nothing. -/
  verify : (password stored : String) → Bool

/-- The settings under which new passwords are hashed. -/
def settings (cost : Cost) : Settings := ⟨.id, .v19, cost, 32, []⟩

/-- The stored hash of a password. -/
def hash (cost : Cost) (salt : List UInt8) (password : String) : Stored :=
  ⟨settings cost, salt, Hash.Argon2.digest (settings cost) (textBytes password) salt⟩

/-- Whether a password gives the stored digest. -/
def Stored.fits (s : Stored) (password : String) : Bool :=
  Hash.Argon2.digest s.settings (textBytes password) s.salt == s.digest

/-- The hasher of a cost. -/
def hasher (cost : Cost) : Hasher where
  hash salt password := .ok (hash cost salt password).text
  verify password stored := (Stored.ofText? stored).any fun s => s.fits password

end Roster.Password
