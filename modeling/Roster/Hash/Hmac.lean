/-
Roster.Hash.Hmac — keyed hashing by the HMAC construction.

A key longer than a block is hashed first, and every key is filled up with
zeros to a whole block. The message is hashed behind the key with one mask, and
that hash behind the key with another.
-/
import Roster.Hash.Sha2

namespace Roster.Hash

/-- The key as exactly one block. -/
def hmacKey (hash : List UInt8 → List UInt8) (block : Nat) (key : List UInt8) : List UInt8 :=
  let short := if block < key.length then hash key else key
  short ++ List.replicate (block - short.length) 0

/-- The keyed hash of a message, over a hash function with the given block size. -/
def hmac (hash : List UInt8 → List UInt8) (block : Nat) (key message : List UInt8) :
    List UInt8 :=
  let key := hmacKey hash block key
  let masked (mask : UInt8) := key.map (· ^^^ mask)
  hash (masked 0x5C ++ hash (masked 0x36 ++ message))

/-- The 64-byte keyed hash. -/
def hmacSha512 (key message : List UInt8) : List UInt8 :=
  hmac sha512 (Sha2.blockSize UInt64) key message

/-- The 48-byte keyed hash. -/
def hmacSha384 (key message : List UInt8) : List UInt8 :=
  hmac sha384 (Sha2.blockSize UInt64) key message

/-- The 32-byte keyed hash. -/
def hmacSha256 (key message : List UInt8) : List UInt8 :=
  hmac sha256 (Sha2.blockSize UInt32) key message

end Roster.Hash
