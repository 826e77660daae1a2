/-
Roster.Password.Cost — what it may cost to hash a password.

Memory is checked first: it must hold eight blocks, and eight for each lane.
-/
import Roster.Hash.Argon2

namespace Roster.Password

open Hash.Argon2 (Cost)

/-- Why a cost is refused. -/
inductive CostFlaw where
  | memoryTooSmall
  | timeTooSmall
  | tooFewLanes
  | tooManyLanes
  deriving DecidableEq, Repr

def CostFlaw.message : CostFlaw → String
  | memoryTooSmall => "memory cost is too small"
  | timeTooSmall => "time cost is too small"
  | tooFewLanes => "not enough threads"
  | tooManyLanes => "too many threads"

/-- The largest number of lanes. -/
def greatestLanes : Nat := 0xFFFFFF

/-- The cost with the given numbers, each below 2^32; the lanes' blocks are counted modulo 2^32. -/
def makeCost (memory passes lanes : Nat) : Except CostFlaw Cost :=
  if memory < 8 ∨ memory < lanes * 8 % 0x100000000 then .error .memoryTooSmall
  else if passes < 1 then .error .timeTooSmall
  else if lanes < 1 then .error .tooFewLanes
  else if lanes > greatestLanes then .error .tooManyLanes
  else .ok ⟨memory, passes, lanes⟩

/-- What hashing costs unless something else is asked for. -/
def defaultCost : Cost := ⟨19456, 2, 1⟩

end Roster.Password
