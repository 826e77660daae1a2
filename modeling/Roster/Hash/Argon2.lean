/-
Roster.Hash.Argon2 — the memory-hard password hash Argon2.

A memory of 1024-byte blocks is laid out in lanes of four slices each. Every
block is made from its predecessor and one other block of the memory; which one
is told by the predecessor's content (`d`), by a counter (`i`), or by the
counter in the first half of the first pass and the content later (`id`). The
digest is taken from the sum of the last blocks of all lanes.
-/
import Roster.Hash.Blake2b

namespace Roster.Hash.Argon2

/-- How the second block is chosen. -/
inductive Kind where
  | d
  | i
  | id
  deriving DecidableEq, Repr

namespace Kind

/-- The number of a kind inside the hash. -/
def code : Kind → Nat
  | d => 0
  | i => 1
  | id => 2

/-- The name of a kind in a stored hash. -/
def name : Kind → String
  | d => "argon2d"
  | i => "argon2i"
  | id => "argon2id"

def all : List Kind := [d, i, id]

def ofName? (text : String) : Option Kind := all.find? fun k => k.name == text

@[simp]
theorem ofName?_name (k : Kind) : ofName? k.name = some k := by cases k <;> decide

end Kind

/-- The two versions; only the later one adds to blocks that it overwrites. -/
inductive Version where
  | v16
  | v19
  deriving DecidableEq, Repr

namespace Version

def code : Version → Nat
  | v16 => 16
  | v19 => 19

def ofCode? (n : Nat) : Option Version :=
  if n = 16 then some v16 else if n = 19 then some v19 else none

@[simp]
theorem ofCode?_code (v : Version) : ofCode? v.code = some v := by cases v <;> rfl

end Version

/-- What a hash costs: memory in KiB, passes over it, and lanes. -/
structure Cost where
  memory : Nat
  passes : Nat
  lanes : Nat
  deriving DecidableEq, Repr

/-- All that a hash is computed from, apart from password and salt. -/
structure Settings where
  kind : Kind
  version : Version
  cost : Cost
  /-- Bytes in the digest. -/
  size : Nat
  /-- Bytes that are hashed along with password and salt. -/
  data : List UInt8
  deriving DecidableEq, Repr

namespace Cost

/-- Blocks in a slice of a lane. -/
def sliceLength (c : Cost) : Nat := c.memory / (4 * c.lanes)

/-- Blocks in a lane. -/
def laneLength (c : Cost) : Nat := 4 * c.sliceLength

/-- Blocks in the whole memory. -/
def blocks (c : Cost) : Nat := c.laneLength * c.lanes

end Cost

/-! ## Blocks -/

/-- A block is 128 words. -/
abbrev Block := Array UInt64

def zeroBlock : Block := Array.replicate 128 0

def Block.ofBytes (bytes : List UInt8) : Block :=
  ((pieces 7 bytes).map fun p => UInt64.ofNat (littleEndian p)).toArray

def Block.toBytes (b : Block) : List UInt8 := b.toList.flatMap fun w => littleBytes 8 w.toNat

/-- Word by word exclusive or. -/
def Block.xor (a b : Block) : Block := Array.zipWith (· ^^^ ·) a b

/-- The sum of two words and twice the product of their lower halves. -/
def addProduct (a b : UInt64) : UInt64 :=
  a + b + 2 * (a &&& 0xFFFFFFFF) * (b &&& 0xFFFFFFFF)

/-- Mixes four words of a block. -/
def mix (v : Block) (i j k l : Nat) : Block :=
  let a := v.getD i 0
  let b := v.getD j 0
  let c := v.getD k 0
  let d := v.getD l 0
  let a := addProduct a b
  let d := Sha2.rotate64 (d ^^^ a) 32
  let c := addProduct c d
  let b := Sha2.rotate64 (b ^^^ c) 24
  let a := addProduct a b
  let d := Sha2.rotate64 (d ^^^ a) 16
  let c := addProduct c d
  let b := Sha2.rotate64 (b ^^^ c) 63
  (((v.setIfInBounds i a).setIfInBounds j b).setIfInBounds k c).setIfInBounds l d

/-- One round over the sixteen words at the given places. -/
def permute (v : Block) (place : Nat → Nat) : Block :=
  Blake2b.quarters.foldl
    (fun v (i, j, k, l) => mix v (place i) (place j) (place k) (place l)) v

/-- The block that two blocks are compressed to: rounds over all rows, then over all columns. -/
def compress (x y : Block) : Block :=
  let r := x.xor y
  let rows := (List.range 8).foldl (fun v n => permute v fun i => 16 * n + i) r
  let columns := (List.range 8).foldl
    (fun v n => permute v fun i => 2 * n + 16 * (i / 2) + i % 2) rows
  columns.xor r

/-! ## Hashing to any length -/

/-- Chains 64-byte digests, of which all but the last give their front half. -/
def longTail (left : Nat) (v : List UInt8) : List UInt8 :=
  if left ≤ 64 then Blake2b.digest left v
  else
    let v := Blake2b.digest 64 v
    v.take 32 ++ longTail (left - 32) v
termination_by left

/-- A digest of any length. -/
def longDigest (size : Nat) (message : List UInt8) : List UInt8 :=
  longTail size (littleBytes 4 size ++ message)

/-- A byte string behind its length. -/
def counted (bytes : List UInt8) : List UInt8 := littleBytes 4 bytes.length ++ bytes

/-- The digest of all inputs, from which the first two blocks of each lane are made. -/
def seed (s : Settings) (password salt : List UInt8) : List UInt8 :=
  let numbers := [s.cost.lanes, s.size, s.cost.memory, s.cost.passes, s.version.code, s.kind.code]
  Blake2b.digest 64
    (numbers.flatMap (littleBytes 4) ++ counted password ++ counted salt ++ counted [] ++
      counted s.data)

/-! ## Filling the memory -/

/-- A place in the filling order. -/
structure Place where
  pass : Nat
  slice : Nat
  lane : Nat
  deriving DecidableEq, Repr

/-- Whether blocks at this place are chosen by the counter. -/
def isCounted (s : Settings) (p : Place) : Bool :=
  match s.kind with
  | .d => false
  | .i => true
  | .id => p.pass = 0 && p.slice < 2

/-- The `counter`-th block of 128 choices for a place. -/
def choices (s : Settings) (p : Place) (counter : Nat) : Block :=
  let head := [p.pass, p.lane, p.slice, s.cost.blocks, s.cost.passes, s.kind.code, counter]
  let input := (head.map UInt64.ofNat ++ List.replicate 121 0).toArray
  compress zeroBlock (compress zeroBlock input)

/-- The memory index of the block that is mixed in, told by a pseudo-random word. -/
def reference (s : Settings) (p : Place) (index : Nat) (word : UInt64) : Nat :=
  let low := word.toNat % 0x100000000
  let high := word.toNat / 0x100000000
  let slice := s.cost.sliceLength
  let length := s.cost.laneLength
  let lane := if p.pass = 0 ∧ p.slice = 0 then p.lane else high % s.cost.lanes
  let sameLane := lane = p.lane
  let finished := if p.pass = 0 then p.slice * slice else length - slice
  let area :=
    if p.pass = 0 ∧ p.slice = 0 then index - 1
    else if sameLane then finished + index - 1
    else if index = 0 then finished - 1
    else finished
  let x := low * low / 0x100000000
  let back := area - 1 - area * x / 0x100000000
  let first := if p.pass = 0 ∨ p.slice = 3 then 0 else (p.slice + 1) * slice
  lane * length + (first + back) % length

/-- Makes the block at `index` of a slice; `choice` holds the current choices by counter. -/
def fillOne (s : Settings) (p : Place) (memory : Array Block) (choice : Block) (index : Nat) :
    Array Block :=
  let length := s.cost.laneLength
  let column := p.slice * s.cost.sliceLength + index
  let current := p.lane * length + column
  let previous :=
    memory.getD (p.lane * length + (if column = 0 then length - 1 else column - 1)) zeroBlock
  let word := if isCounted s p then choice.getD (index % 128) 0 else previous.getD 0 0
  let made := compress previous (memory.getD (reference s p index word) zeroBlock)
  let made :=
    if p.pass = 0 ∨ s.version = .v16 then made else made.xor (memory.getD current zeroBlock)
  memory.setIfInBounds current made

/-- Makes the blocks of a slice from `index` on, `steps` of them. -/
def fillFrom (s : Settings) (p : Place) (memory : Array Block) (choice : Block) (index : Nat) :
    Nat → Array Block
  | 0 => memory
  | steps + 1 =>
    let choice :=
      if isCounted s p ∧ index % 128 = 0 then choices s p (index / 128 + 1) else choice
    fillFrom s p (fillOne s p memory choice index) choice (index + 1) steps

/-- Fills one slice of one lane. The first two blocks of a lane stand already in the first pass. -/
def fillSlice (s : Settings) (memory : Array Block) (p : Place) : Array Block :=
  let skip := if p.pass = 0 ∧ p.slice = 0 then 2 else 0
  let choice := if isCounted s p then choices s p 1 else zeroBlock
  fillFrom s p memory choice skip (s.cost.sliceLength - skip)

/-- The places of all passes in filling order. -/
def places (c : Cost) : List Place :=
  (List.range c.passes).flatMap fun pass =>
    (List.range 4).flatMap fun slice =>
      (List.range c.lanes).map fun lane => ⟨pass, slice, lane⟩

/-- The memory before the first pass. -/
def initial (s : Settings) (seed : List UInt8) : Array Block :=
  (List.range s.cost.lanes).foldl
    (fun memory lane =>
      [0, 1].foldl
        (fun memory n =>
          memory.setIfInBounds (lane * s.cost.laneLength + n)
            (Block.ofBytes (longDigest 1024 (seed ++ littleBytes 4 n ++ littleBytes 4 lane))))
        memory)
    (Array.replicate s.cost.blocks zeroBlock)

/-- The hash of a password under a salt. -/
def digest (s : Settings) (password salt : List UInt8) : List UInt8 :=
  let memory := (places s.cost).foldl (fillSlice s) (initial s (seed s password salt))
  let length := s.cost.laneLength
  let last := (List.range s.cost.lanes).foldl
    (fun sum lane => sum.xor (memory.getD (lane * length + length - 1) zeroBlock)) zeroBlock
  longDigest s.size last.toBytes

end Roster.Hash.Argon2
