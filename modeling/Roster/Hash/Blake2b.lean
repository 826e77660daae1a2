/-
Roster.Hash.Blake2b — the BLAKE2b hash function, without a key.

The state is eight words; each block of 128 bytes is mixed into it by twelve
rounds over sixteen words. A digest has any length from 1 to 64 bytes, and the
length enters the hash.
-/
import Roster.Hash.Sha2

namespace Roster.Hash.Blake2b

/-- The words that the state starts from; they are those of SHA-512. -/
def start : List UInt64 :=
  let c := Sha2.start512
  [c.a, c.b, c.c, c.d, c.e, c.f, c.g, c.h]

/-- The order in which each of ten rounds takes the words of the block. -/
def schedule : List (List Nat) :=
  [[0, 1, 2, 3, 4, 5, 6, 7, 8, 9, 10, 11, 12, 13, 14, 15],
    [14, 10, 4, 8, 9, 15, 13, 6, 1, 12, 0, 2, 11, 7, 5, 3],
    [11, 8, 12, 0, 5, 2, 15, 13, 10, 14, 3, 6, 7, 1, 9, 4],
    [7, 9, 3, 1, 13, 12, 11, 14, 2, 6, 5, 10, 4, 0, 15, 8],
    [9, 0, 5, 7, 2, 4, 10, 15, 14, 1, 11, 12, 6, 8, 3, 13],
    [2, 12, 6, 10, 0, 11, 8, 3, 4, 13, 7, 5, 15, 14, 1, 9],
    [12, 5, 1, 15, 14, 13, 4, 10, 0, 7, 6, 3, 9, 2, 8, 11],
    [13, 11, 7, 14, 12, 1, 3, 9, 5, 0, 15, 4, 8, 6, 2, 10],
    [6, 15, 14, 9, 11, 3, 0, 8, 12, 2, 13, 7, 1, 4, 10, 5],
    [10, 2, 8, 4, 7, 6, 1, 5, 15, 11, 9, 14, 3, 12, 13, 0]]

/-- The four places that each of the eight mixing steps of a round works on. -/
def quarters : List (Nat × Nat × Nat × Nat) :=
  [(0, 4, 8, 12), (1, 5, 9, 13), (2, 6, 10, 14), (3, 7, 11, 15),
    (0, 5, 10, 15), (1, 6, 11, 12), (2, 7, 8, 13), (3, 4, 9, 14)]

/-- Mixes two words of the block into four words of the state. -/
def mix (v : Array UInt64) (at4 : Nat × Nat × Nat × Nat) (x y : UInt64) : Array UInt64 :=
  let (i, j, k, l) := at4
  let a := v.getD i 0
  let b := v.getD j 0
  let c := v.getD k 0
  let d := v.getD l 0
  let a := a + b + x
  let d := Sha2.rotate64 (d ^^^ a) 32
  let c := c + d
  let b := Sha2.rotate64 (b ^^^ c) 24
  let a := a + b + y
  let d := Sha2.rotate64 (d ^^^ a) 16
  let c := c + d
  let b := Sha2.rotate64 (b ^^^ c) 63
  (((v.setIfInBounds i a).setIfInBounds j b).setIfInBounds k c).setIfInBounds l d

/-- The mixing steps of one round, which take the block's words two by two. -/
def mixAll (words : Array UInt64) (v : Array UInt64) :
    List (Nat × Nat × Nat × Nat) → List Nat → Array UInt64
  | at4 :: rest, x :: y :: order =>
    mixAll words (mix v at4 (words.getD x 0) (words.getD y 0)) rest order
  | _, _ => v

/--
Takes a block of 128 bytes into the state; `count` is the number of message
bytes up to its end, and `final` marks the last block.
-/
def compress (h : List UInt64) (block : List UInt8) (count : Nat) (final : Bool) :
    List UInt64 :=
  let words := ((pieces 7 block).map fun p => UInt64.ofNat (littleEndian p)).toArray
  let marks : List UInt64 :=
    [0, 0, 0, 0, UInt64.ofNat count, UInt64.ofNat (count / 0x10000000000000000),
      if final then ~~~0 else 0, 0]
  let v := (h ++ List.zipWith (· ^^^ ·) start marks).toArray
  let v := (schedule ++ schedule.take 2).foldl (fun v order => mixAll words v quarters order) v
  List.zipWith (· ^^^ ·) h (List.zipWith (· ^^^ ·) (v.toList.take 8) (v.toList.drop 8))

/-- Takes the blocks of a message into the state; the last one is filled up with zeros. -/
def absorb (h : List UInt64) (count : Nat) : List (List UInt8) → List UInt64
  | [] => compress h (List.replicate 128 0) count true
  | [last] =>
    compress h (last ++ List.replicate (128 - last.length) 0) (count + last.length) true
  | block :: next :: rest =>
    absorb (compress h block (count + 128) false) (count + 128) (next :: rest)

/-- The digest of `size` bytes. -/
def digest (size : Nat) (message : List UInt8) : List UInt8 :=
  let parameters : UInt64 := 0x01010000 ^^^ UInt64.ofNat size
  let h := List.zipWith (· ^^^ ·) start (parameters :: List.replicate 7 0)
  ((absorb h 0 (pieces 127 message)).flatMap fun w => littleBytes 8 w.toNat).take size

end Roster.Hash.Blake2b
