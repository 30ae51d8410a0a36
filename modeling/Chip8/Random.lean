/-
This file defines the stream of random bytes: the block cipher Threefry on two 32-bit words with
twenty rounds, used as a splittable generator.
-/

namespace Chip8.Random

/-- This is a pair of words, which serves as key and as block. -/
structure Pair where
  first : UInt32
  second : UInt32
deriving DecidableEq, Repr

def rotateLeft (word amount : UInt32) : UInt32 :=
  (word <<< amount) ||| (word >>> (32 - amount))

/-- This is one round: the sum of both words and the rotated second word xor the sum. -/
def mix (block : Pair) (rotation : UInt32) : Pair :=
  let sum := block.first + block.second
  { first := sum, second := rotateLeft block.second rotation ^^^ sum }

/-- These are the rotations of a group of four rounds. -/
def rotations (group : Nat) : List UInt32 :=
  if group % 2 = 0 then [13, 15, 26, 6] else [17, 29, 16, 24]

/-- This is a word of the key schedule; the third word is the parity of the key. -/
def scheduled (key : Pair) (position : Nat) : UInt32 :=
  match position % 3 with
  | 0 => key.first
  | 1 => key.second
  | _ => key.first ^^^ key.second ^^^ 0x1BD11BDA

/-- This is a group of four rounds with the words of the key that are added after it. -/
def roundGroup (key : Pair) (block : Pair) (group : Nat) : Pair :=
  let mixed := (rotations group).foldl mix block
  { first := mixed.first + scheduled key (group + 1)
    second := mixed.second + scheduled key (group + 2) + UInt32.ofNat (group + 1) }

def threefry (key block : Pair) : Pair :=
  (List.range 5).foldl (roundGroup key)
    { first := block.first + scheduled key 0, second := block.second + scheduled key 1 }

/-- This is the key of a seed, of which the low 32 bits count. -/
def ofSeed (seed : Int) : Pair :=
  { first := 0, second := UInt32.ofInt seed }

/-- This is the half of a split key that is kept for later draws. -/
def next (key : Pair) : Pair :=
  threefry key { first := 0, second := 0 }

/-- This is the half of a split key that is spent. -/
def spent (key : Pair) : Pair :=
  threefry key { first := 0, second := 1 }

/-- This is the random byte that a key yields. -/
def byte (key : Pair) : UInt8 :=
  let bits := threefry (spent (spent key)) { first := 0, second := 0 }
  (bits.first ^^^ bits.second).toUInt8

end Chip8.Random
