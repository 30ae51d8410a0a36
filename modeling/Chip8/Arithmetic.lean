/-
This file defines the nine register operations as exact integer arithmetic with a flag.
-/

namespace Chip8

/-- This is an operation on two registers. -/
inductive Arithmetic where
  | set
  | or
  | and
  | xor
  | add
  | subtract
  | shiftRight
  | subtractFrom
  | shiftLeft
deriving DecidableEq, Repr

namespace Arithmetic

/-- This combines the digits of two integers in two's complement, bit by bit. -/
def bitwise (combine : Bool → Bool → Bool) (first second : Int) : Int :=
  let outer := combine (first < 0) (second < 0)
  let stored (value : Int) : Nat := if value < 0 then (-value - 1).toNat else value.toNat
  let digit (left right : Bool) : Bool :=
    (combine (left != decide (first < 0)) (right != decide (second < 0))) != outer
  let magnitude : Int := Nat.bitwise digit (stored first) (stored second)
  if outer then -magnitude - 1 else magnitude

/-- This is the result of an operation, with the flag of those operations that set one. -/
structure Outcome where
  result : Int
  flag : Option Bool
deriving DecidableEq, Repr

/--
This applies an operation. The flag is the carry of a sum, the absence of a borrow in a
difference and the bit that a shift drops from a byte.
-/
def apply (operation : Arithmetic) (first second : Int) : Outcome :=
  match operation with
  | .set => { result := second, flag := none }
  | .or => { result := bitwise Bool.or first second, flag := none }
  | .and => { result := bitwise Bool.and first second, flag := none }
  | .xor => { result := bitwise Bool.xor first second, flag := none }
  | .add => { result := (first + second) % 256, flag := some (255 < first + second) }
  | .subtract => { result := (first - second) % 256, flag := some (second ≤ first) }
  | .shiftRight => { result := first / 2, flag := some (first % 2 = 1) }
  | .subtractFrom => { result := (second - first) % 256, flag := some (first ≤ second) }
  | .shiftLeft => { result := 2 * first % 256, flag := some (first / 128 % 2 = 1) }

/-- This says that an operation shifts its first operand and has no use for the second. -/
def isShift : Arithmetic → Bool
  | .shiftRight => true
  | .shiftLeft => true
  | _ => false

/-- This is the last digit of the word of an operation. -/
def code : Arithmetic → Fin 16
  | .set => 0
  | .or => 1
  | .and => 2
  | .xor => 3
  | .add => 4
  | .subtract => 5
  | .shiftRight => 6
  | .subtractFrom => 7
  | .shiftLeft => 14

/-- This is the operation of a last digit. -/
def ofCode? : Fin 16 → Option Arithmetic
  | 0 => some .set
  | 1 => some .or
  | 2 => some .and
  | 3 => some .xor
  | 4 => some .add
  | 5 => some .subtract
  | 6 => some .shiftRight
  | 7 => some .subtractFrom
  | 14 => some .shiftLeft
  | _ => none

end Arithmetic

end Chip8
