/-
This file defines the arithmetic of binary64 numbers: each operation rounds its exact result once.
-/

import Chip8.Number.Binary64

namespace Chip8.Binary64

/-- This is the number of the opposite sign. -/
def neg : Binary64 → Binary64
  | .nan => .nan
  | .infinity negative => .infinity (!negative)
  | .negativeZero => .finite 0
  | .finite value => if value = 0 then .negativeZero else .finite (-value)

def add : Binary64 → Binary64 → Binary64
  | .nan, _ => .nan
  | _, .nan => .nan
  | .infinity left, .infinity right => if left = right then .infinity left else .nan
  | .infinity left, _ => .infinity left
  | _, .infinity right => .infinity right
  | .negativeZero, .negativeZero => .negativeZero
  | left, right => round (left.real + right.real)

def sub (left right : Binary64) : Binary64 :=
  left.add right.neg

def mul (left right : Binary64) : Binary64 :=
  let negative := left.isNegative != right.isNegative
  match left, right with
  | .nan, _ => .nan
  | _, .nan => .nan
  | .infinity _, _ => if right.isZero then .nan else .infinity negative
  | _, .infinity _ => if left.isZero then .nan else .infinity negative
  | _, _ =>
    if left.isZero || right.isZero then zeroOf negative else round (left.real * right.real)

def div (left right : Binary64) : Binary64 :=
  let negative := left.isNegative != right.isNegative
  match left, right with
  | .nan, _ => .nan
  | _, .nan => .nan
  | .infinity _, .infinity _ => .nan
  | .infinity _, _ => .infinity negative
  | _, .infinity _ => zeroOf negative
  | _, _ =>
    if right.isZero then if left.isZero then .nan else .infinity negative
    else if left.isZero then zeroOf negative
    else round (left.real / right.real)

instance : Neg Binary64 := ⟨neg⟩
instance : Add Binary64 := ⟨add⟩
instance : Sub Binary64 := ⟨sub⟩
instance : Mul Binary64 := ⟨mul⟩
instance : Div Binary64 := ⟨div⟩

/-- This compares two numbers; an undefined number is neither less nor greater than any. -/
def less : Binary64 → Binary64 → Bool
  | .nan, _ => false
  | _, .nan => false
  | .infinity left, .infinity right => left && !right
  | .infinity left, _ => left
  | _, .infinity right => !right
  | left, right => left.real < right.real

/-- This is the first of two numbers unless the second one is greater. -/
def greater (first second : Binary64) : Binary64 :=
  if first.less second then second else first

/-- This is the largest integer that is at most a finite number. -/
def floor : Binary64 → Binary64
  | .finite value => .finite value.floor
  | number => number

/-- This is the exact rest of a number after the whole multiples of a positive finite divisor. -/
def remainder (dividend divisor : Binary64) : Binary64 :=
  match dividend with
  | .finite value => .finite (value - (value / divisor.real).floor * divisor.real)
  | .negativeZero => .negativeZero
  | _ => .nan

/--
This counts the whole multiples of a positive finite divisor in a number that is not negative.
The rest is exact, the difference and the quotient are rounded, and the quotient is moved to the
integer nearest to it.
-/
def wholeQuotient (dividend divisor : Binary64) : Binary64 :=
  let quotient := (dividend - dividend.remainder divisor) / divisor
  let lower := quotient.floor
  if less (.finite (1 / 2)) (quotient - lower) then lower + .finite 1 else lower

end Chip8.Binary64
