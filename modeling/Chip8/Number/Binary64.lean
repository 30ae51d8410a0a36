/-
This file defines binary64 numbers by their exact value, and the rounding that every operation ends
with.
-/

namespace Chip8

/-- This is a binary64 number. A finite one is its exact value, and only zero has a sign apart. -/
inductive Binary64 where
  | nan
  | infinity (negative : Bool)
  | negativeZero
  | finite (value : Rat)
deriving DecidableEq

namespace Binary64

instance : Inhabited Binary64 := ⟨.finite 0⟩

/-- This is the integer nearest to a rational, where a half goes to the even neighbour. -/
def nearestEven (value : Rat) : Int :=
  let lower := value.floor
  let rest := value - lower
  if rest < 1 / 2 then lower
  else if 1 / 2 < rest then lower + 1
  else if lower % 2 = 0 then lower
  else lower + 1

/-- This is the greatest `k` for which `2 ^ k` is at most a positive value. -/
def binade (value : Rat) : Int :=
  let estimate : Int := Nat.log2 value.num.natAbs - Nat.log2 value.den
  if (2 : Rat) ^ estimate ≤ value then estimate else estimate - 1

/-- This is the exponent of the grid of numbers around a positive value; the least is `-1074`. -/
def gridExponent (value : Rat) : Int :=
  max (binade value - 52) (-1074)

/-- This is the distance between neighbouring numbers around a positive value. -/
def spacing (value : Rat) : Rat :=
  (2 : Rat) ^ gridExponent value

/-- This is the first power of two that is too large for a finite number. -/
def overflowBound : Rat :=
  (2 : Rat) ^ (1024 : Int)

/-- This is the zero of a sign. -/
def zeroOf (negative : Bool) : Binary64 :=
  if negative then .negativeZero else .finite 0

/-- This rounds an exact value to the nearest number, with ties to the even significand. -/
def round (value : Rat) : Binary64 :=
  if value = 0 then .finite 0
  else
    let unit := spacing value.abs
    let rounded := nearestEven (value / unit) * unit
    if overflowBound ≤ rounded.abs then .infinity (value < 0)
    else if rounded = 0 then zeroOf (value < 0)
    else .finite rounded

/-- This is the exact value of a number, with zero for the numbers that are not finite. -/
def real : Binary64 → Rat
  | .finite value => value
  | _ => 0

/-- This says that a number is neither infinite nor undefined. -/
def isFinite : Binary64 → Bool
  | .finite _ => true
  | .negativeZero => true
  | _ => false

/-- This is the sign of a number, which both zeros and both infinities have. -/
def isNegative : Binary64 → Bool
  | .nan => false
  | .infinity negative => negative
  | .negativeZero => true
  | .finite value => value < 0

/-- This says that a number is one of the two zeros. -/
def isZero : Binary64 → Bool
  | .negativeZero => true
  | .finite value => value = 0
  | _ => false

/-- This is the number nearest to an integer, if the integer is in range. -/
def ofInt? (value : Int) : Option Binary64 :=
  match round value with
  | .infinity _ => none
  | number => some number

/-- This drops the fraction of a finite number. -/
def toInt? : Binary64 → Option Int
  | .finite value => some (if value < 0 then -(-value).floor else value.floor)
  | .negativeZero => some 0
  | _ => none

end Binary64

end Chip8
