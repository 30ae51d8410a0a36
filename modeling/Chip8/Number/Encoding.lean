/-
This file encodes binary64 numbers as 64 bits: sign, biased exponent and fraction.
-/

import Chip8.Number.Binary64

namespace Chip8.Binary64

/-- This encodes the exponent and the fraction of a finite value that is not negative. -/
def magnitudeBits (value : Rat) : Nat :=
  if value = 0 then 0
  else
    let significand := (value / spacing value).floor.toNat
    let steps := (gridExponent value + 1074).toNat
    steps * 4503599627370496 + significand

/-- This encodes a number; an undefined number has the quiet pattern. -/
def toBits : Binary64 → UInt64
  | .nan => 0x7FF8000000000000
  | .infinity negative => if negative then 0xFFF0000000000000 else 0x7FF0000000000000
  | .negativeZero => 0x8000000000000000
  | .finite value =>
    if value < 0 then 0x8000000000000000 ||| UInt64.ofNat (magnitudeBits (-value))
    else UInt64.ofNat (magnitudeBits value)

end Chip8.Binary64
