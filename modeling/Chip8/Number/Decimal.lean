/-
This file writes binary64 numbers in decimal: with the fewest digits that read back, or with a
fixed count of places.
-/

import Chip8.Number.Binary64
import Chip8.Text.Digits

namespace Chip8.Binary64

/-- This is the greatest `k` for which `10 ^ k` is at most a positive value. -/
def decade (value : Rat) : Int :=
  let estimate := binade value * 30103 / 100000
  if value < (10 : Rat) ^ estimate then estimate - 1
  else if (10 : Rat) ^ (estimate + 1) ≤ value then estimate + 1
  else estimate

/-- This is the decimal `digits * 10 ^ scale`. -/
structure Decimal where
  digits : Nat
  scale : Int
deriving DecidableEq

/--
This is the decimal of a given count of digits that is nearest to a positive value among the two
neighbours which read back as the value, if any does.
-/
def Decimal.ofCount? (value : Rat) (count : Nat) : Option Decimal :=
  let scale := decade value + 1 - count
  let unit := (10 : Rat) ^ scale
  let lower := (value / unit).floor
  let readsBack (candidate : Int) : Bool := round (candidate * unit) = .finite value
  let chosen :=
    match readsBack lower, readsBack (lower + 1) with
    | true, true => some (nearestEven (value / unit))
    | true, false => some lower
    | false, true => some (lower + 1)
    | false, false => none
  chosen.map fun digits => { digits := digits.toNat, scale }

/-- This is a decimal with the fewest digits that read back; seventeen are always enough. -/
def Decimal.shortest (value : Rat) : Decimal :=
  ((List.range 17).findSome? fun count => ofCount? value (count + 1)).getD
    { digits := 0, scale := 0 }

/-- This says how a shortest decimal is laid out. -/
structure DecimalStyle where
  leastPositional : Int
  firstScientific : Int
  exponentWidth : Nat

/-- Numbers in messages are positional from `0.0001` up to sixteen places before the point. -/
def messageStyle : DecimalStyle :=
  { leastPositional := -4, firstScientific := 16, exponentWidth := 2 }

/-- This writes a decimal; positional text always has a point. -/
def Decimal.text (decimal : Decimal) (style : DecimalStyle) : String :=
  let written := Nat.toDigits 10 decimal.digits
  let significant := (written.reverse.dropWhile (· = '0')).reverse
  let exponent := decimal.scale + written.length - 1
  if style.leastPositional ≤ exponent ∧ exponent < style.firstScientific then
    if exponent < 0 then
      "0." ++ String.ofList (List.replicate (-exponent - 1).toNat '0' ++ significant)
    else
      let places := exponent.toNat + 1
      let whole := significant.take places
      let fraction := significant.drop places
      String.ofList (whole ++ List.replicate (places - whole.length) '0') ++ "." ++
        (if fraction.isEmpty then "0" else String.ofList fraction)
  else
    let sign := if exponent < 0 then "-" else "+"
    let tail := significant.drop 1
    String.ofList (significant.take 1) ++
      (if tail.isEmpty then "" else "." ++ String.ofList tail) ++
      "e" ++ sign ++ Text.padLeft style.exponentWidth '0' (toString exponent.natAbs)

/-- This writes a number with the fewest digits that read back. -/
def text (number : Binary64) : String :=
  match number with
  | .nan => "nan"
  | .infinity negative => if negative then "-inf" else "inf"
  | .negativeZero => "-0.0"
  | .finite value =>
    if value = 0 then "0.0"
    else if value < 0 then "-" ++ (Decimal.shortest (-value)).text messageStyle
    else (Decimal.shortest value).text messageStyle

/-- This writes a number with two places, where an exact half goes to the even neighbour. -/
def hundredths (number : Binary64) : String :=
  match number with
  | .nan => "nan"
  | .infinity negative => if negative then "-inf" else "inf"
  | _ =>
    let count := (nearestEven (number.real.abs * 100)).toNat
    (if number.isNegative then "-" else "") ++ toString (count / 100) ++ "." ++
      Text.padLeft 2 '0' (toString (count % 100))

end Chip8.Binary64
