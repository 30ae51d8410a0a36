/-
This file reads numerals: integers and decimals with a sign, surrounding blanks and single
underscores between digits, in the digits of any script.
-/

import Chip8.Number.Binary64
import Chip8.Text.CharacterClass

namespace Chip8.Numeral

open Text

/-- This reads one digit or more, where an underscore may stand between two digits. -/
def digits? : List Char → Option (List Nat)
  | [] => none
  | [last] => (digit? last).map fun value => [value]
  | first :: '_' :: rest => do
    let value ← digit? first
    let values ← digits? rest
    some (value :: values)
  | first :: rest => do
    let value ← digit? first
    let values ← digits? rest
    some (value :: values)

/-- This is the number that digits write, the most significant one first. -/
def ofDigits (digits : List Nat) : Nat :=
  digits.foldl (fun value digit => 10 * value + digit) 0

/-- This takes the sign off a numeral and says whether it is a minus. -/
def splitSign : List Char → Bool × List Char
  | '-' :: rest => (true, rest)
  | '+' :: rest => (false, rest)
  | rest => (false, rest)

def signed (negative : Bool) (magnitude : Nat) : Int :=
  if negative then -magnitude else magnitude

/-- Longer integers are refused. -/
def digitLimit : Nat := 4300

/-- This reads an integer. -/
def integer? (text : String) : Option Int := do
  let (negative, rest) := splitSign (trim text.toList)
  let digits ← digits? rest
  if digits.length ≤ digitLimit then some (signed negative (ofDigits digits)) else none

/-- This is the number nearest to `coefficient * 10 ^ exponent`. -/
def ofDecimal (negative : Bool) (coefficient : Nat) (exponent : Int) : Binary64 :=
  let places := (Nat.toDigits 10 coefficient).length + exponent
  if coefficient = 0 then Binary64.zeroOf negative
  else if 400 < places then .infinity negative
  else if places < -400 then Binary64.zeroOf negative
  else Binary64.round (signed negative coefficient * (10 : Rat) ^ exponent)

/-- This drops underscores, each of which has to stand between two digits. -/
def joinDigits? (previous : Char) : List Char → Option (List Char)
  | [] => some []
  | '_' :: next :: rest =>
    if previous.isDigit && next.isDigit then (joinDigits? next rest).map (next :: ·) else none
  | ['_'] => none
  | next :: rest => (joinDigits? next rest).map (next :: ·)

/-- This reads the exponent of a decimal, which may be missing. -/
def exponent? : List Char → Option Int
  | [] => some 0
  | mark :: rest =>
    if mark = 'e' || mark = 'E' then
      let (negative, digits) := splitSign rest
      if !digits.isEmpty && digits.all Char.isDigit then
        some (signed negative (ofDigits (digits.filterMap digit?)))
      else none
    else none

/-- This reads a decimal without sign: digits with at most one point, and an exponent. -/
def decimal? (negative : Bool) (characters : List Char) : Option Binary64 := do
  let whole := characters.takeWhile Char.isDigit
  let afterWhole := characters.dropWhile Char.isDigit
  let (fraction, tail) :=
    match afterWhole with
    | '.' :: rest => (rest.takeWhile Char.isDigit, rest.dropWhile Char.isDigit)
    | rest => ([], rest)
  let exponent ← exponent? tail
  if whole.isEmpty && fraction.isEmpty then none
  else
    some (ofDecimal negative (ofDigits ((whole ++ fraction).filterMap digit?))
      (exponent - fraction.length))

/-- This reads a decimal, an infinity or an undefined number. -/
def real? (text : String) : Option Binary64 := do
  let plain := (trim text.toList).map fun character =>
    match digit? character with
    | some value => Nat.digitChar value
    | none => character
  let joined ← joinDigits? ' ' plain
  let (negative, rest) := splitSign joined
  let word := String.ofList (rest.map Char.toLower)
  if word = "inf" || word = "infinity" then some (.infinity negative)
  else if word = "nan" then some .nan
  else decimal? negative rest

end Chip8.Numeral
