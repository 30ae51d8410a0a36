/-
This file writes whole numbers in decimal and hexadecimal digits and pads text to a width.
-/

namespace Chip8.Text

/-- This fills a text on its left up to a width. -/
def padLeft (width : Nat) (fill : Char) (text : String) : String :=
  String.ofList (List.replicate (width - text.length) fill) ++ text

/-- This fills a text with blanks on its right up to a width. -/
def padRight (width : Nat) (text : String) : String :=
  text ++ String.ofList (List.replicate (width - text.length) ' ')

/-- This is the last capital hexadecimal digit of a number. -/
def hexDigit (value : Nat) : Char :=
  let digit := value % 16
  if digit < 10 then Char.ofNat (48 + digit) else Char.ofNat (55 + digit)

/-- This writes a number in a base with capital digits, the least significant digit last. -/
def capitalHex (value : Nat) : String :=
  String.ofList ((Nat.toDigits 16 value).map Char.toUpper)

def smallHex (value : Nat) : String :=
  String.ofList (Nat.toDigits 16 value)

/-- This writes at least `width` capital hexadecimal digits. -/
def paddedHex (width value : Nat) : String :=
  padLeft width '0' (capitalHex value)

/-- This writes sign, the mark `0x` and digits, with zeros before the digits up to a width. -/
def markedHex (width : Nat) (value : Int) : String :=
  let lead := if value < 0 then "-0x" else "0x"
  lead ++ padLeft (width - lead.length) '0' (smallHex value.natAbs)

end Chip8.Text
