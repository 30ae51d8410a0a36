/-
This file splits text into lines.
-/

namespace Chip8.Text

/-- This says that a character ends a line. -/
def isBreak (character : Char) : Bool :=
  let code := character.toNat
  (0xA ≤ code && code ≤ 0xD) || (0x1C ≤ code && code ≤ 0x1E) || code = 0x85 || code = 0x2028 ||
    code = 0x2029

/-- A carriage return and a line feed behind it are one break. -/
def joinBreaks : List Char → List Char
  | '\r' :: '\n' :: rest => '\n' :: joinBreaks rest
  | character :: rest => character :: joinBreaks rest
  | [] => []

/-- This puts a character in front of the first line. -/
def extendFirst (character : Char) : List (List Char) → List (List Char)
  | [] => [[character]]
  | line :: rest => (character :: line) :: rest

/-- These are the lines of a text without their breaks; a break at the end starts no line. -/
def linesOf : List Char → List (List Char)
  | [] => []
  | character :: rest =>
    if isBreak character then [] :: linesOf rest else extendFirst character (linesOf rest)

def lines (text : String) : List String :=
  (linesOf (joinBreaks text.toList)).map String.ofList

end Chip8.Text
