/-
This file writes log lines and leaves out those that are less severe than a level.
-/

import Chip8.Error
import Chip8.Number.Arithmetic
import Chip8.Text.Lines

namespace Chip8

/-- This is a part of the output. -/
inductive Printed where
  /-- This is the line of a logger, with the name of the logger and the severity of the line. -/
  | line (logger : String) (level : Level) (text : String)
  /-- This is a frame as text. -/
  | frame (text : String)
deriving DecidableEq, Repr

namespace Printed

def text : Printed → String
  | .line _ _ text => text
  | .frame text => text

/-- These are the lines of a part of the output, which is printed with a line break behind it. -/
def lines (printed : Printed) : List String :=
  Text.lines (printed.text ++ "\n")

end Printed

/-- This is a source of log lines. -/
structure Logger where
  name : String
  level : Level
  coloured : Bool
  timestamps : Bool
  /-- This is the time in seconds from which the times of lines count. -/
  started : Binary64

namespace Logger

/-- This is the name of a logger that is given none. -/
def defaultName : String := "Octick"

/-- This creates a logger whose level is named in any case. -/
def create (name levelName : String) (coloured timestamps : Bool) (started : Binary64) :
    Except Error Logger :=
  match Level.ofText? levelName with
  | some level => .ok { name, level, coloured, timestamps, started }
  | none => .error (.unknownLevel levelName)

/-- This says that lines of a severity are written. -/
def admits (logger : Logger) (level : Level) : Bool :=
  logger.level.rank ≤ level.rank

/-- This is the text of a line at a time. -/
def format (logger : Logger) (clock : Binary64) (level : Level) (message : String) : String :=
  let time :=
    if logger.timestamps then
      "[" ++ Text.padLeft 8 ' ' (clock - logger.started).hundredths ++ "s]"
    else ""
  let mark := "[" ++ Text.padLeft 8 ' ' level.name ++ "]"
  let mark := if logger.coloured then level.colour ++ mark ++ Level.plainColour else mark
  time ++ mark ++ "[" ++ logger.name ++ "] " ++ message

/-- This is the line of a message, if it is severe enough. -/
def line? (logger : Logger) (clock : Binary64) (level : Level) (message : String) :
    Option Printed :=
  if logger.admits level then some (.line logger.name level (logger.format clock level message))
  else none

/-- This is the line of a message whose severity is named in any case. -/
def lineAt (logger : Logger) (clock : Binary64) (levelName message : String) :
    Except Error (Option Printed) :=
  match Level.ofText? levelName with
  | some level => .ok (logger.line? clock level message)
  | none => .error .unlistedLevel

end Logger

end Chip8
