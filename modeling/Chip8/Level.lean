/-
This file defines the severities of log lines.
-/

namespace Chip8

/-- This is the severity of a log line. -/
inductive Level where
  | debug
  | info
  | warning
  | error
  | critical
deriving DecidableEq, Repr

namespace Level

/-- These are all severities in ascending order. -/
def all : List Level :=
  [.debug, .info, .warning, .error, .critical]

def name : Level → String
  | .debug => "DEBUG"
  | .info => "INFO"
  | .warning => "WARNING"
  | .error => "ERROR"
  | .critical => "CRITICAL"

/-- This is the place of a severity among all of them. -/
def rank : Level → Nat
  | .debug => 0
  | .info => 1
  | .warning => 2
  | .error => 3
  | .critical => 4

/-- This is the severity of a name in capitals. -/
def ofName? (name : String) : Option Level :=
  all.find? fun level => level.name = name

/-- This is the capital of a letter, if that is a plain Latin one; the dotless `i` has one too. -/
def capital (letter : Char) : Char :=
  if letter = 'ı' then 'I' else if letter = 'ſ' then 'S' else letter.toUpper

/-- This writes a text in capitals. -/
def capitals (text : String) : String :=
  String.ofList (text.toList.map capital)

/-- This is the severity of a name in any case. -/
def ofText? (text : String) : Option Level :=
  ofName? (capitals text)

/-- This switches a terminal to the colour of a severity. -/
def colour : Level → String
  | .debug => "\x1b[36m"
  | .info => "\x1b[32m"
  | .warning => "\x1b[33m"
  | .error => "\x1b[31m"
  | .critical => "\x1b[35m"

/-- This switches a terminal back to its usual colour. -/
def plainColour : String := "\x1b[0m"

end Level

end Chip8
