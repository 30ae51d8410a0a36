/-
This file defines sessions: a system together with what its observers count and print.
-/

import Chip8.Logger
import Chip8.Picture
import Chip8.Rom
import Chip8.Statistics
import Chip8.System

namespace Chip8

/-- This is a message of a system, which is printed if its level allows. -/
structure Message where
  level : Level
  text : String
deriving DecidableEq, Repr

/-- This is the message of a failed step. -/
def StepEvent.warning? (event : StepEvent) (policy : ErrorPolicy) : Option Message :=
  event.outcome.fault?.map fun fault =>
    { level := .warning
      text := fault.name ++ " at " ++ Text.paddedHex 3 event.pc.toNat ++ ": " ++ fault.message ++
        " (" ++ policy.name ++ ")" }

/-- This is the line of a step in a trace, with the registers after the step. -/
def StepEvent.traceText (event : StepEvent) (machine : Machine) : String :=
  let registers := machine.registers.toList.map fun value => Text.paddedHex 2 value.toNat
  let fault :=
    match event.outcome.fault? with
    | some fault => " ! " ++ fault.message
    | none => ""
  Text.paddedHex 3 event.pc.toNat ++ "  " ++ Text.padRight 18 (event.mnemonic?.getD "-") ++ " " ++
    Text.padRight 8 event.status.name ++ " I=" ++ Text.paddedHex 3 machine.index.toNat ++ " V=[" ++
    " ".intercalate registers ++ "]" ++ fault

/-- This is a system with its observers. -/
structure Session where
  system : System
  statistics : Statistics
  /-- This is the time in seconds at which the session started. -/
  started : Binary64
  /-- This is what was printed so far. -/
  printed : Array Printed

namespace Session

/-- This is the logger of the messages of a system. -/
def logger (session : Session) : Logger where
  name := Logger.defaultName
  level := session.system.config.logLevel
  coloured := false
  timestamps := true
  started := session.started

/-- This is the logger of traces, which writes at every level. -/
def traceLogger (session : Session) : Logger where
  name :=
    if session.system.config.logLevel = .debug then Logger.defaultName
    else Logger.defaultName ++ ".trace"
  level := .debug
  coloured := false
  timestamps := true
  started := session.started

def create (config : Config) (clock : Binary64) : Except Error Session := do
  let system ← System.create config
  return { system, statistics := .empty, started := clock, printed := #[] }

/-- This prints a message through a logger, if the level of the logger allows. -/
def print (session : Session) (logger : Logger) (clock : Binary64) (message : Message) : Session :=
  match logger.line? clock message.level message.text with
  | some line => { session with printed := session.printed.push line }
  | none => session

/-- This prints a message at a level. -/
def log (session : Session) (clock : Binary64) (level : Level) (text : String) : Session :=
  session.print session.logger clock { level, text }

/-- This prints the message of a failed step. -/
def warn (session : Session) (clock : Binary64) (event : StepEvent) : Session :=
  match event.warning? session.system.config.errorPolicy with
  | some message => session.print session.logger clock message
  | none => session

/-- This counts an event and traces it if traces are asked for. -/
def observe (session : Session) (clock : Binary64) (event : StepEvent) : Session :=
  let counted := { session with statistics := session.statistics.record event }
  if session.system.config.trace then
    counted.print session.traceLogger clock
      { level := .debug, text := event.traceText session.system.machine }
  else counted

/-- This ticks the system; a failed step is warned of before the observers see it. -/
def tick (session : Session) (clock elapsed : Binary64) : Session × Except Error StepEvent :=
  let (system, result) := session.system.tick elapsed
  let ticked := { session with system }
  let warned :=
    match result.event? with
    | some event => ticked.warn clock event
    | none => ticked
  let observed :=
    match result.observed? with
    | some event => warned.observe clock event
    | none => warned
  (observed, result.answer system.config.errorPolicy)

/-- This ticks until the machine halts, but at most so many times, and counts the ticks. -/
def runFrom (clock elapsed : Binary64) (done : Nat) :
    Nat → Session → Session × Except Error Nat
  | 0, session => (session, .ok done)
  | limit + 1, session =>
    if session.system.machine.halted then (session, .ok done)
    else
      match session.tick clock elapsed with
      | (ticked, .error error) => (ticked, .error error)
      | (ticked, .ok _) => runFrom clock elapsed (done + 1) limit ticked

/--
This ticks until the machine halts, but at most `limit` times; a negative limit allows no tick. A
limit beyond all binary64 numbers is refused, because progress is measured in them.
-/
def run (session : Session) (clock : Binary64) (limit : Int) (elapsed : Binary64) :
    Session × Except Error Nat :=
  match Binary64.ofInt? limit with
  | none => (session, .error .limitTooLarge)
  | some _ => runFrom clock elapsed 0 limit.toNat session

/-- This loads a program. -/
def load (session : Session) (clock : Binary64) (program : List UInt8) :
    Session × Except Error Unit :=
  match session.system.load program with
  | .error fault => (session, .error (.fault { fault, address := none }))
  | .ok system =>
    let text := "Loaded " ++ toString program.length ++ " program bytes"
    ({ session with system }.log clock .debug text, .ok ())

/-- This loads the program image of a name. -/
def loadFile (session : Session) (clock : Binary64) (storage : Storage) (name : String) :
    Session × Except Error Unit :=
  match Rom.read storage name with
  | .error error => (session, .error error)
  | .ok program =>
    match session.load clock program with
    | (session, .error error) => (session, .error error)
    | (session, .ok ()) => (session.log clock .info ("Loaded ROM " ++ name), .ok ())

def setKey (session : Session) (key : Int) (pressed : Bool) : Session × Except Error Unit :=
  match session.system.setKey key pressed with
  | .error error => (session, .error error)
  | .ok system => ({ session with system }, .ok ())

/-- This resets the system; the observers keep what they counted and printed. -/
def reset (session : Session) : Session :=
  { session with system := session.system.reset }

def consumeFrame (session : Session) : Session × Display :=
  let (system, frame) := session.system.consumeFrame
  ({ session with system }, frame)

/-- This prints a frame as text. -/
def showFrame (session : Session) (frame : Display) : Session :=
  { session with
    printed := session.printed.push (.frame (frame.text Bitmap.litText Bitmap.unlitText)) }

end Session

end Chip8
