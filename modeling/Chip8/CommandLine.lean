/-
This file runs programs as the command line asks.
-/

import Chip8.CommandLine.Arguments
import Chip8.Config.Reading
import Chip8.Session
import Chip8.Snapshot

namespace Chip8.CommandLine

/-- This is the name of the program in its messages. -/
def programName : String := "octick"

/-- This says how a run ended. -/
inductive Ending where
  | exit (status : Nat)
  /-- The arguments were refused. -/
  | refused (error : UsageError)
  /-- Help was asked for. -/
  | helped
  /-- An error that the program does not handle. -/
  | failed (error : Error)
deriving DecidableEq

/-- This is a finished run with its output. -/
structure Run where
  ending : Ending
  /-- This is the standard output. -/
  printed : Array Printed
  /-- This is the complaint on the standard error, if there is one. -/
  complaint : Option String
  snapshot : Option Snapshot

namespace Run

/-- This is a run that ended without printing a line. -/
def silent (ending : Ending) : Run where
  ending := ending
  printed := #[]
  complaint := none
  snapshot := none

/-- This is a run that ended with a complaint. -/
def complain (ending : Ending) (text : String) : Run :=
  { silent ending with complaint := some (programName ++ ": " ++ text) }

/-- This is a run that ended after a session. -/
def after (session : Session) (ending : Ending) (snapshot : Option Snapshot) : Run where
  ending := ending
  printed := session.printed
  complaint := none
  snapshot := snapshot

/-- This is the status that the operating system is told. -/
def exitStatus (run : Run) : Nat :=
  match run.ending with
  | .exit status => status
  | .refused _ => 2
  | .helped => 0
  | .failed _ => 1

end Run

/-- This is the setting that the value of an option stands for; a cleared option has no value. -/
def settingOf {α : Type} (setting : α → Setting) (value : Option α) : Setting :=
  (value.map setting).getD .composite

/-- This is the name of the level at which a run logs; a trace is written at every level. -/
def Options.levelName (options : Options) : Except Error String :=
  if options.trace then .ok Level.debug.name
  else
    match options.logLevel with
    | some name => .ok (Level.capitals name)
    | none => .error .levelCleared

/-- These are the settings that options stand for. -/
def Options.settings (options : Options) (levelName : String) : Settings where
  entries :=
    [("delay_timer", settingOf .integer options.delayTimer),
      ("sound_timer", settingOf .integer options.soundTimer),
      ("error_policy", settingOf .text (options.errorPolicy.map ErrorPolicy.name)),
      ("modern_mode", .flag (!options.legacy)), ("seed", settingOf .integer options.seed),
      ("log_level", .text levelName), ("trace", .flag options.trace)]

/-- This is the time of a tick in milliseconds at a rate of ticks in a second. -/
def elapsedAt (rate : Binary64) : Binary64 :=
  .finite 1000 / rate

/-- This is the name of an error in the log, if the program handles it. -/
def handled? : Error → Option String
  | .fault located => some located.fault.name
  | .rom error => some error.name
  | _ => none

/-- This ends a run with an error: a handled one is logged. -/
def Run.stop (session : Session) (clock : Binary64) (error : Error) : Run :=
  match handled? error with
  | some name => .after (session.log clock .error (name ++ ": " ++ error.message)) (.exit 1) none
  | none => .after session (.failed error) none

/-- This is the report of a run. -/
def report (session : Session) (ticks : Nat) : String :=
  let halted := if session.system.machine.halted then "True" else "False"
  "Ran " ++ toString ticks ++ " ticks, halted=" ++ halted ++ ", stats=" ++ session.statistics.text

/-- This reports a run and shows the last frame. -/
def present (session : Session) (clock : Binary64) (options : Options) (storage : Storage)
    (ticks : Nat) : Run :=
  let reported := session.log clock .info (report session ticks)
  let (taken, frame) := reported.consumeFrame
  let shown := if options.ascii then taken.showFrame frame else taken
  match options.snapshot with
  | none => .after shown (.exit 0) none
  | some name =>
    if name = "" then .after shown (.exit 0) none
    else
      match Snapshot.take storage name frame with
      | .error error => .after shown (.failed error) none
      | .ok snapshot =>
        .after (shown.log clock .info ("Saved frame to " ++ name)) (.exit 0) (some snapshot)

/-- This loads a program and runs it in a new session. -/
def play (session : Session) (clock : Binary64) (rom : String) (elapsed : Binary64)
    (options : Options) (storage : Storage) : Run :=
  match session.loadFile clock storage rom, options.cycles with
  | (session, .error error), _ => .stop session clock error
  | (session, .ok ()), none => .stop session clock .limitCleared
  | (session, .ok ()), some limit =>
    match session.run clock limit elapsed with
    | (session, .error error) => .stop session clock error
    | (session, .ok ticks) => present session clock options storage ticks

/-- This runs a program at a rate of ticks in a second, if the settings are valid. -/
def runAt (rate : Binary64) (rom : String) (options : Options) (storage : Storage)
    (clock : Binary64) : Run :=
  match options.levelName with
  | .error error => .silent (.failed error)
  | .ok levelName =>
    match (options.settings levelName).read with
    | .error _ => .complain (.exit 2) "invalid configuration"
    | .ok config =>
      match Session.create config clock with
      | .error error => .silent (.failed error)
      | .ok session => play session clock rom (elapsedAt rate) options storage

/-- This carries out a command; the rate of ticks is checked before the settings. -/
def execute (command : Command) (storage : Storage) (clock : Binary64) : Run :=
  match command with
  | .help => .silent .helped
  | .run rom options =>
    match options.ips with
    | none => .silent (.failed .rateCleared)
    | some rate =>
      if rate.less (.finite 0) || rate.isZero then .complain (.exit 2) "--ips must be positive"
      else runAt rate rom options storage clock

/-- This runs the program with arguments. -/
def run (arguments : List String) (storage : Storage) (clock : Binary64) : Run :=
  match Command.ofArguments arguments with
  | .error error => .complain (.refused error) ("error: " ++ error.message)
  | .ok command => execute command storage clock

end Chip8.CommandLine
