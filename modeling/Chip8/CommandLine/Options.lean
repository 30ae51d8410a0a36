/-
This file defines the options of the command line and the reasons for which arguments are refused.
-/

import Chip8.Config
import Chip8.Number.Numeral
import Chip8.Text.Quoted

namespace Chip8.CommandLine

/-- This is an option that may be given. -/
inductive Switch where
  | help
  | cycles
  | ips
  | errorPolicy
  | delayTimer
  | soundTimer
  | legacy
  | seed
  | snapshot
  | ascii
  | trace
  | logLevel
deriving DecidableEq, Repr

namespace Switch

/-- These are all options in the order in which they are searched. -/
def all : List Switch :=
  [.help, .cycles, .ips, .errorPolicy, .delayTimer, .soundTimer, .legacy, .seed, .snapshot, .ascii,
    .trace, .logLevel]

/-- These are the ways to write an option. -/
def spellings : Switch → List String
  | .help => ["-h", "--help"]
  | .cycles => ["--cycles"]
  | .ips => ["--ips"]
  | .errorPolicy => ["--error-policy"]
  | .delayTimer => ["--delay-timer"]
  | .soundTimer => ["--sound-timer"]
  | .legacy => ["--legacy"]
  | .seed => ["--seed"]
  | .snapshot => ["--snapshot"]
  | .ascii => ["--ascii"]
  | .trace => ["--trace"]
  | .logLevel => ["--log-level"]

/-- This says that an option is followed by a value. -/
def takesValue : Switch → Bool
  | .help => false
  | .legacy => false
  | .ascii => false
  | .trace => false
  | _ => true

/-- This is the name of an option in messages. -/
def title (switch : Switch) : String :=
  "/".intercalate switch.spellings

/-- These are all spellings with their options. -/
def table : List (String × Switch) :=
  all.flatMap fun switch => switch.spellings.map fun spelling => (spelling, switch)

end Switch

/-- This is a reason for which arguments are refused. -/
inductive UsageError where
  | ambiguous (given : String) (spellings : List String)
  | valueMissing (switch : Switch)
  | valueUnwanted (switch : Switch) (value : String)
  | notInteger (switch : Switch) (value : String)
  | notReal (switch : Switch) (value : String)
  | notPolicy (switch : Switch) (value : String)
  | romMissing
  | unrecognized (arguments : List String)
deriving DecidableEq, Repr

namespace UsageError

def message : UsageError → String
  | .ambiguous given spellings =>
    "ambiguous option: " ++ given ++ " could match " ++ ", ".intercalate spellings
  | .valueMissing switch => "argument " ++ switch.title ++ ": expected one argument"
  | .valueUnwanted switch value =>
    "argument " ++ switch.title ++ ": ignored explicit argument " ++ Text.quote value
  | .notInteger switch value =>
    "argument " ++ switch.title ++ ": invalid int value: " ++ Text.quote value
  | .notReal switch value =>
    "argument " ++ switch.title ++ ": invalid float value: " ++ Text.quote value
  | .notPolicy switch value =>
    "argument " ++ switch.title ++ ": invalid choice: " ++ Text.quote value ++ " (choose from " ++
      ", ".intercalate (ErrorPolicy.all.map fun policy => Text.quote policy.name) ++ ")"
  | .romMissing => "the following arguments are required: rom"
  | .unrecognized arguments => "unrecognized arguments: " ++ " ".intercalate arguments

end UsageError

/-- This argument ends the options. -/
def endMarkText : String := "--"

/-- These are the values of the options; an option that was cleared has none. -/
structure Options where
  cycles : Option Int := some 2000
  ips : Option Binary64 := some (.finite 700)
  errorPolicy : Option ErrorPolicy := some .halt
  delayTimer : Option Int := some 0
  soundTimer : Option Int := some 0
  legacy : Bool := false
  seed : Option Int := some 0
  snapshot : Option String := none
  ascii : Bool := false
  trace : Bool := false
  logLevel : Option String := some "INFO"
deriving DecidableEq

namespace Options

def integer (switch : Switch) (value : String) : Except UsageError Int :=
  match Numeral.integer? value with
  | some number => .ok number
  | none => .error (.notInteger switch value)

def real (switch : Switch) (value : String) : Except UsageError Binary64 :=
  match Numeral.real? value with
  | some number => .ok number
  | none => .error (.notReal switch value)

def policy (switch : Switch) (value : String) : Except UsageError ErrorPolicy :=
  match ErrorPolicy.ofName? value with
  | some policy => .ok policy
  | none => .error (.notPolicy switch value)

/-- This gives a value to an option; a later value replaces an earlier one. -/
def assign (options : Options) (switch : Switch) (value : String) : Except UsageError Options := do
  match switch with
  | .cycles => return { options with cycles := some (← integer switch value) }
  | .ips => return { options with ips := some (← real switch value) }
  | .errorPolicy => return { options with errorPolicy := some (← policy switch value) }
  | .delayTimer => return { options with delayTimer := some (← integer switch value) }
  | .soundTimer => return { options with soundTimer := some (← integer switch value) }
  | .seed => return { options with seed := some (← integer switch value) }
  | .snapshot => return { options with snapshot := some value }
  | .logLevel => return { options with logLevel := some value }
  | _ => return options

/-- This takes the value of an option away. -/
def clear (options : Options) : Switch → Options
  | .cycles => { options with cycles := none }
  | .ips => { options with ips := none }
  | .errorPolicy => { options with errorPolicy := none }
  | .delayTimer => { options with delayTimer := none }
  | .soundTimer => { options with soundTimer := none }
  | .seed => { options with seed := none }
  | .snapshot => { options with snapshot := none }
  | .logLevel => { options with logLevel := none }
  | _ => options

/-- This gives an attached value to an option; an end mark in its place clears the option. -/
def attach (options : Options) (switch : Switch) (value : String) : Except UsageError Options :=
  if value = endMarkText then .ok (options.clear switch) else options.assign switch value

/-- This turns an option on that takes no value. -/
def enable (options : Options) : Switch → Options
  | .legacy => { options with legacy := true }
  | .ascii => { options with ascii := true }
  | .trace => { options with trace := true }
  | _ => options

end Options

end Chip8.CommandLine
