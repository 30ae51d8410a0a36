/-
This file defines the scheduler: it advances a machine by one step per tick and accounts for the
time of the tick.
-/

import Chip8.Config
import Chip8.Machine.Execution
import Chip8.System.Event
import Chip8.Timing

namespace Chip8

/--
This is a machine with its scheduler. While no instruction is pending, a tick executes the
instruction at `pc`. An instruction that needs input is parked with `pc` unchanged, and then ticks
only look for a key.
-/
structure System where
  config : Config
  machine : Machine
  pending : Option Decoded
  /-- The display has been drawn on since the last frame was taken. -/
  dirty : Bool
  timing : Timing
deriving DecidableEq

/-- This is the machine of a configuration at power-on. -/
def Config.machine (config : Config) : Machine :=
  Machine.powerOn (Random.ofSeed config.seed) config.delayTimer config.soundTimer config.modern

namespace System

/-- This is a system at power-on, without a program. -/
def powerOn (config : Config) : System where
  config := config
  machine := config.machine
  pending := none
  dirty := false
  timing := { rate := config.timerRate, accumulated := .finite 0 }

/-- This creates a system, unless the seed of its configuration is too large. -/
def create (config : Config) : Except Error System :=
  if Machine.seedInRange config.seed then .ok (powerOn config) else .error .seedTooLarge

/-- This returns to power-on and forgets the program. Time starts again at the same rate. -/
def reset (system : System) : System :=
  { system with
    machine := system.config.machine
    pending := none
    dirty := false
    timing := system.timing.reset }

def load (system : System) (program : List UInt8) : Except Fault System := do
  return { system with machine := ← system.machine.loadProgram program }

def setKey (system : System) (key : Int) (pressed : Bool) : Except Error System := do
  return { system with machine := ← system.machine.setKey? key pressed }

/-- This takes the frame, after which the display counts as clean. -/
def consumeFrame (system : System) : System × Display :=
  ({ system with dirty := false }, system.machine.display)

/-- This is what a policy does to the machine in front of a faulty instruction. -/
def applyPolicy (policy : ErrorPolicy) (machine : Machine) : Machine :=
  match policy with
  | .halt => { machine with halted := true }
  | .skip => machine.skip
  | .raise => machine

/-- This ends a step with a fault: the machine is as before the step, up to the policy. -/
def fail (system : System) (instruction : Option Decoded) (fault : Fault) : System × StepEvent :=
  ({ system with machine := applyPolicy system.config.errorPolicy system.machine },
    { pc := system.machine.pc, instruction, outcome := .failed fault })

/-- This is the step of an idle system. -/
def step (system : System) : System × StepEvent :=
  let pc := system.machine.pc
  match system.machine.fetch with
  | .error located => system.fail none located.fault
  | .ok (fetched, word) =>
    match Decoded.ofWord word with
    | .error fault => system.fail none fault
    | .ok decoded =>
      if decoded.instruction.blocks then
        ({ system with pending := some decoded },
          { pc, instruction := some decoded, outcome := .waiting })
      else
        match fetched.execute decoded.instruction with
        | .error fault => system.fail (some decoded) fault
        | .ok machine =>
          ({ system with machine, dirty := system.dirty || decoded.instruction.draws },
            { pc, instruction := some decoded, outcome := .executed })

/-- This is the step of a system whose pending instruction waits for a key. -/
def poll (system : System) (waiting : Decoded) : System × StepEvent :=
  let pc := system.machine.pc
  match system.machine.receiveKey? waiting.instruction.fields.x with
  | none => (system, { pc, instruction := some waiting, outcome := .waiting })
  | some machine =>
    ({ system with machine, pending := none },
      { pc, instruction := some waiting, outcome := .resumed })

/-- This steps an idle system and polls a waiting one. -/
def stepOrPoll (system : System) : System × StepEvent :=
  match system.pending with
  | none => system.step
  | some waiting => system.poll waiting

/-- This says what a tick did. -/
inductive TickResult where
  /-- The elapsed time was negative and nothing happened. -/
  | rejected (elapsed : Binary64)
  /-- The step took effect, but its time could not be accounted for and nobody was told. -/
  | untimed (event : StepEvent) (error : TimingError)
  /-- The step and its time took effect and the observers were told. -/
  | observed (event : StepEvent)
deriving DecidableEq

namespace TickResult

/-- This is the event that observers see. -/
def observed? : TickResult → Option StepEvent
  | .observed event => some event
  | _ => none

/-- This is the event of the step, if there was one. -/
def event? : TickResult → Option StepEvent
  | .rejected _ => none
  | .untimed event _ => some event
  | .observed event => some event

/-- This is what the caller of a tick gets: under the raising policy the fault of a failed step. -/
def answer (policy : ErrorPolicy) : TickResult → Except Error StepEvent
  | .rejected elapsed => .error (.timing (.negativeTime elapsed))
  | .untimed _ error => .error (.timing error)
  | .observed event =>
    match policy, event.fault? with
    | .raise, some located => .error (.fault located)
    | _, _ => .ok event

end TickResult

/-- This runs one step and accounts for the elapsed milliseconds. -/
def tick (system : System) (elapsed : Binary64) : System × TickResult :=
  if elapsed.less (.finite 0) then (system, .rejected elapsed)
  else
    let (stepped, event) := system.stepOrPoll
    match stepped.timing.update stepped.machine elapsed with
    | (timing, .error error) => ({ stepped with timing }, .untimed event error)
    | (timing, .ok machine) => ({ stepped with timing, machine }, .observed event)

end System

end Chip8
