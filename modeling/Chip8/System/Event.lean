/-
This file defines the report of a step.
-/

import Chip8.Instruction.Decoded
import Chip8.Instruction.Mnemonic

namespace Chip8

/-- This says how a step ended. -/
inductive StepStatus where
  | executed
  /-- An instruction that needs input was parked or still waits. -/
  | waiting
  /-- The parked instruction completed. -/
  | resumed
  | failed
deriving DecidableEq, Repr

def StepStatus.name : StepStatus → String
  | .executed => "executed"
  | .waiting => "waiting"
  | .resumed => "resumed"
  | .failed => "failed"

/-- This is how a step ended, with the fault of a failed one. -/
inductive StepOutcome where
  | executed
  | waiting
  | resumed
  | failed (fault : Fault)
deriving DecidableEq, Repr

namespace StepOutcome

def status : StepOutcome → StepStatus
  | .executed => .executed
  | .waiting => .waiting
  | .resumed => .resumed
  | .failed _ => .failed

def fault? : StepOutcome → Option Fault
  | .failed fault => some fault
  | _ => none

end StepOutcome

/-- This is the report of a step at an address; an instruction that was not decoded is missing. -/
structure StepEvent where
  pc : UInt16
  instruction : Option Decoded
  outcome : StepOutcome
deriving DecidableEq, Repr

namespace StepEvent

def status (event : StepEvent) : StepStatus :=
  event.outcome.status

/-- This is the fault of a failed step, which lies at the address of the step. -/
def fault? (event : StepEvent) : Option LocatedFault :=
  event.outcome.fault?.map fun fault => { fault, address := some event.pc }

/-- This is the kind of the instruction that a step completed. -/
def completed? (event : StepEvent) : Option Opcode :=
  match event.outcome with
  | .executed => event.instruction.map fun decoded => decoded.instruction.opcode
  | .resumed => event.instruction.map fun decoded => decoded.instruction.opcode
  | _ => none

def mnemonic? (event : StepEvent) : Option String :=
  event.instruction.map fun decoded => decoded.instruction.mnemonic

end StepEvent

end Chip8
