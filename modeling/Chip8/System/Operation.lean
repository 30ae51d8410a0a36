/-
This file defines the operations on a system, their answers and whole histories of operations.
-/

import Chip8.System

namespace Chip8

/-- This is an operation on a system. -/
inductive Operation where
  | tick (elapsed : Binary64)
  | setKey (key : Int) (pressed : Bool)
  | load (program : List UInt8)
  | consumeFrame
  | reset
deriving DecidableEq

/-- This is what an operation returns. -/
inductive Answer where
  | event (event : StepEvent)
  | frame (frame : Display)
  | done
deriving DecidableEq

namespace System

/-- This carries out an operation. -/
def perform (system : System) : Operation → System × Except Error Answer
  | .tick elapsed =>
    let (ticked, result) := system.tick elapsed
    (ticked, (result.answer system.config.errorPolicy).map .event)
  | .setKey key pressed =>
    match system.setKey key pressed with
    | .ok changed => (changed, .ok .done)
    | .error error => (system, .error error)
  | .load program =>
    match system.load program with
    | .ok loaded => (loaded, .ok .done)
    | .error fault => (system, .error (.fault { fault, address := none }))
  | .consumeFrame =>
    let (taken, frame) := system.consumeFrame
    (taken, .ok (.frame frame))
  | .reset => (system.reset, .ok .done)

/-- This is the system after an operation. -/
def after (system : System) (operation : Operation) : System :=
  (system.perform operation).1

/-- This is the system after a history of operations. -/
def replay (system : System) (operations : List Operation) : System :=
  operations.foldl after system

/-- These are the answers to a history of operations. -/
def answers (system : System) : List Operation → List (Except Error Answer)
  | [] => []
  | operation :: rest => (system.perform operation).2 :: (system.after operation).answers rest

/-- This says that a history leads from power-on to a system. -/
def Reachable (system : System) : Prop :=
  ∃ operations, (powerOn system.config).replay operations = system

end System

end Chip8
