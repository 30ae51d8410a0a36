/-
This file carries out operations in sessions, each at a time of the clock.
-/

import Chip8.Session
import Chip8.System.Operation

namespace Chip8

/-- This is an operation at a time in seconds. -/
structure TimedOperation where
  clock : Binary64
  operation : Operation
deriving DecidableEq

namespace Session

/-- This carries out an operation and lets the observers see it. -/
def perform (session : Session) (timed : TimedOperation) : Session × Except Error Answer :=
  match timed.operation with
  | .tick elapsed =>
    let (ticked, result) := session.tick timed.clock elapsed
    (ticked, result.map .event)
  | .setKey key pressed =>
    let (changed, result) := session.setKey key pressed
    (changed, result.map fun _ => .done)
  | .load program =>
    let (loaded, result) := session.load timed.clock program
    (loaded, result.map fun _ => .done)
  | .consumeFrame =>
    let (taken, frame) := session.consumeFrame
    (taken, .ok (.frame frame))
  | .reset => (session.reset, .ok .done)

/-- This is the session after an operation. -/
def after (session : Session) (timed : TimedOperation) : Session :=
  (session.perform timed).1

/-- This is the session after a history of operations. -/
def replay (session : Session) (operations : List TimedOperation) : Session :=
  operations.foldl after session

/-- These are the answers to a history of operations. -/
def answers (session : Session) : List TimedOperation → List (Except Error Answer)
  | [] => []
  | timed :: rest => (session.perform timed).2 :: (session.after timed).answers rest

end Session

end Chip8
