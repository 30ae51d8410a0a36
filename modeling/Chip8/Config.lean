/-
This file defines the configuration of a system.
-/

import Chip8.Layout
import Chip8.Level

namespace Chip8

/-- This is what becomes of a system after a failed step. -/
inductive ErrorPolicy where
  /-- The machine is halted in front of the instruction. -/
  | halt
  /-- The instruction is passed. -/
  | skip
  /-- The fault is reported to the caller and the machine stays as it was. -/
  | raise
deriving DecidableEq, Repr

namespace ErrorPolicy

def all : List ErrorPolicy :=
  [.halt, .skip, .raise]

def name : ErrorPolicy → String
  | .halt => "halt"
  | .skip => "skip"
  | .raise => "raise"

def ofName? (name : String) : Option ErrorPolicy :=
  all.find? fun policy => policy.name = name

end ErrorPolicy

/-- This is the configuration of a system, which never changes. -/
structure Config where
  delayTimer : UInt8 := 0
  soundTimer : UInt8 := 0
  errorPolicy : ErrorPolicy := .halt
  modern : Bool := true
  seed : Int := 0
  timerRate : Int := Layout.timerRate
  logLevel : Level := .info
  trace : Bool := false
  ratePositive : 0 < timerRate := by decide
deriving DecidableEq

end Chip8
