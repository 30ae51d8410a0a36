/-
This file lists the faults that stop an instruction.
-/

import Chip8.Layout
import Chip8.Text.Digits

namespace Chip8

/-- This is a reason for which an instruction fails. -/
inductive Fault where
  | unsupportedOpcode (word : UInt16)
  | callStackOverflow
  | emptyStackReturn
  | outOfRange (address length : Int)
deriving DecidableEq, Repr

namespace Fault

/-- This is the name of a fault in log lines. -/
def name : Fault → String
  | .unsupportedOpcode _ => "UnsupportedOpcode"
  | .callStackOverflow => "CallStackOverflow"
  | .emptyStackReturn => "EmptyStackReturn"
  | .outOfRange _ _ => "OutOfRangeAccess"

def message : Fault → String
  | .unsupportedOpcode word => "Unsupported opcode: " ++ Text.paddedHex 4 word.toNat
  | .callStackOverflow => 
    "Call stack overflow: " ++ toString Layout.stackSize ++ " frames in use"
  | .emptyStackReturn => "Return with empty call stack"
  | .outOfRange address length =>
    "Memory access out of range: " ++ toString length ++ " byte(s) at " ++ Text.markedHex 6 address

end Fault

/-- This is a fault with the address of the instruction at fault, when that is known. -/
structure LocatedFault where
  fault : Fault
  address : Option UInt16
deriving DecidableEq, Repr

end Chip8
