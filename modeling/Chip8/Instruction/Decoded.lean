/-
This file decodes words and integers, with the reasons for which one is refused.
-/

import Chip8.Error
import Chip8.Instruction.Encoding

namespace Chip8

/-- This is a word together with the instruction that it stands for. -/
structure Decoded where
  word : UInt16
  instruction : Instruction
deriving DecidableEq, Repr

namespace Decoded

/-- This decodes a word or reports that no instruction matches it. -/
def ofWord (word : UInt16) : Except Fault Decoded :=
  match Instruction.ofWord? word with
  | some instruction => .ok { word, instruction }
  | none => .error (.unsupportedOpcode word)

/-- This decodes an integer, which has to fit in sixteen bits. -/
def ofInteger (value : Int) : Except Error Decoded :=
  if 0 ≤ value ∧ value ≤ Layout.wordMask then
    match ofWord (UInt16.ofInt value) with
    | .ok decoded => .ok decoded
    | .error fault => .error (.fault { fault, address := none })
  else .error (.notAWord value)

end Decoded

end Chip8
