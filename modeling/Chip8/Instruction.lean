/-
This file defines the instructions with their operands and the kinds that statistics count.
-/

import Chip8.Arithmetic
import Chip8.Layout

namespace Chip8

/-- This is a hexadecimal digit, which numbers registers, keys and the rows of a sprite. -/
abbrev Digit := Fin 16

/-- This is the last digit of a number. -/
def Digit.ofNat (value : Nat) : Digit :=
  ⟨value % 16, Nat.mod_lt value (by decide)⟩

/-- This is the number of a register. -/
abbrev Register := Digit

/-- This register is the offset of computed jumps. -/
def Register.base : Register :=
  .ofNat 0

/-- This register receives carries, shifted bits and collisions. -/
def Register.flag : Register :=
  .ofNat Layout.flagRegister

/-- This is an address that fits in an instruction. -/
abbrev Address := Fin 4096

/-- This is the address that the last three digits of a number make up. -/
def Address.ofNat (value : Nat) : Address :=
  ⟨value % 4096, Nat.mod_lt value (by decide)⟩

/-- This is an instruction with the operands that it uses. -/
inductive Instruction where
  | clearScreen
  | returnToCaller
  | system (target : Address)
  | jump (target : Address)
  | call (target : Address)
  | skipEqualByte (x : Register) (byte : UInt8)
  | skipUnequalByte (x : Register) (byte : UInt8)
  | skipEqual (x y : Register)
  | loadByte (x : Register) (byte : UInt8)
  | addByte (x : Register) (byte : UInt8)
  | arithmetic (operation : Arithmetic) (x y : Register)
  | skipUnequal (x y : Register)
  | loadIndex (target : Address)
  | jumpOffset (target : Address)
  | random (x : Register) (byte : UInt8)
  | draw (x y : Register) (rows : Digit)
  | skipPressed (x : Register)
  | skipReleased (x : Register)
  | readDelay (x : Register)
  | waitKey (x : Register)
  | writeDelay (x : Register)
  | writeSound (x : Register)
  | addIndex (x : Register)
  | loadGlyph (x : Register)
  | storeDecimal (x : Register)
  | storeRegisters (x : Register)
  | loadRegisters (x : Register)
deriving DecidableEq, Repr

/-- This is the kind of an instruction. -/
inductive Opcode where
  | clearScreen
  | returnToCaller
  | system
  | jump
  | call
  | skipEqualByte
  | skipUnequalByte
  | skipEqual
  | loadByte
  | addByte
  | arithmetic (operation : Arithmetic)
  | skipUnequal
  | loadIndex
  | jumpOffset
  | random
  | draw
  | skipPressed
  | skipReleased
  | readDelay
  | waitKey
  | writeDelay
  | writeSound
  | addIndex
  | loadGlyph
  | storeDecimal
  | storeRegisters
  | loadRegisters
deriving DecidableEq, Repr

namespace Instruction

def opcode : Instruction → Opcode
  | .clearScreen => .clearScreen
  | .returnToCaller => .returnToCaller
  | .system _ => .system
  | .jump _ => .jump
  | .call _ => .call
  | .skipEqualByte _ _ => .skipEqualByte
  | .skipUnequalByte _ _ => .skipUnequalByte
  | .skipEqual _ _ => .skipEqual
  | .loadByte _ _ => .loadByte
  | .addByte _ _ => .addByte
  | .arithmetic operation _ _ => .arithmetic operation
  | .skipUnequal _ _ => .skipUnequal
  | .loadIndex _ => .loadIndex
  | .jumpOffset _ => .jumpOffset
  | .random _ _ => .random
  | .draw _ _ _ => .draw
  | .skipPressed _ => .skipPressed
  | .skipReleased _ => .skipReleased
  | .readDelay _ => .readDelay
  | .waitKey _ => .waitKey
  | .writeDelay _ => .writeDelay
  | .writeSound _ => .writeSound
  | .addIndex _ => .addIndex
  | .loadGlyph _ => .loadGlyph
  | .storeDecimal _ => .storeDecimal
  | .storeRegisters _ => .storeRegisters
  | .loadRegisters _ => .loadRegisters

/-- This says that an instruction completes only on input which later steps observe. -/
def blocks (instruction : Instruction) : Bool :=
  instruction.opcode = .waitKey

/-- This says that an instruction changes the display. -/
def draws (instruction : Instruction) : Bool :=
  instruction.opcode = .draw || instruction.opcode = .clearScreen

end Instruction

end Chip8
