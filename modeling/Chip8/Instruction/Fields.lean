/-
This file places the operands of instructions in the digits of a word.
-/

import Chip8.Instruction

namespace Chip8

/-- This is a name of some digits of a word. -/
inductive Operand where
  | x
  | y
  | n
  | nn
  | nnn
deriving DecidableEq, Repr

/-- These are the values of all operands, with zero for those that an instruction does not use. -/
structure Fields where
  x : Register := .ofNat 0
  y : Register := .ofNat 0
  n : Digit := .ofNat 0
  nn : UInt8 := 0
  nnn : Address := .ofNat 0
deriving DecidableEq, Repr

namespace Fields

/-- This reads every operand off a word. -/
def ofWord (word : UInt16) : Fields where
  x := .ofNat (word.toNat / 256)
  y := .ofNat (word.toNat / 16)
  n := .ofNat word.toNat
  nn := UInt8.ofNat word.toNat
  nnn := .ofNat word.toNat

def value (fields : Fields) : Operand → Nat
  | .x => fields.x.val
  | .y => fields.y.val
  | .n => fields.n.val
  | .nn => fields.nn.toNat
  | .nnn => fields.nnn.val

/-- This is the part of a word that operands make up. -/
def packed (fields : Fields) : Nat :=
  fields.x.val * 256 + fields.y.val * 16 + fields.n.val + fields.nn.toNat + fields.nnn.val

end Fields

def Instruction.fields : Instruction → Fields
  | .clearScreen => {}
  | .returnToCaller => {}
  | .system target => { nnn := target }
  | .jump target => { nnn := target }
  | .call target => { nnn := target }
  | .skipEqualByte x byte => { x, nn := byte }
  | .skipUnequalByte x byte => { x, nn := byte }
  | .skipEqual x y => { x, y }
  | .loadByte x byte => { x, nn := byte }
  | .addByte x byte => { x, nn := byte }
  | .arithmetic _ x y => { x, y }
  | .skipUnequal x y => { x, y }
  | .loadIndex target => { nnn := target }
  | .jumpOffset target => { nnn := target }
  | .random x byte => { x, nn := byte }
  | .draw x y rows => { x, y, n := rows }
  | .skipPressed x => { x }
  | .skipReleased x => { x }
  | .readDelay x => { x }
  | .waitKey x => { x }
  | .writeDelay x => { x }
  | .writeSound x => { x }
  | .addIndex x => { x }
  | .loadGlyph x => { x }
  | .storeDecimal x => { x }
  | .storeRegisters x => { x }
  | .loadRegisters x => { x }

end Chip8
