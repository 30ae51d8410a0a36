/-
This file decodes words into instructions and encodes instructions as words.
-/

import Chip8.Instruction.Fields

namespace Chip8

/-- This is the word of a kind of instruction whose operands are all zero. -/
def Opcode.pattern : Opcode → Nat
  | .clearScreen => 0x00E0
  | .returnToCaller => 0x00EE
  | .system => 0x0000
  | .jump => 0x1000
  | .call => 0x2000
  | .skipEqualByte => 0x3000
  | .skipUnequalByte => 0x4000
  | .skipEqual => 0x5000
  | .loadByte => 0x6000
  | .addByte => 0x7000
  | .arithmetic operation => 0x8000 + operation.code.val
  | .skipUnequal => 0x9000
  | .loadIndex => 0xA000
  | .jumpOffset => 0xB000
  | .random => 0xC000
  | .draw => 0xD000
  | .skipPressed => 0xE09E
  | .skipReleased => 0xE0A1
  | .readDelay => 0xF007
  | .waitKey => 0xF00A
  | .writeDelay => 0xF015
  | .writeSound => 0xF018
  | .addIndex => 0xF01E
  | .loadGlyph => 0xF029
  | .storeDecimal => 0xF033
  | .storeRegisters => 0xF055
  | .loadRegisters => 0xF065

namespace Instruction

/-- This is the word of an instruction. -/
def word (instruction : Instruction) : UInt16 :=
  UInt16.ofNat (instruction.opcode.pattern + instruction.fields.packed)

/-- These are the instructions whose first digit is `F`, selected by the last two digits. -/
def ofMiscellaneous? (x : Register) (selector : UInt8) : Option Instruction :=
  if selector = 0x07 then some (.readDelay x)
  else if selector = 0x0A then some (.waitKey x)
  else if selector = 0x15 then some (.writeDelay x)
  else if selector = 0x18 then some (.writeSound x)
  else if selector = 0x1E then some (.addIndex x)
  else if selector = 0x29 then some (.loadGlyph x)
  else if selector = 0x33 then some (.storeDecimal x)
  else if selector = 0x55 then some (.storeRegisters x)
  else if selector = 0x65 then some (.loadRegisters x)
  else none

/-- This is the instruction of a word, if it has one; the last digit of `9xyn` is ignored. -/
def ofWord? (word : UInt16) : Option Instruction :=
  let fields := Fields.ofWord word
  let x := fields.x
  let y := fields.y
  match word.toNat / 4096 with
  | 0 =>
    if word = 0x00E0 then some .clearScreen
    else if word = 0x00EE then some .returnToCaller
    else if x.val ≠ 0 then some (.system fields.nnn)
    else none
  | 1 => some (.jump fields.nnn)
  | 2 => some (.call fields.nnn)
  | 3 => some (.skipEqualByte x fields.nn)
  | 4 => some (.skipUnequalByte x fields.nn)
  | 5 => if fields.n.val = 0 then some (.skipEqual x y) else none
  | 6 => some (.loadByte x fields.nn)
  | 7 => some (.addByte x fields.nn)
  | 8 => (Arithmetic.ofCode? fields.n).map fun operation => .arithmetic operation x y
  | 9 => some (.skipUnequal x y)
  | 10 => some (.loadIndex fields.nnn)
  | 11 => some (.jumpOffset fields.nnn)
  | 12 => some (.random x fields.nn)
  | 13 => some (.draw x y fields.n)
  | 14 =>
    if fields.nn = 0x9E then some (.skipPressed x)
    else if fields.nn = 0xA1 then some (.skipReleased x)
    else none
  | _ => ofMiscellaneous? x fields.nn

end Instruction

end Chip8
