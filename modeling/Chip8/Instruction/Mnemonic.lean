/-
This file writes instructions as mnemonics, from one shape for each kind of instruction.
-/

import Chip8.Instruction.Fields
import Chip8.Text.Digits

namespace Chip8

/-- This is a part of a mnemonic: fixed text or the digits of an operand. -/
inductive MnemonicPart where
  | text (text : String)
  | operand (operand : Operand)
deriving DecidableEq, Repr

/-- This is the name of an operand in templates. -/
def Operand.name : Operand → String
  | .x => "x"
  | .y => "y"
  | .n => "n"
  | .nn => "nn"
  | .nnn => "nnn"

/-- This is the count of hexadecimal digits of an operand. -/
def Operand.width : Operand → Nat
  | .x => 1
  | .y => 1
  | .n => 1
  | .nn => 2
  | .nnn => 3

/-- This writes an operand with all its digits. -/
def Operand.digits (operand : Operand) (value : Nat) : List Char :=
  match operand with
  | .nn => [Text.hexDigit (value / 16), Text.hexDigit value]
  | .nnn =>
    [Text.hexDigit (value / 256), Text.hexDigit (value / 16), Text.hexDigit value]
  | _ => [Text.hexDigit value]

/-- This is the place of an operand in a template, with its count of digits if it has several. -/
def Operand.placeholder (operand : Operand) : String :=
  let width := if operand.width = 1 then "" else "0" ++ toString operand.width
  "\x7b" ++ operand.name ++ ":" ++ width ++ "X\x7d"

namespace MnemonicPart

/-- These are the parts of a mnemonic with two registers. -/
def registers (name : String) : List MnemonicPart :=
  [.text (name ++ " V"), .operand .x, .text ", V", .operand .y]

/-- These are the parts of a mnemonic with a register and a byte. -/
def registerByte (name : String) : List MnemonicPart :=
  [.text (name ++ " V"), .operand .x, .text ", ", .operand .nn]

end MnemonicPart

namespace Opcode

/-- This is the name under which a kind of instruction is counted. -/
def name : Opcode → String
  | .clearScreen => "CLS"
  | .returnToCaller => "RET"
  | .system => "SYS"
  | .jump => "JP"
  | .call => "CALL"
  | .skipEqualByte => "SE_BYTE"
  | .skipUnequalByte => "SNE_BYTE"
  | .skipEqual => "SE_REG"
  | .loadByte => "LD_BYTE"
  | .addByte => "ADD_BYTE"
  | .arithmetic .set => "LD_REG"
  | .arithmetic .or => "OR"
  | .arithmetic .and => "AND"
  | .arithmetic .xor => "XOR"
  | .arithmetic .add => "ADD_REG"
  | .arithmetic .subtract => "SUB"
  | .arithmetic .shiftRight => "SHR"
  | .arithmetic .subtractFrom => "SUBN"
  | .arithmetic .shiftLeft => "SHL"
  | .skipUnequal => "SNE_REG"
  | .loadIndex => "LD_I"
  | .jumpOffset => "JP_V0"
  | .random => "RND"
  | .draw => "DRW"
  | .skipPressed => "SKP"
  | .skipReleased => "SKNP"
  | .readDelay => "LD_VX_DT"
  | .waitKey => "LD_VX_K"
  | .writeDelay => "LD_DT_VX"
  | .writeSound => "LD_ST_VX"
  | .addIndex => "ADD_I_VX"
  | .loadGlyph => "LD_F_VX"
  | .storeDecimal => "LD_B_VX"
  | .storeRegisters => "LD_MEM_VX"
  | .loadRegisters => "LD_VX_MEM"

/-- These are the parts of the mnemonic of a kind of instruction. -/
def shape : Opcode → List MnemonicPart
  | .clearScreen => [.text "CLS"]
  | .returnToCaller => [.text "RET"]
  | .system => [.text "SYS ", .operand .nnn]
  | .jump => [.text "JP ", .operand .nnn]
  | .call => [.text "CALL ", .operand .nnn]
  | .skipEqualByte => MnemonicPart.registerByte "SE"
  | .skipUnequalByte => MnemonicPart.registerByte "SNE"
  | .skipEqual => MnemonicPart.registers "SE"
  | .loadByte => MnemonicPart.registerByte "LD"
  | .addByte => MnemonicPart.registerByte "ADD"
  | .arithmetic .set => MnemonicPart.registers "LD"
  | .arithmetic .or => MnemonicPart.registers "OR"
  | .arithmetic .and => MnemonicPart.registers "AND"
  | .arithmetic .xor => MnemonicPart.registers "XOR"
  | .arithmetic .add => MnemonicPart.registers "ADD"
  | .arithmetic .subtract => MnemonicPart.registers "SUB"
  | .arithmetic .shiftRight => MnemonicPart.registers "SHR"
  | .arithmetic .subtractFrom => MnemonicPart.registers "SUBN"
  | .arithmetic .shiftLeft => MnemonicPart.registers "SHL"
  | .skipUnequal => MnemonicPart.registers "SNE"
  | .loadIndex => [.text "LD I, ", .operand .nnn]
  | .jumpOffset => [.text "JP V0, ", .operand .nnn]
  | .random => MnemonicPart.registerByte "RND"
  | .draw => MnemonicPart.registers "DRW" ++ [.text ", ", .operand .n]
  | .skipPressed => [.text "SKP V", .operand .x]
  | .skipReleased => [.text "SKNP V", .operand .x]
  | .readDelay => [.text "LD V", .operand .x, .text ", DT"]
  | .waitKey => [.text "LD V", .operand .x, .text ", K"]
  | .writeDelay => [.text "LD DT, V", .operand .x]
  | .writeSound => [.text "LD ST, V", .operand .x]
  | .addIndex => [.text "ADD I, V", .operand .x]
  | .loadGlyph => [.text "LD F, V", .operand .x]
  | .storeDecimal => [.text "LD B, V", .operand .x]
  | .storeRegisters => [.text "LD [I], V", .operand .x]
  | .loadRegisters => [.text "LD V", .operand .x, .text ", [I]"]

/-- These are the operands that a kind of instruction uses, in the order of its mnemonic. -/
def operands (opcode : Opcode) : List Operand :=
  opcode.shape.filterMap fun part =>
    match part with
    | .text _ => none
    | .operand operand => some operand

/-- This is the mnemonic of a kind of instruction with a placeholder for each operand. -/
def template (opcode : Opcode) : String :=
  String.join (opcode.shape.map fun part =>
    match part with
    | .text text => text
    | .operand operand => operand.placeholder)

/-- These are all kinds of instruction in the order of their words. -/
def all : List Opcode :=
  [.clearScreen, .returnToCaller, .system, .jump, .call, .skipEqualByte, .skipUnequalByte,
    .skipEqual, .loadByte, .addByte, .arithmetic .set, .arithmetic .or, .arithmetic .and,
    .arithmetic .xor, .arithmetic .add, .arithmetic .subtract, .arithmetic .shiftRight,
    .arithmetic .subtractFrom, .arithmetic .shiftLeft, .skipUnequal, .loadIndex, .jumpOffset,
    .random, .draw, .skipPressed, .skipReleased, .readDelay, .waitKey, .writeDelay, .writeSound,
    .addIndex, .loadGlyph, .storeDecimal, .storeRegisters, .loadRegisters]

end Opcode

/-- This writes an instruction as the characters of its mnemonic. -/
def Instruction.letters (instruction : Instruction) : List Char :=
  instruction.opcode.shape.flatMap fun part =>
    match part with
    | .text text => text.toList
    | .operand operand => operand.digits (instruction.fields.value operand)

/-- This writes an instruction as its mnemonic. -/
def Instruction.mnemonic (instruction : Instruction) : String :=
  String.ofList instruction.letters

end Chip8
