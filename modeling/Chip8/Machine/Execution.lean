/-
This file defines what each instruction does and how the next one is fetched.
-/

import Chip8.Instruction.Decoded
import Chip8.Machine.Memory
import Chip8.Sprite

namespace Chip8.Machine

/-- This skips the next instruction on a condition. -/
def skipIf (machine : Machine) (condition : Bool) : Machine :=
  if condition then machine.skip else machine

/-- This says whether the key that a register names by its low digit is down. -/
def keyDown (machine : Machine) (x : Register) : Bool :=
  machine.keypad[Digit.ofNat (machine.register x).toNat]

/-- This applies a register operation; the flag is stored after the result. -/
def calculate (machine : Machine) (operation : Arithmetic) (x y : Register) : Machine :=
  let second := machine.register y
  let first := if operation.isShift && !machine.modern then second else machine.register x
  let outcome := operation.apply first.toNat second.toNat
  let stored := machine.setRegister x (UInt8.ofInt outcome.result)
  match outcome.flag with
  | some flag => stored.setFlag flag
  | none => stored

/-- This moves the index behind a block in legacy mode. -/
def passBlock (machine : Machine) (x : Register) : Machine :=
  if machine.modern then machine
  else { machine with index := machine.index + UInt16.ofNat (x.val + 1) }

/-- These are the registers up to `x`. -/
def registersThrough (machine : Machine) (x : Register) : List UInt8 :=
  machine.registers.toList.take (x.val + 1)

/-- This replaces the first registers by the bytes of a list. -/
def setRegisters (machine : Machine) (bytes : List UInt8) : Machine :=
  { machine with
    registers := Vector.ofFn fun x => bytes.getD x.val machine.registers[x] }

/-- These are the hundreds, tens and ones of a byte. -/
def decimalDigits (byte : UInt8) : List UInt8 :=
  [byte / 100, byte / 10 % 10, byte % 10]

/-- This executes an instruction on a machine whose `pc` has already passed it. -/
def execute (machine : Machine) (instruction : Instruction) : Except Fault Machine := do
  match instruction with
  | .clearScreen => return { machine with display := Bitmap.blank }
  | .returnToCaller =>
    let (stack, address) ← machine.stack.pop
    return { machine with stack, pc := address }
  | .system _ => return machine
  | .jump target =>
    -- A jump to itself makes no progress and halts the machine.
    let pc := UInt16.ofNat target.val
    return { machine with pc, halted := machine.halted || pc = machine.pc - 2 }
  | .call target =>
    let stack ← machine.stack.push machine.pc
    return { machine with stack, pc := UInt16.ofNat target.val }
  | .skipEqualByte x byte => return machine.skipIf (machine.register x = byte)
  | .skipUnequalByte x byte => return machine.skipIf (machine.register x ≠ byte)
  | .skipEqual x y => return machine.skipIf (machine.register x = machine.register y)
  | .loadByte x byte => return machine.setRegister x byte
  | .addByte x byte => return machine.setRegister x (machine.register x + byte)
  | .arithmetic operation x y => return machine.calculate operation x y
  | .skipUnequal x y => return machine.skipIf (machine.register x ≠ machine.register y)
  | .loadIndex target => return { machine with index := UInt16.ofNat target.val }
  | .jumpOffset target =>
    let address := (target.val + (machine.register .base).toNat) &&& Layout.addressMask
    return { machine with pc := UInt16.ofNat address }
  | .random x byte =>
    return { machine.setRegister x (Random.byte machine.random &&& byte) with
      random := Random.next machine.random }
  | .draw x y rows =>
    let sprite ← machine.readBlock machine.index.toNat rows.val
    let column := (machine.register x).toNat
    let row := (machine.register y).toNat
    let drawn := { machine with display := machine.display.draw column row sprite }
    return drawn.setFlag (machine.display.collides column row sprite)
  | .skipPressed x => return machine.skipIf (machine.keyDown x)
  | .skipReleased x => return machine.skipIf (!machine.keyDown x)
  | .readDelay x => return machine.setRegister x machine.delayTimer
  -- The scheduler parks this instruction and polls the keypad on later steps.
  | .waitKey _ => return machine
  | .writeDelay x => return { machine with delayTimer := machine.register x }
  | .writeSound x => return { machine with soundTimer := machine.register x }
  | .addIndex x =>
    return { machine with index := machine.index + (machine.register x).toUInt16 }
  | .loadGlyph x =>
    let digit := (machine.register x).toNat % 16
    return { machine with index := UInt16.ofNat (Layout.fontStart + digit * Layout.glyphSize) }
  | .storeDecimal x =>
    machine.writeBlock machine.index.toNat (decimalDigits (machine.register x))
  | .storeRegisters x =>
    let stored ← machine.writeBlock machine.index.toNat (machine.registersThrough x)
    return stored.passBlock x
  | .loadRegisters x =>
    let bytes ← machine.readBlock machine.index.toNat (x.val + 1)
    return (machine.setRegisters bytes).passBlock x

/-- This reads the word at `pc` and moves past it. -/
def fetch (machine : Machine) : Except LocatedFault (Machine × UInt16) :=
  if inside : machine.pc.toNat + 1 < Layout.memorySize then
    let high := machine.memory[machine.pc.toNat]
    let low := machine.memory[machine.pc.toNat + 1]
    .ok (machine.skip, UInt16.ofNat (high.toNat * 256 + low.toNat))
  else
    .error { fault := .outOfRange machine.pc.toNat 2, address := some machine.pc }

/-- This executes the instruction of a word. -/
def executeWord (machine : Machine) (word : UInt16) : Except Fault Machine := do
  let decoded ← Decoded.ofWord word
  machine.execute decoded.instruction

/-- This fetches a word and executes it; a fault takes the fetch back. -/
def cycle (machine : Machine) : Except LocatedFault (Machine × UInt16) := do
  let (fetched, word) ← machine.fetch
  match fetched.executeWord word with
  | .ok executed => return (executed, word)
  | .error fault => throw { fault, address := none }

end Chip8.Machine
