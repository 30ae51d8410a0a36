/-
This file defines the state of the machine and how it is created.
-/

import Chip8.Bitmap
import Chip8.CallStack
import Chip8.Error
import Chip8.Font
import Chip8.Instruction
import Chip8.Random

namespace Chip8

/-- This is everything that a program can observe, together with the halted flag and the mode. -/
structure Machine where
  memory : Vector UInt8 Layout.memorySize
  registers : Vector UInt8 Layout.registerCount
  index : UInt16
  pc : UInt16
  stack : CallStack
  delayTimer : UInt8
  soundTimer : UInt8
  keypad : Vector Bool Layout.keyCount
  display : Display
  random : Random.Pair
  halted : Bool
  /-- In modern mode shifts use one register only and block transfers leave the index alone. -/
  modern : Bool
deriving DecidableEq

namespace Machine

/-- This is the memory at power-on, which holds the glyphs and is zero elsewhere. -/
def initialMemory : Vector UInt8 Layout.memorySize :=
  Vector.ofFn fun address =>
    if Layout.fontStart ≤ address.val then Font.bytes.getD (address.val - Layout.fontStart) 0
    else 0

/-- This is the machine at power-on. -/
def powerOn (random : Random.Pair) (delayTimer soundTimer : UInt8) (modern : Bool) : Machine where
  memory := initialMemory
  registers := Vector.replicate Layout.registerCount 0
  index := 0
  pc := UInt16.ofNat Layout.programStart
  stack := .empty
  delayTimer := delayTimer
  soundTimer := soundTimer
  keypad := Vector.replicate Layout.keyCount false
  display := Bitmap.blank
  random := random
  halted := false
  modern := modern

/-- This is a machine without program or font, all of whose parts are zero. -/
def zeroed : Machine :=
  { powerOn { first := 0, second := 0 } 0 0 true with
    memory := Vector.replicate Layout.memorySize 0
    pc := 0 }

/-- Seeds are signed 64-bit integers. -/
def seedInRange (seed : Int) : Bool :=
  fitsWord seed

/-- This creates a machine from integers; the seed is checked before the timers. -/
def create (seed delayTimer soundTimer : Int) (modern : Bool) : Except Error Machine := do
  unless seedInRange seed do throw .seedTooLarge
  let delay ← byteOf delayTimer
  let sound ← byteOf soundTimer
  return powerOn (Random.ofSeed seed) delay sound modern

def register (machine : Machine) (x : Register) : UInt8 :=
  machine.registers[x]

def setRegister (machine : Machine) (x : Register) (value : UInt8) : Machine :=
  { machine with registers := machine.registers.set x value }

/-- This stores a flag in its register. -/
def setFlag (machine : Machine) (flag : Bool) : Machine :=
  machine.setRegister .flag (if flag then 1 else 0)

/-- This moves past the next instruction, modulo `2 ^ 16`. -/
def skip (machine : Machine) : Machine :=
  { machine with pc := machine.pc + 2 }

/-- This marks a key as pressed or released. -/
def setKey (machine : Machine) (key : Digit) (pressed : Bool) : Machine :=
  { machine with keypad := machine.keypad.set key pressed }

/-- This marks the key of an integer, which has to be one of the sixteen keys. -/
def setKey? (machine : Machine) (key : Int) (pressed : Bool) : Except Error Machine :=
  if 0 ≤ key ∧ key < Layout.keyCount then .ok (machine.setKey (.ofNat key.toNat) pressed)
  else .error (.notAKey key)

/-- This is the lowest key that is down. -/
def lowestKey? (machine : Machine) : Option Digit :=
  (List.finRange Layout.keyCount).find? fun key => machine.keypad[key]

/-- This completes a key wait: the lowest key goes to a register and the instruction is passed. -/
def receiveKey? (machine : Machine) (x : Register) : Option Machine :=
  machine.lowestKey?.map fun key => (machine.setRegister x (UInt8.ofNat key.val)).skip

/-- This counts both timers down to zero at least; a count that is not positive changes nothing. -/
def decay (machine : Machine) (count : Int) : Machine :=
  { machine with
    delayTimer := UInt8.ofNat (machine.delayTimer.toNat - count.toNat)
    soundTimer := UInt8.ofNat (machine.soundTimer.toNat - count.toNat) }

end Machine

end Chip8
