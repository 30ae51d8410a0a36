/-
This file defines reads and writes of memory blocks with their bounds.
-/

import Chip8.Machine

namespace Chip8.Machine

/-- This refuses a block that does not lie in memory; an empty block may lie at its end. -/
def checkRange (address length : Int) : Except Fault Unit :=
  if address < 0 ∨ Layout.memorySize < address + length then
    .error (.outOfRange address length)
  else .ok ()

/-- This is the position that an index means in a sequence; negative ones count from its end. -/
def position (size : Nat) (index : Int) : Nat :=
  min size (if index < 0 then (index + size).toNat else index.toNat)

/--
This reads a block. A length that is not negative reads so many bytes; a negative one passes the
check and reads up to the position that the sum of address and length means.
-/
def readBlock (machine : Machine) (address length : Int) : Except Fault (List UInt8) := do
  checkRange address length
  let start := position Layout.memorySize address
  let stop := position Layout.memorySize (address + length)
  return (machine.memory.toList.drop start).take (stop - start)

/-- This overlays memory with bytes from an address on. -/
def overlay (memory : Vector UInt8 Layout.memorySize) (address : Nat) (bytes : Array UInt8) :
    Vector UInt8 Layout.memorySize :=
  Vector.ofFn fun cell =>
    if inside : address ≤ cell.val ∧ cell.val - address < bytes.size then
      bytes[cell.val - address]
    else memory[cell]

/-- This writes a block of bytes. -/
def writeBlock (machine : Machine) (address : Int) (bytes : List UInt8) :
    Except Fault Machine := do
  checkRange address bytes.length
  return { machine with memory := overlay machine.memory address.toNat bytes.toArray }

/-- This writes a block of integers; one that is no byte is reported before the bounds. -/
def writeIntegers (machine : Machine) (address : Int) (values : List Int) :
    Except Error Machine := do
  let bytes ← bytesOf values
  match machine.writeBlock address bytes with
  | .ok machine => return machine
  | .error fault => throw (.fault { fault, address := none })

/-- This stores a program from the program start on. -/
def loadProgram (machine : Machine) (program : List UInt8) : Except Fault Machine :=
  machine.writeBlock Layout.programStart program

end Chip8.Machine
