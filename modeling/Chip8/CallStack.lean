/-
This file defines the stack of return addresses.
-/

import Chip8.Fault

namespace Chip8

/-- This is a stack of at most sixteen return addresses. -/
structure CallStack where
  slots : Vector UInt16 Layout.stackSize
  depth : Nat
  bounded : depth ≤ Layout.stackSize
deriving DecidableEq

namespace CallStack

def empty : CallStack where
  slots := Vector.replicate Layout.stackSize 0
  depth := 0
  bounded := by decide

def push (stack : CallStack) (address : UInt16) : Except Fault CallStack :=
  if room : stack.depth < Layout.stackSize then
    .ok
      { slots := stack.slots.set stack.depth address
        depth := stack.depth + 1
        bounded := room }
  else .error .callStackOverflow

/-- This takes the last address off and clears its slot. -/
def pop (stack : CallStack) : Except Fault (CallStack × UInt16) :=
  if used : 0 < stack.depth then
    have inside : stack.depth - 1 < Layout.stackSize := by have := stack.bounded; omega
    .ok
      ({ slots := stack.slots.set (stack.depth - 1) 0
         depth := stack.depth - 1
         bounded := Nat.le_of_lt inside },
        stack.slots[stack.depth - 1])
  else .error .emptyStackReturn

end CallStack

end Chip8
