/-
This file counts the events that observers see.
-/

import Chip8.System.Event
import Chip8.Text.Quoted

namespace Chip8

/-- This counts keys, in the order in which they were first seen. -/
structure Tally (α : Type) where
  entries : List (α × Nat)

namespace Tally

variable {α : Type} [DecidableEq α]

def empty : Tally α := { entries := [] }

/-- This adds one to the count of a key. -/
def addTo (key : α) : List (α × Nat) → List (α × Nat)
  | [] => [(key, 1)]
  | (other, count) :: rest =>
    if other = key then (other, count + 1) :: rest else (other, count) :: addTo key rest

def add (tally : Tally α) (key : α) : Tally α where
  entries := addTo key tally.entries

def count (tally : Tally α) (key : α) : Nat :=
  (tally.entries.lookup key).getD 0

/-- These are the keys with the largest counts; of equal counts the one first seen comes first. -/
def largest (tally : Tally α) (size : Nat) : List (α × Nat) :=
  (tally.entries.mergeSort fun first second => second.2 ≤ first.2).take size

end Tally

/-- This counts steps, how they ended, and the kinds of instruction that they completed. -/
structure Statistics where
  steps : Nat
  statuses : Tally StepStatus
  opcodes : Tally Opcode

namespace Statistics

def empty : Statistics where
  steps := 0
  statuses := .empty
  opcodes := .empty

def record (statistics : Statistics) (event : StepEvent) : Statistics where
  steps := statistics.steps + 1
  statuses := statistics.statuses.add event.status
  opcodes :=
    match event.completed? with
    | some opcode => statistics.opcodes.add opcode
    | none => statistics.opcodes

/-- These are the kinds of instruction that were completed most often. -/
def topOpcodes (statistics : Statistics) : List (Opcode × Nat) :=
  statistics.opcodes.largest 5

/-- This writes items between a pair of brackets. -/
def bracketed (left right : String) (items : List String) : String :=
  left ++ ", ".intercalate items ++ right

/-- This writes the statistics as a nested table. -/
def text (statistics : Statistics) : String :=
  let statuses := statistics.statuses.entries.map fun (status, count) =>
    Text.quote status.name ++ ": " ++ toString count
  let opcodes := statistics.topOpcodes.map fun (opcode, count) =>
    bracketed "(" ")" [Text.quote opcode.name, toString count]
  bracketed "\x7b" "\x7d"
    [Text.quote "steps" ++ ": " ++ toString statistics.steps,
      Text.quote "statuses" ++ ": " ++ bracketed "\x7b" "\x7d" statuses,
      Text.quote "top_opcodes" ++ ": " ++ bracketed "[" "]" opcodes]

end Statistics

end Chip8
