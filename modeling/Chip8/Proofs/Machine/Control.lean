import Chip8.Proofs.CallStack
import Chip8.Proofs.Machine.Effects

namespace Chip8.Machine

/-- This relates an instruction to its effect on `pc`, the stack and the halted flag. -/
inductive Moves (machine next : Machine) : Instruction → Prop where
  | onward (instruction : Instruction) (straight : ∀ target, instruction ≠ .jump target)
      (pc : next.pc = machine.pc) (stack : next.stack = machine.stack)
      (halted : next.halted = machine.halted) : Moves machine next instruction
  | skipped (instruction : Instruction) (straight : ∀ target, instruction ≠ .jump target)
      (pc : next.pc = machine.pc + 2) (stack : next.stack = machine.stack)
      (halted : next.halted = machine.halted) : Moves machine next instruction
  | jumped (target : Address) (pc : next.pc = UInt16.ofNat target.val)
      (stack : next.stack = machine.stack)
      (halted : next.halted = (machine.halted || next.pc = machine.pc - 2)) :
      Moves machine next (.jump target)
  | offset (target : Address) (inside : next.pc.toNat < 4096) (stack : next.stack = machine.stack)
      (halted : next.halted = machine.halted) : Moves machine next (.jumpOffset target)
  | called (target : Address) (pc : next.pc = UInt16.ofNat target.val)
      (pushed : machine.stack.push machine.pc = .ok next.stack)
      (halted : next.halted = machine.halted) : Moves machine next (.call target)
  | returned (popped : machine.stack.pop = .ok (next.stack, next.pc))
      (halted : next.halted = machine.halted) : Moves machine next .returnToCaller

/-- A conditional skip goes on or skips. -/
theorem skipIf_moves (machine : Machine) (condition : Bool) (instruction : Instruction)
    (straight : ∀ target, instruction ≠ .jump target) :
    Moves machine (machine.skipIf condition) instruction := by
  cases condition with
  | false => exact .onward instruction straight rfl rfl rfl
  | true => exact .skipped instruction straight rfl rfl rfl

/-- Every executed instruction moves in one of the listed ways. -/
theorem execute_moves {machine next : Machine} {instruction : Instruction}
    (executed : machine.execute instruction = .ok next) : Moves machine next instruction := by
  cases instruction
  case returnToCaller =>
    rw [execute_returnToCaller, map_eq_ok_iff] at executed
    obtain ⟨popped, taken, rfl⟩ := executed
    exact .returned taken rfl
  case jump target =>
    cases executed
    exact .jumped target rfl rfl rfl
  case call target =>
    rw [execute_call, map_eq_ok_iff] at executed
    obtain ⟨stack, pushed, rfl⟩ := executed
    exact .called target rfl pushed rfl
  case jumpOffset target =>
    cases executed
    refine .offset target ?_ rfl rfl
    have small : target.val + (machine.register .base).toNat &&& 0xFFF ≤ 0xFFF :=
      Nat.and_le_right
    change (UInt16.ofNat (_ &&& 0xFFF)).toNat < 4096
    rw [UInt16.toNat_ofNat']
    omega
  case arithmetic operation x y =>
    cases executed
    rw [calculate_registers]
    exact .onward _ nofun rfl rfl rfl
  case draw x y rows =>
    rw [execute_draw, map_eq_ok_iff] at executed
    obtain ⟨sprite, _, rfl⟩ := executed
    exact .onward _ nofun rfl rfl rfl
  case storeDecimal x =>
    rw [execute_storeDecimal] at executed
    rw [writeBlock_ok executed]
    exact .onward _ nofun rfl rfl rfl
  case storeRegisters x =>
    rw [execute_storeRegisters, map_eq_ok_iff] at executed
    obtain ⟨stored, written, rfl⟩ := executed
    rw [passBlock_index, writeBlock_ok written]
    exact .onward _ nofun rfl rfl rfl
  case loadRegisters x =>
    rw [execute_loadRegisters, map_eq_ok_iff] at executed
    obtain ⟨bytes, _, rfl⟩ := executed
    rw [passBlock_index, setRegisters_registers]
    exact .onward _ nofun rfl rfl rfl
  case skipEqualByte | skipUnequalByte | skipEqual | skipUnequal | skipPressed | skipReleased =>
    cases executed
    exact skipIf_moves _ _ _ nofun
  all_goals
    cases executed
    exact .onward _ nofun rfl rfl rfl

/-- An executed instruction leaves the stack, pushes or pops. -/
theorem Moves.stack_changes {machine next : Machine} {instruction : Instruction}
    (moved : machine.Moves next instruction) : machine.stack.Changes next.stack := by
  cases moved with
  | onward _ _ _ stack => exact stack ▸ .kept
  | skipped _ _ _ stack => exact stack ▸ .kept
  | jumped _ _ stack => exact stack ▸ .kept
  | offset _ _ stack => exact stack ▸ .kept
  | called _ _ pushed => exact .pushed _ pushed
  | returned popped => exact .popped _ popped

end Chip8.Machine
