import Chip8.Proofs.CallStack
import Chip8.Proofs.Instruction.Patterns
import Chip8.Proofs.Machine.Effects

namespace Chip8

/-- A word is refused exactly when it matches no kind of instruction. -/
theorem Decoded.ofWord_error_iff (word : UInt16) (fault : Fault) :
    ofWord word = .error fault ↔
      (∀ opcode : Opcode, ¬ opcode.Matches word) ∧ fault = .unsupportedOpcode word := by
  rw [← Instruction.ofWord_eq_none_iff]
  unfold ofWord
  cases Instruction.ofWord? word <;> simp [eq_comm]

/-- A decoded instruction keeps its word. -/
theorem Decoded.ofWord_word {word : UInt16} {decoded : Decoded}
    (decodes : ofWord word = .ok decoded) : decoded.word = word := by
  unfold ofWord at decodes
  split at decodes
  · cases decodes
    rfl
  · contradiction

namespace Machine

/-- This says that a machine stands in front of a word, whose high byte comes first. -/
def HoldsWord (machine : Machine) (word : UInt16) : Prop :=
  ∃ (_ : machine.pc.toNat < 4096) (_ : machine.pc.toNat + 1 < 4096),
    word.toNat = machine.memory[machine.pc.toNat].toNat * 256 +
      machine.memory[machine.pc.toNat + 1].toNat

/-- This says that a machine stands in front of an instruction. -/
def Meets (machine : Machine) (decoded : Decoded) : Prop :=
  machine.HoldsWord decoded.word ∧ Decoded.ofWord decoded.word = .ok decoded

/-- This relates the instructions that a machine cannot execute to their faults. -/
inductive Refuses (machine : Machine) : Instruction → Fault → Prop where
  | returnToCaller (empty : machine.stack.depth = 0) :
      Refuses machine .returnToCaller .emptyStackReturn
  | call (target : Address) (full : machine.stack.depth = 16) :
      Refuses machine (.call target) .callStackOverflow
  | draw (x y : Register) (rows : Digit) (outside : 4096 < machine.index.toNat + rows.val) :
      Refuses machine (.draw x y rows) (.outOfRange machine.index.toNat rows.val)
  | storeDecimal (x : Register) (outside : 4096 < machine.index.toNat + 3) :
      Refuses machine (.storeDecimal x) (.outOfRange machine.index.toNat 3)
  | storeRegisters (x : Register) (outside : 4096 < machine.index.toNat + (x.val + 1)) :
      Refuses machine (.storeRegisters x) (.outOfRange machine.index.toNat (x.val + 1))
  | loadRegisters (x : Register) (outside : 4096 < machine.index.toNat + (x.val + 1)) :
      Refuses machine (.loadRegisters x) (.outOfRange machine.index.toNat (x.val + 1))

/-- This relates a machine to the fault of its next step, with the instruction if one was decoded. -/
inductive Faults (machine : Machine) : Option Decoded → Fault → Prop where
  | fetch (outside : 4095 ≤ machine.pc.toNat) :
      Faults machine none (.outOfRange machine.pc.toNat 2)
  | decode (word : UInt16) (holds : machine.HoldsWord word)
      (unmatched : ∀ opcode : Opcode, ¬ opcode.Matches word) :
      Faults machine none (.unsupportedOpcode word)
  | execute (decoded : Decoded) (fault : Fault) (meets : machine.Meets decoded)
      (refuses : machine.Refuses decoded.instruction fault) :
      Faults machine (some decoded) fault

/-- The stack and the index alone decide what a machine refuses. -/
theorem Refuses.transfer {first second : Machine} {instruction : Instruction} {fault : Fault}
    (refuses : first.Refuses instruction fault) (stack : first.stack = second.stack)
    (index : first.index = second.index) : second.Refuses instruction fault := by
  cases refuses with
  | returnToCaller empty => exact .returnToCaller (stack ▸ empty)
  | call target full => exact .call target (stack ▸ full)
  | draw x y rows outside =>
      rw [index] at outside ⊢
      exact .draw x y rows outside
  | storeDecimal x outside =>
      rw [index] at outside ⊢
      exact .storeDecimal x outside
  | storeRegisters x outside =>
      rw [index] at outside ⊢
      exact .storeRegisters x outside
  | loadRegisters x outside =>
      rw [index] at outside ⊢
      exact .loadRegisters x outside

/-- A key wait is never refused. -/
theorem Refuses.moves {machine : Machine} {instruction : Instruction} {fault : Fault}
    (refuses : machine.Refuses instruction fault) : instruction.blocks = false := by
  cases refuses <;> rfl

/-- A block from the index on leaves memory only at its end. -/
theorem block_outside_iff (machine : Machine) (length : Nat) :
    ((machine.index.toNat : Int) < 0 ∨ 4096 < (machine.index.toNat : Int) + length) ↔
      4096 < machine.index.toNat + length := by
  omega

theorem registersThrough_length (machine : Machine) (x : Register) :
    (machine.registersThrough x).length = x.val + 1 := by
  have inside := x.isLt
  have size : machine.registers.toList.length = 16 := machine.registers.length_toList
  simp only [registersThrough, List.length_take, size]
  omega

/-- The execution of an instruction fails exactly on the machines that refuse it. -/
theorem execute_error_iff (machine : Machine) (instruction : Instruction) (fault : Fault) :
    machine.execute instruction = .error fault ↔ machine.Refuses instruction fault := by
  cases instruction
  case returnToCaller =>
    rw [execute_returnToCaller, map_eq_error_iff, CallStack.pop_error_iff]
    constructor
    · rintro ⟨empty, rfl⟩
      exact .returnToCaller empty
    · intro refuses
      cases refuses with
      | returnToCaller empty => exact ⟨empty, rfl⟩
  case call target =>
    rw [execute_call, map_eq_error_iff, CallStack.push_error_iff]
    constructor
    · rintro ⟨full, rfl⟩
      exact .call target full
    · intro refuses
      cases refuses with
      | call _ full => exact ⟨full, rfl⟩
  case draw x y rows =>
    rw [execute_draw, map_eq_error_iff, readBlock_error_iff, block_outside_iff]
    constructor
    · rintro ⟨outside, rfl⟩
      exact .draw x y rows outside
    · intro refuses
      cases refuses with
      | draw _ _ _ outside => exact ⟨outside, rfl⟩
  case storeDecimal x =>
    rw [execute_storeDecimal, writeBlock_error_iff, block_outside_iff]
    constructor
    · rintro ⟨outside, rfl⟩
      exact .storeDecimal x outside
    · intro refuses
      cases refuses with
      | storeDecimal _ outside => exact ⟨outside, rfl⟩
  case storeRegisters x =>
    rw [execute_storeRegisters, map_eq_error_iff, writeBlock_error_iff, block_outside_iff,
      registersThrough_length]
    constructor
    · rintro ⟨outside, rfl⟩
      exact .storeRegisters x outside
    · intro refuses
      cases refuses with
      | storeRegisters _ outside => exact ⟨outside, rfl⟩
  case loadRegisters x =>
    have count : (x.val : Int) + 1 = (x.val + 1 : Nat) := rfl
    rw [execute_loadRegisters, map_eq_error_iff, count, readBlock_error_iff, block_outside_iff]
    constructor
    · rintro ⟨outside, rfl⟩
      exact .loadRegisters x outside
    · intro refuses
      cases refuses with
      | loadRegisters _ outside => exact ⟨outside, rfl⟩
  all_goals
    constructor
    · intro failed
      contradiction
    · intro refuses
      cases refuses

/-- A fetch behind the last word of memory fails. -/
theorem fetch_outside {machine : Machine} (outside : 4095 ≤ machine.pc.toNat) :
    machine.fetch =
      .error { fault := .outOfRange machine.pc.toNat 2, address := some machine.pc } := by
  have behind : ¬ machine.pc.toNat + 1 < 4096 := by omega
  unfold fetch
  rw [dif_neg behind]

/-- A fetch takes the word in front of the machine and passes it. -/
theorem fetch_holds {machine : Machine} {word : UInt16} (holds : machine.HoldsWord word) :
    machine.fetch = .ok (machine.skip, word) := by
  obtain ⟨_, inside, value⟩ := holds
  unfold fetch
  rw [dif_pos inside]
  simp only [← value, UInt16.ofNat_toNat]

/-- A cycle in front of an instruction fetches and executes it. -/
theorem cycle_meets {machine next : Machine} {decoded : Decoded} (meets : machine.Meets decoded)
    (executed : machine.skip.execute decoded.instruction = .ok next) :
    machine.cycle = .ok (next, decoded.word) := by
  have word : machine.skip.executeWord decoded.word = .ok next := by
    simp only [executeWord, meets.2, bind, Except.bind, executed]
  simp only [cycle, fetch_holds meets.1, bind, Except.bind, word]
  rfl

/-- A machine stands in front of a word unless it is behind the last one. -/
theorem exists_holdsWord {machine : Machine} (inside : machine.pc.toNat < 4095) :
    ∃ word, machine.HoldsWord word := by
  have first : machine.pc.toNat < 4096 := by omega
  have bound : machine.pc.toNat + 1 < 4096 := by omega
  have high := machine.memory[machine.pc.toNat].toNat_lt
  have low := machine.memory[machine.pc.toNat + 1].toNat_lt
  refine ⟨UInt16.ofNat (machine.memory[machine.pc.toNat].toNat * 256 +
    machine.memory[machine.pc.toNat + 1].toNat), first, bound, ?_⟩
  rw [UInt16.toNat_ofNat', Nat.mod_eq_of_lt]
  omega

/-- Memory and `pc` alone decide in front of which word a machine stands. -/
theorem HoldsWord.transfer {first second : Machine} {word : UInt16}
    (holds : first.HoldsWord word) (memory : first.memory = second.memory)
    (pc : first.pc = second.pc) : second.HoldsWord word := by
  obtain ⟨first, last, value⟩ := holds
  simp only [memory, pc] at first last value
  exact ⟨first, last, value⟩

/-- Memory, `pc`, the stack and the index alone decide the fault of the next step. -/
theorem Faults.transfer {first second : Machine} {instruction : Option Decoded} {fault : Fault}
    (faults : first.Faults instruction fault) (memory : first.memory = second.memory)
    (pc : first.pc = second.pc) (stack : first.stack = second.stack)
    (index : first.index = second.index) : second.Faults instruction fault := by
  cases faults with
  | fetch outside =>
      rw [pc] at outside ⊢
      exact .fetch outside
  | decode word holds unmatched => exact .decode word (holds.transfer memory pc) unmatched
  | execute decoded fault meets refuses =>
      exact .execute decoded fault ⟨meets.1.transfer memory pc, meets.2⟩
        (refuses.transfer stack index)

end Machine

end Chip8
