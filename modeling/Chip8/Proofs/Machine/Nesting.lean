import Chip8.Proofs.Instruction.Encodings
import Chip8.Proofs.Machine.Control

namespace Chip8.Machine

/-- This relates a machine to the machines that one successful operation on it can leave. -/
inductive Becomes (machine : Machine) : Machine → Prop where
  | fetched {next : Machine} (word : UInt16) (fetched : machine.fetch = .ok (next, word)) :
      Becomes machine next
  | executed {next : Machine} (word : UInt16) (executed : machine.executeWord word = .ok next) :
      Becomes machine next
  | received {next : Machine} (x : Register) (received : machine.receiveKey? x = some next) :
      Becomes machine next
  | decayed (count : Int) : Becomes machine (machine.decay count)
  | keyed {next : Machine} (key : Int) (pressed : Bool)
      (keyed : machine.setKey? key pressed = .ok next) : Becomes machine next
  | written {next : Machine} (address : Int) (bytes : List UInt8)
      (written : machine.writeBlock address bytes = .ok next) : Becomes machine next
  | loaded {next : Machine} (program : List UInt8)
      (loaded : machine.loadProgram program = .ok next) : Becomes machine next

/-- This says that operations lead from a machine to another and never leave a stack below a
floor. -/
inductive RunsAbove (floor : Nat) (machine : Machine) : Machine → Prop where
  | refl (above : floor ≤ machine.stack.depth) : RunsAbove floor machine machine
  | tail {middle next : Machine} (runs : RunsAbove floor machine middle)
      (becomes : middle.Becomes next) (above : floor ≤ next.stack.depth) :
      RunsAbove floor machine next

/-- This says that operations lead from power-on to a machine. -/
def Reachable (machine : Machine) : Prop :=
  ∃ random delayTimer soundTimer modern,
    (powerOn random delayTimer soundTimer modern).RunsAbove 0 machine

/-- A word that decodes is executed as its instruction. -/
theorem executeWord_decoded (machine : Machine) {word : UInt16} {instruction : Instruction}
    (decodes : Instruction.ofWord? word = some instruction) :
    machine.executeWord word = machine.execute instruction := by
  simp only [executeWord, Decoded.ofWord, decodes]
  rfl

/-- The word of an instruction is executed as the instruction. -/
theorem executeWord_word (machine : Machine) {instruction : Instruction}
    (own : instruction.HasOwnWord) :
    machine.executeWord instruction.word = machine.execute instruction :=
  machine.executeWord_decoded (Instruction.ofWord_word own)

/-- An executed word moves as its instruction. -/
theorem executeWord_moves {machine next : Machine} {word : UInt16}
    (executed : machine.executeWord word = .ok next) :
    ∃ instruction, Instruction.ofWord? word = some instruction ∧
      machine.Moves next instruction := by
  cases decodes : Instruction.ofWord? word with
  | none =>
      simp only [executeWord, Decoded.ofWord, decodes] at executed
      contradiction
  | some instruction =>
      rw [machine.executeWord_decoded decodes] at executed
      exact ⟨instruction, rfl, execute_moves executed⟩

/-- Every operation leaves the stack, pushes or pops. -/
theorem Becomes.stack_changes {machine next : Machine} (becomes : machine.Becomes next) :
    machine.stack.Changes next.stack := by
  cases becomes with
  | fetched word fetched =>
      unfold fetch at fetched
      split at fetched
      · cases fetched
        exact .kept
      · contradiction
  | executed word executed =>
      obtain ⟨_, _, moved⟩ := executeWord_moves executed
      exact moved.stack_changes
  | received x received =>
      obtain ⟨key, _, rfl⟩ := Option.map_eq_some_iff.mp received
      exact .kept
  | decayed count => exact .kept
  | keyed key pressed keyed =>
      unfold setKey? at keyed
      split at keyed
      · cases keyed
        exact .kept
      · contradiction
  | written address bytes written =>
      rw [writeBlock_ok written]
      exact .kept
  | loaded program loaded =>
      rw [writeBlock_ok loaded]
      exact .kept

/-- A run keeps a clear stack clear. -/
theorem RunsAbove.clear {floor : Nat} {machine final : Machine}
    (runs : machine.RunsAbove floor final) (clear : machine.stack.Clear) : final.stack.Clear := by
  induction runs with
  | refl above => exact clear
  | tail runs becomes above ih => exact becomes.stack_changes.clear ih

theorem RunsAbove.above {floor : Nat} {machine final : Machine}
    (runs : machine.RunsAbove floor final) : floor ≤ final.stack.depth := by
  cases runs <;> assumption

/-- A run keeps the addresses below its floor. -/
theorem RunsAbove.agreesBelow {floor : Nat} {machine final : Machine}
    (runs : machine.RunsAbove floor final) : machine.stack.AgreesBelow floor final.stack := by
  induction runs with
  | refl above => exact fun _ _ _ => rfl
  | tail runs becomes above ih =>
      exact ih.trans (becomes.stack_changes.agreesBelow runs.above above)

theorem Reachable.clear {machine : Machine} (reachable : machine.Reachable) :
    machine.stack.Clear := by
  obtain ⟨random, delayTimer, soundTimer, modern, runs⟩ := reachable
  exact runs.clear CallStack.empty_clear

/-- A call leads to its target with the address behind it on the stack. -/
theorem executeWord_call {machine : Machine} {word : UInt16} {target : Address}
    (calls : Instruction.ofWord? word = some (.call target)) (room : machine.stack.depth < 16) :
    ∃ stack, machine.stack.push machine.pc = .ok stack ∧
      machine.executeWord word = .ok { machine with stack, pc := UInt16.ofNat target.val } := by
  cases pushed : machine.stack.push machine.pc with
  | error fault =>
      have full := ((CallStack.push_error_iff _ _ fault).mp pushed).1
      omega
  | ok stack =>
      refine ⟨stack, rfl, ?_⟩
      rw [machine.executeWord_decoded calls, execute_call, pushed]
      rfl

/-- Every call with room on the stack succeeds, and the return that matches it, after any run inside
the subroutine, gives the stack and the address in front of the call. -/
theorem call_returns {machine : Machine} (reachable : machine.Reachable)
    (room : machine.stack.depth < 16) (word : UInt16) (target : Address)
    (calls : Instruction.ofWord? word = some (.call target)) :
    ∃ called, machine.executeWord word = .ok called ∧
      called.stack.depth = machine.stack.depth + 1 ∧
      called.pc = UInt16.ofNat target.val ∧
      ∀ inner, called.RunsAbove (machine.stack.depth + 1) inner →
        inner.stack.depth = machine.stack.depth + 1 →
        ∃ returned, inner.executeWord 0x00EE = .ok returned ∧
          returned.stack = machine.stack ∧ returned.pc = machine.pc := by
  obtain ⟨stack, pushed, executed⟩ := executeWord_call calls room
  obtain ⟨_, depth, _⟩ := CallStack.push_ok pushed
  refine ⟨_, executed, depth, rfl, ?_⟩
  intro inner runs level
  have clear := runs.clear (CallStack.push_clear reachable.clear pushed)
  -- The run stays above the call, so the slot of the call still holds the address behind it.
  have popped := CallStack.pop_restores reachable.clear pushed clear
    (depth ▸ runs.agreesBelow) (level.trans depth.symm)
  refine ⟨{ inner with stack := machine.stack, pc := machine.pc }, ?_, rfl, rfl⟩
  have returns : Instruction.ofWord? 0x00EE = some .returnToCaller := by decide
  rw [inner.executeWord_decoded returns, execute_returnToCaller, popped]
  rfl

/-- A call inside a called subroutine returns there, and then the outer call returns. -/
theorem call_returns_nested :
    let machine := powerOn (Random.ofSeed 0) 0 0 true
    ∃ called nested inner returned,
      machine.executeWord 0x2300 = .ok called ∧ called.executeWord 0x2400 = .ok nested ∧
        nested.executeWord 0x00EE = .ok inner ∧ inner.executeWord 0x00EE = .ok returned ∧
          returned.stack = machine.stack ∧ returned.pc = 0x200 := by
  intro machine
  have started : machine.RunsAbove 0 machine := .refl (Nat.zero_le _)
  obtain ⟨called, calls, depth, _, returns⟩ :=
    call_returns ⟨_, _, _, _, started⟩ (by decide) 0x2300 0x300 (by decide)
  have depth : called.stack.depth = 1 := depth
  have entered := started.tail (.executed 0x2300 calls) (Nat.zero_le _)
  obtain ⟨nested, callsAgain, deeper, _, returnsAgain⟩ :=
    call_returns ⟨_, _, _, _, entered⟩ (by omega) 0x2400 0x400 (by decide)
  obtain ⟨inner, back, same, _⟩ := returnsAgain nested (.refl (by omega)) deeper
  have level : inner.stack.depth = 1 := by rw [same, depth]
  have inside : called.RunsAbove 1 inner :=
    ((RunsAbove.refl (by omega)).tail (.executed 0x2400 callsAgain) (by omega)).tail
      (.executed 0x00EE back) (by omega)
  obtain ⟨returned, last, stack, pc⟩ := returns inner inside level
  exact ⟨called, nested, inner, returned, calls, callsAgain, back, last, stack, pc⟩

end Chip8.Machine
