import Chip8.Proofs.Machine.Control
import Chip8.Proofs.System.Histories

namespace Chip8

/-- An instruction behind a word of memory keeps return addresses behind words and moves `pc` by at
most one skip behind memory. -/
theorem Machine.Moves.bounded {machine next : Machine} {instruction : Instruction}
    (moved : machine.Moves next instruction) (returns : machine.stack.HoldsReturns)
    (behind : 2 ≤ machine.pc.toNat ∧ machine.pc.toNat ≤ 4096) :
    next.stack.HoldsReturns ∧ next.pc.toNat ≤ 4098 := by
  cases moved with
  | onward _ _ pc stack =>
      rw [pc, stack]
      exact ⟨returns, by omega⟩
  | skipped _ _ pc stack =>
      rw [pc, stack, UInt16.toNat_add]
      exact ⟨returns, by simp; omega⟩
  | jumped target pc stack =>
      have inside := target.isLt
      rw [pc, stack, UInt16.toNat_ofNat']
      exact ⟨returns, by omega⟩
  | offset _ inside stack =>
      rw [stack]
      exact ⟨returns, by omega⟩
  | called target pc pushed =>
      have inside := target.isLt
      rw [pc, UInt16.toNat_ofNat']
      exact ⟨CallStack.push_holdsReturns returns behind pushed, by omega⟩
  | returned popped =>
      obtain ⟨kept, _, inside⟩ := CallStack.pop_holdsReturns returns popped
      exact ⟨kept, by omega⟩

namespace System

/-- This says that the stack, the pending instruction and `pc` of a system are in bounds. -/
structure Bounded (system : System) : Prop where
  depth : system.machine.stack.depth ≤ 16
  clear : ∀ slot (inside : slot < 16), system.machine.stack.depth ≤ slot →
    system.machine.stack.slots[slot] = 0
  returns : ∀ slot (inside : slot < 16), slot < system.machine.stack.depth →
    2 ≤ system.machine.stack.slots[slot].toNat ∧ system.machine.stack.slots[slot].toNat ≤ 4096
  parked : ∀ decoded, system.pending = some decoded →
    (∃ x, decoded.instruction = .waitKey x) ∧ system.machine.pc.toNat ≤ 4094
  reach : system.config.errorPolicy ≠ .skip → system.machine.pc.toNat ≤ 0x1002

theorem powerOn_bounded (config : Config) : (powerOn config).Bounded := by
  constructor
  · exact CallStack.empty.bounded
  · exact CallStack.empty_clear
  · intro slot inside below
    exact absurd below (Nat.not_lt_zero slot)
  · intro decoded parked
    contradiction
  · intro _
    change (0x200 : UInt16).toNat ≤ 0x1002
    decide

/-- Two bytes behind a word of memory do not wrap. -/
theorem skip_inside {machine : Machine} (inside : machine.pc.toNat + 1 < 4096) :
    machine.skip.pc.toNat = machine.pc.toNat + 2 := by
  change (machine.pc + 2).toNat = _
  rw [UInt16.toNat_add]
  exact Nat.mod_eq_of_lt (by simp; omega)

/-- Systems with the same `pc`, stack and pending instruction are in the same bounds. -/
theorem Bounded.transfer {system other : System} (bounded : system.Bounded)
    (config : other.config = system.config) (pending : other.pending = system.pending)
    (stack : other.machine.stack = system.machine.stack)
    (pc : other.machine.pc = system.machine.pc) : other.Bounded := by
  constructor
  · rw [stack]
    exact bounded.depth
  · rw [stack]
    exact bounded.clear
  · rw [stack]
    exact bounded.returns
  · rw [pending, pc]
    exact bounded.parked
  · rw [config, pc]
    exact bounded.reach

/-- A step keeps a system in bounds. -/
theorem Bounded.stepOrPoll {system : System} (bounded : system.Bounded) :
    system.stepOrPoll.1.Bounded := by
  have advances := system.stepOrPoll_advances
  generalize system.stepOrPoll = advanced at advances ⊢
  cases advances with
  | failed idle instruction fault faults =>
      simp only [fail]
      cases policy : system.config.errorPolicy with
      | halt => exact bounded.transfer rfl rfl rfl rfl
      | raise => exact bounded.transfer rfl rfl rfl rfl
      | skip =>
          refine ⟨bounded.depth, bounded.clear, bounded.returns, ?_, fun kept => absurd policy kept⟩
          intro decoded parked
          rw [idle] at parked
          contradiction
  | parked idle decoded meets blocks =>
      obtain ⟨_, inside, _⟩ := meets.1
      have place : system.machine.pc.toNat ≤ 4094 := by omega
      refine { bounded with parked := ?_ }
      intro pending same
      cases same
      exact ⟨(Instruction.blocks_iff _).mp blocks, place⟩
  | executed idle decoded machine meets moves executed =>
      -- The fetch bounds `pc` for every policy, so the bound on `pc` is not needed here.
      obtain ⟨_, inside, _⟩ := meets.1
      have skipped := skip_inside inside
      have moved := Machine.execute_moves executed
      obtain ⟨returns, reach⟩ := moved.bounded bounded.returns (by omega)
      refine ⟨machine.stack.bounded, moved.stack_changes.clear bounded.clear, returns, ?_,
        fun _ => reach⟩
      intro pending same
      rw [idle] at same
      contradiction
  | waiting decoded parked silent => exact bounded
  | resumed decoded parked key down =>
      obtain ⟨_, inside⟩ := bounded.parked decoded parked
      refine ⟨bounded.depth, bounded.clear, bounded.returns, nofun, ?_⟩
      intro _
      change system.machine.skip.pc.toNat ≤ 0x1002
      rw [skip_inside (by omega)]
      omega

/-- Every operation keeps a system in bounds. -/
theorem Bounded.after {system : System} (bounded : system.Bounded) (operation : Operation) :
    (system.after operation).Bounded := by
  cases operation with
  | tick elapsed =>
      have ticks := system.tick_ticks elapsed
      rw [after_tick]
      generalize system.tick elapsed = ticked at ticks ⊢
      cases ticks with
      | rejected => exact bounded
      | untimed => exact bounded.stepOrPoll.transfer rfl rfl rfl rfl
      | observed => exact bounded.stepOrPoll.transfer rfl rfl rfl rfl
  | setKey key pressed =>
      obtain ⟨keypad, same⟩ := system.after_setKey key pressed
      rw [same]
      exact bounded.transfer rfl rfl rfl rfl
  | load program =>
      obtain ⟨memory, same⟩ := system.after_load program
      rw [same]
      exact bounded.transfer rfl rfl rfl rfl
  | consumeFrame => exact bounded.transfer rfl rfl rfl rfl
  | reset =>
      rw [after_reset]
      exact (powerOn_bounded system.config).transfer rfl rfl rfl rfl

/-- Every history keeps the stack, the pending instruction and `pc` in bounds. -/
theorem replay_bounded (config : Config) (operations : List Operation) :
    ((powerOn config).replay operations).Bounded :=
  replay_keeps Bounded (fun _ operation bounded => bounded.after operation)
    (powerOn_bounded config) operations

end System

end Chip8
