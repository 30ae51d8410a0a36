import Chip8.System
import Chip8.Proofs.Machine.Faults

namespace Chip8

/-- A decoded instruction blocks exactly when it waits for a key. -/
theorem Instruction.blocks_iff (instruction : Instruction) :
    instruction.blocks = true ↔ ∃ x, instruction = .waitKey x := by
  cases instruction <;> simp [blocks, opcode]

namespace System

/-- This lists the ways in which a system steps or polls. -/
inductive Advances (system : System) : System × StepEvent → Prop where
  | failed (idle : system.pending = none) (instruction : Option Decoded) (fault : Fault)
      (faults : system.machine.Faults instruction fault) :
      Advances system (system.fail instruction fault)
  | parked (idle : system.pending = none) (decoded : Decoded)
      (meets : system.machine.Meets decoded) (blocks : decoded.instruction.blocks = true) :
      Advances system
        ({ system with pending := some decoded },
          { pc := system.machine.pc, instruction := some decoded, outcome := .waiting })
  | executed (idle : system.pending = none) (decoded : Decoded) (machine : Machine)
      (meets : system.machine.Meets decoded) (moves : decoded.instruction.blocks = false)
      (executed : system.machine.skip.execute decoded.instruction = .ok machine) :
      Advances system
        ({ system with machine, dirty := system.dirty || decoded.instruction.draws },
          { pc := system.machine.pc, instruction := some decoded, outcome := .executed })
  | waiting (decoded : Decoded) (parked : system.pending = some decoded)
      (silent : system.machine.lowestKey? = none) :
      Advances system
        (system, { pc := system.machine.pc, instruction := some decoded, outcome := .waiting })
  | resumed (decoded : Decoded) (parked : system.pending = some decoded) (key : Digit)
      (down : system.machine.lowestKey? = some key) :
      Advances system
        ({ system with
            machine := (system.machine.setRegister decoded.instruction.fields.x
              (UInt8.ofNat key.val)).skip
            pending := none },
          { pc := system.machine.pc, instruction := some decoded, outcome := .resumed })

/-- A step in front of a fault fails with that fault. -/
theorem step_faults {system : System} {instruction : Option Decoded} {fault : Fault}
    (faults : system.machine.Faults instruction fault) :
    system.step = system.fail instruction fault := by
  cases faults with
  | fetch outside =>
      unfold step
      rw [Machine.fetch_outside outside]
  | decode word holds unmatched =>
      have refused := (Decoded.ofWord_error_iff word _).mpr ⟨unmatched, rfl⟩
      unfold step
      rw [Machine.fetch_holds holds]
      simp only [refused]
  | execute decoded fault meets refuses =>
      obtain ⟨holds, decodes⟩ := meets
      have failed := (system.machine.skip.execute_error_iff decoded.instruction fault).mpr
        (refuses.transfer rfl rfl)
      unfold step
      rw [Machine.fetch_holds holds]
      simp only [decodes, refuses.moves, failed, Bool.false_eq_true, if_false]

/-- A step in front of a key wait parks it. -/
theorem step_parks {system : System} {decoded : Decoded}
    (meets : system.machine.Meets decoded) (blocks : decoded.instruction.blocks = true) :
    system.step =
      ({ system with pending := some decoded },
        { pc := system.machine.pc, instruction := some decoded, outcome := .waiting }) := by
  obtain ⟨holds, decodes⟩ := meets
  unfold step
  rw [Machine.fetch_holds holds]
  simp only [decodes, blocks, if_true]

/-- A step in front of any other instruction executes it behind the fetch. -/
theorem step_executes {system : System} {decoded : Decoded} {machine : Machine}
    (meets : system.machine.Meets decoded) (moves : decoded.instruction.blocks = false)
    (executed : system.machine.skip.execute decoded.instruction = .ok machine) :
    system.step =
      ({ system with machine, dirty := system.dirty || decoded.instruction.draws },
        { pc := system.machine.pc, instruction := some decoded, outcome := .executed }) := by
  obtain ⟨holds, decodes⟩ := meets
  unfold step
  rw [Machine.fetch_holds holds]
  simp only [decodes, moves, executed, Bool.false_eq_true, if_false]

/-- An idle system fails, parks or executes. -/
theorem step_advances {system : System} (idle : system.pending = none) :
    system.Advances system.step := by
  by_cases outside : 4095 ≤ system.machine.pc.toNat
  · have faults := Machine.Faults.fetch outside
    rw [step_faults faults]
    exact .failed idle _ _ faults
  · obtain ⟨word, holds⟩ := Machine.exists_holdsWord (Nat.lt_of_not_le outside)
    cases decodes : Decoded.ofWord word with
    | error fault =>
        obtain ⟨unmatched, rfl⟩ := (Decoded.ofWord_error_iff word fault).mp decodes
        have faults := Machine.Faults.decode word holds unmatched
        rw [step_faults faults]
        exact .failed idle _ _ faults
    | ok decoded =>
        have same := Decoded.ofWord_word decodes
        subst same
        have meets : system.machine.Meets decoded := ⟨holds, decodes⟩
        cases blocks : decoded.instruction.blocks with
        | true =>
            rw [step_parks meets blocks]
            exact .parked idle decoded meets blocks
        | false =>
            cases executed : system.machine.skip.execute decoded.instruction with
            | error fault =>
                have refuses := (Machine.execute_error_iff _ _ _).mp executed
                have faults := Machine.Faults.execute decoded fault meets (refuses.transfer rfl rfl)
                rw [step_faults faults]
                exact .failed idle _ _ faults
            | ok machine =>
                rw [step_executes meets blocks executed]
                exact .executed idle decoded machine meets blocks executed

/-- A system without a pending instruction steps. -/
theorem stepOrPoll_idle {system : System} (idle : system.pending = none) :
    system.stepOrPoll = system.step := by
  simp only [stepOrPoll, idle]

/-- A system whose pending instruction sees no key waits. -/
theorem stepOrPoll_waits {system : System} {decoded : Decoded}
    (parked : system.pending = some decoded) (silent : system.machine.lowestKey? = none) :
    system.stepOrPoll =
      (system, { pc := system.machine.pc, instruction := some decoded, outcome := .waiting }) := by
  simp only [stepOrPoll, parked, poll, Machine.receiveKey?, silent, Option.map_none]

/-- A system whose pending instruction sees a key resumes. -/
theorem stepOrPoll_resumes {system : System} {decoded : Decoded} {key : Digit}
    (parked : system.pending = some decoded) (down : system.machine.lowestKey? = some key) :
    system.stepOrPoll =
      ({ system with
          machine := (system.machine.setRegister decoded.instruction.fields.x
            (UInt8.ofNat key.val)).skip
          pending := none },
        { pc := system.machine.pc, instruction := some decoded, outcome := .resumed }) := by
  simp only [stepOrPoll, parked, poll, Machine.receiveKey?, down, Option.map_some]

/-- Every system steps or polls in one of the listed ways. -/
theorem stepOrPoll_advances (system : System) : system.Advances system.stepOrPoll := by
  cases parked : system.pending with
  | none =>
      rw [stepOrPoll_idle parked]
      exact step_advances parked
  | some decoded =>
      cases down : system.machine.lowestKey? with
      | none =>
          rw [stepOrPoll_waits parked down]
          exact .waiting decoded parked down
      | some key =>
          rw [stepOrPoll_resumes parked down]
          exact .resumed decoded parked key down

/-- There is only one way in which a system steps or polls. -/
theorem Advances.stepOrPoll_eq {system : System} {advanced : System × StepEvent}
    (advances : system.Advances advanced) : system.stepOrPoll = advanced := by
  cases advances with
  | failed idle instruction fault faults => rw [stepOrPoll_idle idle, step_faults faults]
  | parked idle decoded meets blocks => rw [stepOrPoll_idle idle, step_parks meets blocks]
  | executed idle decoded machine meets moves executed =>
      rw [stepOrPoll_idle idle, step_executes meets moves executed]
  | waiting decoded parked silent => exact stepOrPoll_waits parked silent
  | resumed decoded parked key down => exact stepOrPoll_resumes parked down

end System

end Chip8
