import Chip8.Proofs.Machine.Faults

namespace Chip8

namespace Instruction

/-- This says that an instruction reads the index. -/
def readsIndex : Instruction → Bool
  | .draw _ _ _ => true
  | .addIndex _ => true
  | .storeDecimal _ => true
  | .storeRegisters _ => true
  | .loadRegisters _ => true
  | _ => false

/-- This says that an instruction transfers registers, which moves the index in legacy mode. -/
def transfers : Instruction → Bool
  | .storeRegisters _ => true
  | .loadRegisters _ => true
  | _ => false

/-- This says that an instruction sets the index without reading it. -/
def setsIndex : Instruction → Bool
  | .loadIndex _ => true
  | .loadGlyph _ => true
  | _ => false

end Instruction

/-- This says which of the parts in which two machines may differ are known to be equal. -/
structure Accord where
  modes : Prop
  indices : Prop
  delays : Prop
  sounds : Prop

/-- This is what stays equal when an instruction is executed on both machines. -/
def Accord.after (accord : Accord) (instruction : Instruction) : Accord :=
  { accord with
    indices := instruction.setsIndex = true ∨
      accord.indices ∧ (accord.modes ∨ instruction.transfers = false) }

/-- This says that an instruction looks at nothing that may differ. A shift looks at the mode unless
its registers are equal. -/
structure Accord.Tolerates (accord : Accord) (machine : Machine) (instruction : Instruction) :
    Prop where
  index : instruction.readsIndex = true → accord.indices
  delay : ∀ x, instruction = .readDelay x → accord.delays
  shift : ∀ operation x y, instruction = .arithmetic operation x y → operation.isShift = true →
    accord.modes ∨ machine.register x = machine.register y

/-- What an instruction looks at does not depend on `pc`. -/
theorem Accord.Tolerates.skip {accord : Accord} {machine : Machine} {instruction : Instruction}
    (tolerates : accord.Tolerates machine instruction) :
    accord.Tolerates machine.skip instruction :=
  ⟨tolerates.index, tolerates.delay, tolerates.shift⟩

namespace Machine

/-- This says that two machines differ at most in the mode, the index and the timers, and not in
those of them that are known to be equal. -/
structure Agree (machine other : Machine) (accord : Accord) : Prop where
  rest : other =
    { machine with
      index := other.index
      delayTimer := other.delayTimer
      soundTimer := other.soundTimer
      modern := other.modern }
  modern : accord.modes → other.modern = machine.modern
  index : accord.indices → other.index = machine.index
  delayTimer : accord.delays → other.delayTimer = machine.delayTimer
  soundTimer : accord.sounds → other.soundTimer = machine.soundTimer

namespace Agree

variable {machine other : Machine} {accord : Accord}

/-- What is known of the indices can be replaced. -/
theorem withIndices (agree : machine.Agree other accord) {indices : Prop}
    (index : indices → other.index = machine.index) :
    machine.Agree other { accord with indices } :=
  ⟨agree.rest, agree.modern, index, agree.delayTimer, agree.soundTimer⟩

/-- A change that neither reads nor writes the parts that may differ keeps the agreement. -/
theorem map (agree : machine.Agree other accord) (change : Machine → Machine)
    (blind : ∀ (machine : Machine) index delayTimer soundTimer modern,
      change { machine with index, delayTimer, soundTimer, modern } =
        { change machine with index, delayTimer, soundTimer, modern })
    (keeps : change machine =
      { change machine with
        index := machine.index
        delayTimer := machine.delayTimer
        soundTimer := machine.soundTimer
        modern := machine.modern }) :
    (change machine).Agree (change other) accord := by
  have changed := blind machine other.index other.delayTimer other.soundTimer other.modern
  rw [← agree.rest] at changed
  rw [changed, keeps]
  exact ⟨rfl, agree.modern, agree.index, agree.delayTimer, agree.soundTimer⟩

theorem setRegister (agree : machine.Agree other accord) (x : Register) (value : UInt8) :
    (machine.setRegister x value).Agree (other.setRegister x value) accord :=
  agree.map (·.setRegister x value) (fun _ _ _ _ _ => rfl) rfl

theorem skip (agree : machine.Agree other accord) : machine.skip.Agree other.skip accord :=
  agree.map Machine.skip (fun _ _ _ _ _ => rfl) rfl

theorem skipIf (agree : machine.Agree other accord) (condition : Bool) :
    (machine.skipIf condition).Agree (other.skipIf condition) accord := by
  cases condition with
  | false => exact agree
  | true => exact agree.skip

theorem register (agree : machine.Agree other accord) (x : Register) :
    other.register x = machine.register x := by
  rw [agree.rest]
  rfl

theorem setRegisters (agree : machine.Agree other accord) (bytes : List UInt8) :
    (machine.setRegisters bytes).Agree (other.setRegisters bytes) accord := by
  have same : other.registers = machine.registers := by rw [agree.rest]
  rw [setRegisters_registers machine, setRegisters_registers other]
  simp only [Machine.setRegisters, same]
  generalize Vector.ofFn _ = registers
  exact agree.map (fun machine => { machine with registers }) (fun _ _ _ _ _ => rfl) rfl

/-- Timers that are known to be equal stay so if they count down alike. -/
theorem decay (agree : machine.Agree other accord) {count otherCount : Int}
    (delays : accord.delays → otherCount = count) (sounds : accord.sounds → otherCount = count) :
    (machine.decay count).Agree (other.decay otherCount) accord := by
  refine ⟨?_, agree.modern, agree.index, ?_, ?_⟩
  · unfold Machine.decay
    rw [agree.rest]
  · intro known
    simp only [Machine.decay, agree.delayTimer known, delays known]
  · intro known
    simp only [Machine.decay, agree.soundTimer known, sounds known]

/-- An instruction that does not set the index keeps no more than what was equal before. -/
theorem after (agree : machine.Agree other accord) {instruction : Instruction}
    (unset : instruction.setsIndex = false) : machine.Agree other (accord.after instruction) := by
  apply agree.withIndices
  rintro (sets | ⟨indices, _⟩)
  · rw [unset] at sets
    contradiction
  · exact agree.index indices

/-- An operation on registers keeps the agreement unless it is a shift that may see the modes. -/
theorem calculate (agree : machine.Agree other accord) (operation : Arithmetic) (x y : Register)
    (shift : operation.isShift = true →
      accord.modes ∨ machine.register x = machine.register y) :
    (machine.calculate operation x y).Agree (other.calculate operation x y) accord := by
  have first :
      (if (operation.isShift && !other.modern) = true then machine.register y
        else machine.register x) =
      if (operation.isShift && !machine.modern) = true then machine.register y
        else machine.register x := by
    cases shifts : operation.isShift with
    | false => rfl
    | true =>
        rcases shift shifts with modes | same
        · rw [agree.modern modes]
        · rw [same, ite_self, ite_self]
  unfold Machine.calculate
  simp only [agree.register, first]
  split
  · exact (agree.setRegister _ _).setRegister _ _
  · exact agree.setRegister _ _

/-- The end of a block transfer keeps the agreement, and that of the indices in equal modes only. -/
theorem passBlock (agree : machine.Agree other accord) {instruction : Instruction}
    (unset : instruction.setsIndex = false) (transfers : instruction.transfers = true)
    (x : Register) :
    (machine.passBlock x).Agree (other.passBlock x) (accord.after instruction) := by
  have rest := agree.rest
  rw [passBlock_index machine, passBlock_index other]
  refine ⟨?_, agree.modern, ?_, agree.delayTimer, agree.soundTimer⟩
  · rw [rest]
  · rintro (sets | ⟨indices, modes | still⟩)
    · rw [unset] at sets
      contradiction
    · simp only [Machine.passBlock, agree.modern modes]
      split <;> simp only [agree.index indices]
    · rw [transfers] at still
      contradiction

/-- A write to the same block succeeds on both machines. -/
theorem writeBlock (agree : machine.Agree other accord) {address : Int} {bytes : List UInt8}
    {next : Machine} (written : machine.writeBlock address bytes = .ok next) :
    ∃ otherNext, other.writeBlock address bytes = .ok otherNext ∧
      next.Agree otherNext accord := by
  have inside := writeBlock_inside written
  rw [writeBlock_ok written]
  cases writtenOther : other.writeBlock address bytes with
  | error fault =>
      have outside := (writeBlock_error_iff other address bytes fault).mp writtenOther
      omega
  | ok otherNext =>
      refine ⟨otherNext, rfl, ?_⟩
      rw [writeBlock_ok writtenOther]
      exact agree.map
        (fun machine => { machine with
          memory := overlay machine.memory address.toNat bytes.toArray })
        (fun _ _ _ _ _ => rfl) rfl

/-- Agreeing machines refuse the same instructions. -/
theorem refuses (agree : machine.Agree other accord) {instruction : Instruction} {fault : Fault}
    (index : instruction.readsIndex = true → accord.indices)
    (refuses : machine.Refuses instruction fault) : other.Refuses instruction fault := by
  have stack : machine.stack = other.stack := by rw [agree.rest]
  cases refuses with
  | returnToCaller empty => exact .returnToCaller (stack ▸ empty)
  | call target full => exact .call target (stack ▸ full)
  | draw x y rows outside =>
      exact (Refuses.draw x y rows outside).transfer stack (agree.index (index rfl)).symm
  | storeDecimal x outside =>
      exact (Refuses.storeDecimal x outside).transfer stack (agree.index (index rfl)).symm
  | storeRegisters x outside =>
      exact (Refuses.storeRegisters x outside).transfer stack (agree.index (index rfl)).symm
  | loadRegisters x outside =>
      exact (Refuses.loadRegisters x outside).transfer stack (agree.index (index rfl)).symm

/-- An instruction that neither reads nor writes the parts that may differ keeps the agreement. -/
theorem executes (agree : machine.Agree other accord) {instruction : Instruction}
    (unset : instruction.setsIndex = false) (change : Machine → Machine)
    (executes : ∀ machine : Machine, machine.execute instruction = .ok (change machine))
    (blind : ∀ (machine : Machine) index delayTimer soundTimer modern,
      change { machine with index, delayTimer, soundTimer, modern } =
        { change machine with index, delayTimer, soundTimer, modern })
    (keeps : change machine =
      { change machine with
        index := machine.index
        delayTimer := machine.delayTimer
        soundTimer := machine.soundTimer
        modern := machine.modern })
    {next : Machine} (executed : machine.execute instruction = .ok next) :
    ∃ otherNext, other.execute instruction = .ok otherNext ∧
      next.Agree otherNext (accord.after instruction) := by
  rw [executes machine] at executed
  cases executed
  exact ⟨change other, executes other, (agree.map change blind keeps).after unset⟩

/-- An instruction that skips on a condition keeps the agreement if both machines see the same
condition. -/
theorem executes_skipIf (agree : machine.Agree other accord) {instruction : Instruction}
    (unset : instruction.setsIndex = false) (condition : Machine → Bool)
    (executes : ∀ machine : Machine,
      machine.execute instruction = .ok (machine.skipIf (condition machine)))
    (same : condition other = condition machine)
    {next : Machine} (executed : machine.execute instruction = .ok next) :
    ∃ otherNext, other.execute instruction = .ok otherNext ∧
      next.Agree otherNext (accord.after instruction) := by
  rw [executes machine] at executed
  cases executed
  refine ⟨other.skipIf (condition machine), ?_, (agree.skipIf _).after unset⟩
  rw [executes other, same]

/-- An instruction that looks at nothing that differs succeeds on both machines and keeps the
agreement. -/
theorem execute (agree : machine.Agree other accord) {instruction : Instruction}
    (tolerates : accord.Tolerates machine instruction) {next : Machine}
    (executed : machine.execute instruction = .ok next) :
    ∃ otherNext, other.execute instruction = .ok otherNext ∧
      next.Agree otherNext (accord.after instruction) := by
  have rest := agree.rest
  cases instruction
  case clearScreen =>
    exact agree.executes rfl (fun machine => { machine with display := Bitmap.blank })
      (fun _ => rfl) (fun _ _ _ _ _ => rfl) rfl executed
  case system | waitKey =>
    exact agree.executes rfl id (fun _ => rfl) (fun _ _ _ _ _ => rfl) rfl executed
  case jump target =>
    exact agree.executes rfl
      (fun machine =>
        let pc := UInt16.ofNat target.val
        { machine with pc, halted := machine.halted || pc = machine.pc - 2 })
      (fun _ => rfl) (fun _ _ _ _ _ => rfl) rfl executed
  case jumpOffset target =>
    exact agree.executes rfl
      (fun machine =>
        let address := target.val + (machine.register .base).toNat &&& Layout.addressMask
        { machine with pc := UInt16.ofNat address })
      (fun _ => rfl) (fun _ _ _ _ _ => rfl) rfl executed
  case loadByte x byte =>
    exact agree.executes rfl (fun machine => machine.setRegister x byte)
      (fun _ => rfl) (fun _ _ _ _ _ => rfl) rfl executed
  case addByte x byte =>
    exact agree.executes rfl (fun machine => machine.setRegister x (machine.register x + byte))
      (fun _ => rfl) (fun _ _ _ _ _ => rfl) rfl executed
  case random x byte =>
    exact agree.executes rfl
      (fun machine =>
        { machine.setRegister x (Random.byte machine.random &&& byte) with
          random := Random.next machine.random })
      (fun _ => rfl) (fun _ _ _ _ _ => rfl) rfl executed
  case skipEqualByte x byte =>
    exact agree.executes_skipIf rfl (fun machine => machine.register x = byte) (fun _ => rfl)
      (by simp only [agree.register]) executed
  case skipUnequalByte x byte =>
    exact agree.executes_skipIf rfl (fun machine => machine.register x ≠ byte) (fun _ => rfl)
      (by simp only [agree.register]) executed
  case skipEqual x y =>
    exact agree.executes_skipIf rfl (fun machine => machine.register x = machine.register y)
      (fun _ => rfl) (by simp only [agree.register]) executed
  case skipUnequal x y =>
    exact agree.executes_skipIf rfl (fun machine => machine.register x ≠ machine.register y)
      (fun _ => rfl) (by simp only [agree.register]) executed
  case skipPressed x =>
    exact agree.executes_skipIf rfl (fun machine => machine.keyDown x) (fun _ => rfl)
      (by rw [rest]; rfl) executed
  case skipReleased x =>
    exact agree.executes_skipIf rfl (fun machine => !machine.keyDown x) (fun _ => rfl)
      (by rw [rest]; rfl) executed
  case returnToCaller =>
    rw [execute_returnToCaller, map_eq_ok_iff] at executed
    obtain ⟨⟨stack, address⟩, popped, rfl⟩ := executed
    refine ⟨{ other with stack, pc := address }, ?_, ?_⟩
    · rw [execute_returnToCaller, rest]
      simp only [popped]
      rfl
    · exact (agree.map (fun machine => { machine with stack, pc := address })
        (fun _ _ _ _ _ => rfl) rfl).after rfl
  case call target =>
    rw [execute_call, map_eq_ok_iff] at executed
    obtain ⟨stack, pushed, rfl⟩ := executed
    refine ⟨{ other with stack, pc := UInt16.ofNat target.val }, ?_, ?_⟩
    · rw [execute_call, rest]
      simp only [pushed]
      rfl
    · exact (agree.map (fun machine => { machine with stack, pc := UInt16.ofNat target.val })
        (fun _ _ _ _ _ => rfl) rfl).after rfl
  case arithmetic operation x y =>
    cases executed
    exact ⟨_, rfl, (agree.calculate operation x y (tolerates.shift operation x y rfl)).after rfl⟩
  case readDelay x =>
    cases executed
    refine ⟨_, rfl, ?_⟩
    rw [agree.delayTimer (tolerates.delay x rfl)]
    exact (agree.setRegister x _).after rfl
  case writeDelay x =>
    cases executed
    refine ⟨_, rfl, ?_⟩
    rw [agree.register]
    have agrees : Agree { machine with delayTimer := machine.register x }
        { other with delayTimer := machine.register x } accord :=
      ⟨by rw [rest], agree.modern, agree.index, fun _ => rfl, agree.soundTimer⟩
    exact agrees.after rfl
  case writeSound x =>
    cases executed
    refine ⟨_, rfl, ?_⟩
    rw [agree.register]
    have agrees : Agree { machine with soundTimer := machine.register x }
        { other with soundTimer := machine.register x } accord :=
      ⟨by rw [rest], agree.modern, agree.index, agree.delayTimer, fun _ => rfl⟩
    exact agrees.after rfl
  case loadIndex target =>
    cases executed
    refine ⟨_, rfl, ?_, agree.modern, fun _ => rfl, agree.delayTimer, agree.soundTimer⟩
    rw [rest]
  case loadGlyph x =>
    cases executed
    refine ⟨_, rfl, ?_, agree.modern, fun _ => ?_, agree.delayTimer, agree.soundTimer⟩
    · rw [rest]
    · rw [agree.register]
  case addIndex x =>
    cases executed
    have index := agree.index (tolerates.index rfl)
    refine ⟨_, rfl, ?_, agree.modern, fun _ => ?_, agree.delayTimer, agree.soundTimer⟩
    · rw [rest]
    · rw [index, agree.register]
  case draw x y rows =>
    have index := agree.index (tolerates.index rfl)
    rw [execute_draw, map_eq_ok_iff] at executed
    obtain ⟨sprite, read, rfl⟩ := executed
    have readOther : other.readBlock other.index.toNat rows.val = .ok sprite := by
      rw [index, rest]
      exact read
    refine ⟨_, by rw [execute_draw, readOther]; rfl, ?_⟩
    rw [agree.register, agree.register]
    have display : other.display = machine.display := by rw [rest]
    rw [display]
    let display :=
      machine.display.draw (machine.register x).toNat (machine.register y).toNat sprite
    exact ((agree.map (fun machine => { machine with display }) (fun _ _ _ _ _ => rfl)
      rfl).setRegister _ _).after rfl
  case storeDecimal x =>
    have index := agree.index (tolerates.index rfl)
    rw [execute_storeDecimal] at executed
    obtain ⟨otherNext, written, agrees⟩ := agree.writeBlock executed
    refine ⟨otherNext, ?_, agrees.after rfl⟩
    rw [execute_storeDecimal, index, agree.register, written]
  case storeRegisters x =>
    have index := agree.index (tolerates.index rfl)
    rw [execute_storeRegisters, map_eq_ok_iff] at executed
    obtain ⟨stored, written, rfl⟩ := executed
    obtain ⟨otherStored, writtenOther, agrees⟩ := agree.writeBlock written
    have through : other.registersThrough x = machine.registersThrough x := by rw [rest]; rfl
    refine ⟨otherStored.passBlock x, ?_, ?_⟩
    · rw [execute_storeRegisters, index, through, writtenOther]
      rfl
    · exact agrees.passBlock rfl rfl x
  case loadRegisters x =>
    have index := agree.index (tolerates.index rfl)
    rw [execute_loadRegisters, map_eq_ok_iff] at executed
    obtain ⟨bytes, read, rfl⟩ := executed
    have readOther : other.readBlock other.index.toNat (x.val + 1) = .ok bytes := by
      rw [index, rest]
      exact read
    refine ⟨(other.setRegisters bytes).passBlock x, ?_, ?_⟩
    · rw [execute_loadRegisters, readOther]
      rfl
    · exact (agree.setRegisters bytes).passBlock rfl rfl x

end Agree

end Machine

end Chip8
