import Chip8.Proofs.Machine.Agreement
import Chip8.Proofs.System.Events

namespace Chip8

/-- This says that a step looks at nothing that may differ. A refused instruction has looked at the
index at most. -/
structure Accord.Admits (accord : Accord) (machine : Machine) (event : StepEvent) : Prop where
  index : ∀ instruction, event.Attempts instruction → instruction.readsIndex = true →
    accord.indices
  delay : ∀ x, event.Executes (.readDelay x) → accord.delays
  shift : ∀ operation x y, event.Executes (.arithmetic operation x y) → operation.isShift = true →
    accord.modes ∨ machine.register x = machine.register y

/-- The instruction of an admitted step is tolerated. -/
theorem Accord.Admits.tolerates {accord : Accord} {machine : Machine} {event : StepEvent}
    (admits : accord.Admits machine event) {instruction : Instruction}
    (executes : event.Executes instruction) : accord.Tolerates machine instruction where
  index := admits.index instruction executes.attempts
  delay x same := admits.delay x (same ▸ executes)
  shift operation x y same := admits.shift operation x y (same ▸ executes)

/-- This is what stays equal in a step. -/
def Accord.following (accord : Accord) : Option StepEvent → Accord
  | none => accord
  | some event =>
    { accord with
      indices := (∃ instruction, event.Executes instruction ∧ instruction.setsIndex = true) ∨
        accord.indices ∧
          (accord.modes ∨
            ∀ instruction, event.Executes instruction → instruction.transfers = false) }

/-- This says that two configurations start alike, but for what is not known to be equal. -/
structure Config.Agree (config other : Config) (accord : Accord) : Prop where
  errorPolicy : other.errorPolicy = config.errorPolicy
  seed : other.seed = config.seed
  modern : accord.modes → other.modern = config.modern
  delayTimer : accord.delays → other.delayTimer = config.delayTimer
  timerRate : accord.delays → other.timerRate = config.timerRate
  soundTimer : accord.sounds → other.soundTimer = config.soundTimer

/-- Configurations have no index. -/
theorem Config.Agree.withIndices {config other : Config} {accord : Accord}
    (agree : config.Agree other accord) (indices : Prop) :
    config.Agree other { accord with indices } :=
  ⟨agree.errorPolicy, agree.seed, agree.modern, agree.delayTimer, agree.timerRate,
    agree.soundTimer⟩

namespace System

/-- This is what stays equal in an operation; a reset makes the indices equal. -/
def following (system : System) (accord : Accord) : Operation → Accord
  | .reset => { accord with indices := True }
  | operation => accord.following (system.stepEvent? operation)

/-- Operations decide over the indices only. -/
theorem following_eq (system : System) (accord : Accord) (operation : Operation) :
    system.following accord operation =
      { accord with indices := (system.following accord operation).indices } := by
  cases operation with
  | tick elapsed =>
      change accord.following (system.stepEvent? (.tick elapsed)) =
        { accord with indices := (accord.following (system.stepEvent? (.tick elapsed))).indices }
      cases system.stepEvent? (.tick elapsed) <;> rfl
  | _ => rfl

/-- This pairs the operations that two systems may carry out in step: the same one, or two ticks
whose times are accounted for if nothing is known of the timers. -/
inductive InStep (system other : System) (accord : Accord) : Operation → Operation → Prop where
  | untimed (operation : Operation) (untimed : ∀ elapsed, operation ≠ .tick elapsed) :
      InStep system other accord operation operation
  | alike (elapsed : Binary64) (timed : accord.delays) :
      InStep system other accord (.tick elapsed) (.tick elapsed)
  | apart {elapsed otherElapsed : Binary64} {timing otherTiming : Timing} {count otherCount : Int}
      (accounted : system.timing.advance elapsed = (timing, .ok count))
      (accountedOther : other.timing.advance otherElapsed = (otherTiming, .ok otherCount))
      (loose : ¬ accord.delays ∧ ¬ accord.sounds) :
      InStep system other accord (.tick elapsed) (.tick otherElapsed)

/-- The same operations are in step if the timers are known to be equal. -/
theorem InStep.same (system other : System) (accord : Accord) (timed : accord.delays)
    (operation : Operation) : InStep system other accord operation operation := by
  cases operation with
  | tick elapsed => exact .alike elapsed timed
  | _ => exact .untimed _ nofun

/-- This says that two systems differ at most in the configuration, the mode, the index, the timers
and the time, and not in those of them that are known to be equal. -/
structure Agree (system other : System) (accord : Accord) : Prop where
  config : system.config.Agree other.config accord
  machine : system.machine.Agree other.machine accord
  pending : other.pending = system.pending
  dirty : other.dirty = system.dirty
  timing : accord.delays → other.timing = system.timing

/-- The machines of agreeing configurations start with equal indices. -/
theorem machine_agree {config other : Config} {accord : Accord}
    (agree : config.Agree other accord) :
    config.machine.Agree other.machine { accord with indices := True } := by
  refine ⟨?_, agree.modern, fun _ => rfl, agree.delayTimer, agree.soundTimer⟩
  simp only [Config.machine, Machine.powerOn, agree.seed]

/-- Systems whose configurations agree start with equal indices. -/
theorem powerOn_agree {config other : Config} {accord : Accord}
    (agree : config.Agree other accord) :
    (powerOn config).Agree (powerOn other) { accord with indices := True } where
  config := agree.withIndices True
  machine := machine_agree agree
  pending := rfl
  dirty := rfl
  timing := by
    intro known
    simp only [powerOn, agree.timerRate known]

namespace Agree

variable {system other : System} {accord : Accord}

/-- What is known of the indices can be replaced. -/
theorem withIndices (agree : system.Agree other accord) {indices : Prop}
    (index : indices → other.machine.index = system.machine.index) :
    system.Agree other { accord with indices } where
  config := agree.config.withIndices indices
  machine := agree.machine.withIndices index
  pending := agree.pending
  dirty := agree.dirty
  timing := agree.timing

/-- What is known of the indices after an operation can be weakened. -/
theorem settle {before : System} {operation : Operation}
    (agree : system.Agree other (before.following accord operation)) {indices : Prop}
    (known : indices → (before.following accord operation).indices) :
    system.Agree other { accord with indices } := by
  have settled := agree.withIndices fun holds => agree.machine.index (known holds)
  rw [following_eq] at settled
  exact settled

/-- Agreeing systems are equal but for the configuration, the machine and the time. -/
theorem rest (agree : system.Agree other accord) :
    other =
      { system with config := other.config, machine := other.machine, timing := other.timing } := by
  have pending := agree.pending
  have dirty := agree.dirty
  cases system
  cases other
  cases pending
  cases dirty
  rfl

/-- A step that executes nothing leaves the indices. -/
theorem following (agree : system.Agree other accord) {event : StepEvent}
    (unexecuted : event.outcome ≠ .executed) :
    system.Agree other (accord.following (some event)) := by
  apply agree.withIndices
  rintro (⟨_, executes, _⟩ | ⟨indices, _⟩)
  · exact absurd executes.1 unexecuted
  · exact agree.machine.index indices

/-- Agreeing machines stand in front of the same words. -/
theorem meets (agree : system.Agree other accord) {decoded : Decoded}
    (meets : system.machine.Meets decoded) : other.machine.Meets decoded := by
  have memory : system.machine.memory = other.machine.memory := by rw [agree.machine.rest]
  have pc : system.machine.pc = other.machine.pc := by rw [agree.machine.rest]
  exact ⟨meets.1.transfer memory pc, meets.2⟩

/-- Agreeing machines stand in front of the same faults, as far as they look at the same index. -/
theorem faults (agree : system.Agree other accord) {instruction : Option Decoded} {fault : Fault}
    (index : ∀ decoded, instruction = some decoded →
      decoded.instruction.readsIndex = true → accord.indices)
    (faults : system.machine.Faults instruction fault) :
    other.machine.Faults instruction fault := by
  have memory : system.machine.memory = other.machine.memory := by rw [agree.machine.rest]
  have pc : system.machine.pc = other.machine.pc := by rw [agree.machine.rest]
  cases faults with
  | fetch outside =>
      rw [pc] at outside ⊢
      exact .fetch outside
  | decode word holds unmatched => exact .decode word (holds.transfer memory pc) unmatched
  | execute decoded fault meets refuses =>
      exact .execute decoded fault (agree.meets meets)
        (agree.machine.refuses (index decoded rfl) refuses)

/-- Policies treat agreeing machines alike. -/
theorem applyPolicy {machine other : Machine} (agree : machine.Agree other accord)
    (policy : ErrorPolicy) :
    (applyPolicy policy machine).Agree (applyPolicy policy other) accord := by
  cases policy with
  | halt =>
      exact agree.map (fun machine => { machine with halted := true }) (fun _ _ _ _ _ => rfl) rfl
  | skip => exact agree.skip
  | raise => exact agree

/-- Agreeing systems step alike, unless the step looks at what may differ. -/
theorem stepOrPoll (agree : system.Agree other accord)
    (admits : accord.Admits system.machine system.stepOrPoll.2) :
    other.stepOrPoll.2 = system.stepOrPoll.2 ∧
      system.stepOrPoll.1.Agree other.stepOrPoll.1
        (accord.following (some system.stepOrPoll.2)) := by
  have place : other.machine.pc = system.machine.pc := by rw [agree.machine.rest]
  have keys : other.machine.lowestKey? = system.machine.lowestKey? := by
    rw [agree.machine.rest]
    rfl
  have advances := system.stepOrPoll_advances
  generalize system.stepOrPoll = advanced at advances admits ⊢
  -- Only an executed instruction can tell the indices apart or make them equal again.
  cases advances with
  | failed idle instruction fault faults =>
      have faultsOther : other.machine.Faults instruction fault :=
        agree.faults (fun decoded same => admits.index decoded.instruction ⟨_, same⟩) faults
      have steps : other.stepOrPoll = other.fail instruction fault := by
        rw [stepOrPoll_idle (agree.pending.trans idle), step_faults faultsOther]
      rw [steps]
      refine ⟨by simp only [fail, place], Agree.following ?_ (by simp [fail])⟩
      refine ⟨agree.config, ?_, agree.pending, agree.dirty, agree.timing⟩
      simp only [fail, agree.config.errorPolicy]
      exact applyPolicy agree.machine _
  | parked idle decoded meets blocks =>
      rw [stepOrPoll_idle (agree.pending.trans idle), step_parks (agree.meets meets) blocks, place]
      refine ⟨rfl, Agree.following ?_ (by simp)⟩
      exact ⟨agree.config, agree.machine, rfl, agree.dirty, agree.timing⟩
  | executed idle decoded machine meets moves executed =>
      obtain ⟨otherNext, executedOther, agrees⟩ :=
        agree.machine.skip.execute (admits.tolerates ⟨rfl, _, rfl⟩).skip executed
      rw [stepOrPoll_idle (agree.pending.trans idle),
        step_executes (agree.meets meets) moves executedOther, place, agree.dirty]
      refine ⟨rfl, agree.config.withIndices _, ?_, agree.pending, rfl, agree.timing⟩
      apply agrees.withIndices
      rintro (⟨setter, ⟨_, word, same⟩, sets⟩ | ⟨indices, modes⟩)
      · cases same
        exact agrees.index (.inl sets)
      · exact agrees.index (.inr ⟨indices, modes.imp_right fun still => still _ ⟨rfl, _, rfl⟩⟩)
  | waiting decoded parked silent =>
      rw [stepOrPoll_waits (agree.pending.trans parked) (keys.trans silent), place]
      exact ⟨rfl, agree.following (by simp)⟩
  | resumed decoded parked key down =>
      rw [stepOrPoll_resumes (agree.pending.trans parked) (keys.trans down), place]
      refine ⟨rfl, Agree.following ?_ (by simp)⟩
      exact ⟨agree.config, (agree.machine.setRegister _ _).skip, rfl, agree.dirty, agree.timing⟩

/-- Agreeing systems tick alike when both times are accounted for, unless the step looks at what may
differ. -/
theorem tick_accounted (agree : system.Agree other accord) {elapsed otherElapsed : Binary64}
    {timing otherTiming : Timing} {count otherCount : Int}
    (accounted : system.timing.advance elapsed = (timing, .ok count))
    (accountedOther : other.timing.advance otherElapsed = (otherTiming, .ok otherCount))
    (timings : accord.delays → otherTiming = timing) (delays : accord.delays → otherCount = count)
    (sounds : accord.sounds → otherCount = count)
    (admits : ∀ event, system.stepEvent? (.tick elapsed) = some event →
      accord.Admits system.machine event) :
    (other.tick otherElapsed).2 = (system.tick elapsed).2 ∧
      (system.tick elapsed).1.Agree (other.tick otherElapsed).1
        (accord.following (system.tick elapsed).2.event?) := by
  obtain ⟨same, stepped⟩ := agree.stepOrPoll
    (admits _ (stepEvent_tick (Timing.advance_nonnegative accounted)))
  rw [tick_observed accounted, tick_observed accountedOther, same]
  exact ⟨rfl, stepped.config, stepped.machine.decay delays sounds, stepped.pending, stepped.dirty,
    timings⟩

/-- Agreeing systems with equal timers tick alike, unless the step looks at what may differ. -/
theorem tick_alike (agree : system.Agree other accord) (timed : accord.delays)
    {elapsed : Binary64} (admits : ∀ event, system.stepEvent? (.tick elapsed) = some event →
      accord.Admits system.machine event) :
    (other.tick elapsed).2 = (system.tick elapsed).2 ∧
      (system.tick elapsed).1.Agree (other.tick elapsed).1
        (accord.following (system.tick elapsed).2.event?) := by
  have timing := agree.timing timed
  cases negative : elapsed.less (.finite 0) with
  | true =>
      rw [tick_rejected negative, tick_rejected negative]
      exact ⟨rfl, agree⟩
  | false =>
      cases accounted : system.timing.advance elapsed with
      | mk next result =>
          have accountedOther := accounted
          rw [← timing] at accountedOther
          cases result with
          | error error =>
              obtain ⟨same, stepped⟩ := agree.stepOrPoll (admits _ (stepEvent_tick negative))
              rw [tick_untimed negative accounted, tick_untimed negative accountedOther, same]
              exact ⟨rfl, stepped.config, stepped.machine, stepped.pending, stepped.dirty,
                fun _ => rfl⟩
          | ok count =>
              exact agree.tick_accounted accounted accountedOther (fun _ => rfl) (fun _ => rfl)
                (fun _ => rfl) admits

/-- Systems with the same policy answer equal results alike. -/
theorem perform_tick (agree : system.Agree other accord) {elapsed otherElapsed : Binary64}
    (ticks : (other.tick otherElapsed).2 = (system.tick elapsed).2 ∧
      (system.tick elapsed).1.Agree (other.tick otherElapsed).1
        (accord.following (system.tick elapsed).2.event?)) :
    (other.perform (.tick otherElapsed)).2 = (system.perform (.tick elapsed)).2 ∧
      other.stepEvent? (.tick otherElapsed) = system.stepEvent? (.tick elapsed) ∧
      (system.after (.tick elapsed)).Agree (other.after (.tick otherElapsed))
        (system.following accord (.tick elapsed)) := by
  obtain ⟨same, agrees⟩ := ticks
  refine ⟨?_, ?_, agrees⟩
  · simp only [System.perform, same, agree.config.errorPolicy]
  · simp only [stepEvent?, same]

/-- Agreeing systems answer alike and keep their agreement in operations that are in step, unless a
step looks at what may differ. -/
theorem perform (agree : system.Agree other accord) {operation otherOperation : Operation}
    (inStep : system.InStep other accord operation otherOperation)
    (admits : ∀ event, system.stepEvent? operation = some event →
      accord.Admits system.machine event) :
    (other.perform otherOperation).2 = (system.perform operation).2 ∧
      other.stepEvent? otherOperation = system.stepEvent? operation ∧
      (system.after operation).Agree (other.after otherOperation)
        (system.following accord operation) := by
  cases inStep with
  | untimed operation untimed =>
      cases operation with
      | tick elapsed => exact absurd rfl (untimed elapsed)
      | setKey key pressed =>
          rw [System.after, System.after, perform_setKey, perform_setKey]
          exact ⟨rfl, rfl, agree.config,
            agree.machine.map
              (fun machine => { machine with keypad := keyed machine.keypad key pressed })
              (fun _ _ _ _ _ => rfl) rfl,
            agree.pending, agree.dirty, agree.timing⟩
      | load program =>
          rw [System.after, System.after, perform_load, perform_load]
          exact ⟨rfl, rfl, agree.config,
            agree.machine.map
              (fun machine => { machine with memory := loaded machine.memory program })
              (fun _ _ _ _ _ => rfl) rfl,
            agree.pending, agree.dirty, agree.timing⟩
      | consumeFrame =>
          have display : other.machine.display = system.machine.display := by
            rw [agree.machine.rest]
          refine ⟨?_, rfl, agree.config, agree.machine, agree.pending, rfl, agree.timing⟩
          simp only [System.perform, consumeFrame, display]
      | reset =>
          rw [after_reset, after_reset]
          exact ⟨rfl, rfl, agree.config.withIndices True, machine_agree agree.config, rfl, rfl,
            fun known => congrArg Timing.reset (agree.timing known)⟩
  | alike elapsed timed => exact agree.perform_tick (agree.tick_alike timed admits)
  | apart accounted accountedOther loose =>
      exact agree.perform_tick
        (agree.tick_accounted accounted accountedOther (fun known => absurd known loose.1)
          (fun known => absurd known loose.1) (fun known => absurd known loose.2) admits)

end Agree

end System

end Chip8
