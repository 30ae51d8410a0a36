import Chip8.Proofs.Machine.Control
import Chip8.Proofs.System.Failures
import Chip8.Proofs.System.Histories

namespace Chip8

/-- This says that two machines differ at most in the keypad and the timers. -/
def Machine.AgreesBesidesInput (machine other : Machine) : Prop :=
  other =
    { machine with
      keypad := other.keypad
      delayTimer := other.delayTimer
      soundTimer := other.soundTimer }

/-- This relates a machine to an event that its steps repeat: it stands in front of a jump to itself
or of a fault. -/
inductive Machine.Repeats (machine : Machine) : StepEvent → Prop where
  | jump (decoded : Decoded) (target : Address) (meets : machine.Meets decoded)
      (jumps : decoded.instruction = .jump target) (itself : target.val = machine.pc.toNat) :
      Repeats machine { pc := machine.pc, instruction := some decoded, outcome := .executed }
  | fault (instruction : Option Decoded) (fault : Fault)
      (faults : machine.Faults instruction fault) :
      Repeats machine { pc := machine.pc, instruction, outcome := .failed fault }

theorem Machine.AgreesBesidesInput.refl (machine : Machine) : machine.AgreesBesidesInput machine :=
  rfl

theorem Machine.AgreesBesidesInput.trans {first second third : Machine}
    (left : first.AgreesBesidesInput second) (right : second.AgreesBesidesInput third) :
    first.AgreesBesidesInput third := by
  unfold AgreesBesidesInput at left right ⊢
  rw [left] at right
  exact right

/-- Machines that agree besides input repeat the same events. -/
theorem Machine.Repeats.transfer {machine other : Machine} {event : StepEvent}
    (repeats : machine.Repeats event) (agrees : machine.AgreesBesidesInput other) :
    other.Repeats event := by
  have memory : machine.memory = other.memory := by rw [agrees]
  have pc : machine.pc = other.pc := by rw [agrees]
  have stack : machine.stack = other.stack := by rw [agrees]
  have index : machine.index = other.index := by rw [agrees]
  cases repeats with
  | jump decoded target meets jumps itself =>
      rw [pc] at itself ⊢
      exact .jump decoded target ⟨meets.1.transfer memory pc, meets.2⟩ jumps itself
  | fault instruction fault faults =>
      rw [pc]
      exact .fault instruction fault (faults.transfer memory pc stack index)

/-- A jump leads to an address exactly when its target is that address. -/
theorem Address.leads_iff (target : Address) (pc : UInt16) :
    UInt16.ofNat target.val = pc ↔ target.val = pc.toNat := by
  have inside := target.isLt
  rw [← UInt16.toNat_inj, UInt16.toNat_ofNat', Nat.mod_eq_of_lt (by omega)]

/-- A jump to itself leaves the machine in front of it and halts it. -/
theorem Machine.execute_jump_itself {machine : Machine} {target : Address}
    (itself : target.val = machine.pc.toNat) :
    machine.skip.execute (.jump target) = .ok { machine with halted := true } := by
  have place := (target.leads_iff machine.pc).mpr itself
  have back : UInt16.ofNat target.val = machine.pc + 2 - 2 := by
    rw [place, UInt16.add_sub_cancel]
  change Except.ok { machine.skip with
    pc := UInt16.ofNat target.val
    halted := machine.halted || decide (UInt16.ofNat target.val = machine.pc + 2 - 2) } = _
  rw [decide_eq_true back, Bool.or_true, place]
  rfl

namespace System

/-- This says that an event of a step is a reason to halt. -/
def ReasonToHalt (system : System) (event : StepEvent) : Prop :=
  (event.outcome = .executed ∧ ∃ word target,
      event.instruction = some { word, instruction := .jump target } ∧
        target.val = system.machine.pc.toNat) ∨
    (∃ fault, event.outcome = .failed fault) ∧ system.config.errorPolicy = .halt

/-- This says that a system is halted and repeats an event. -/
structure Stuck (system : System) (event : StepEvent) : Prop where
  idle : system.pending = none
  halted : system.machine.halted = true
  repeats : system.machine.Repeats event
  policy : ∀ fault, event.outcome = .failed fault → system.config.errorPolicy = .halt

/-- A step sets the halted flag exactly for a reason to halt. -/
theorem stepOrPoll_halted_iff (system : System) :
    system.stepOrPoll.1.machine.halted = true ↔
      system.machine.halted = true ∨ system.ReasonToHalt system.stepOrPoll.2 := by
  have advances := system.stepOrPoll_advances
  generalize system.stepOrPoll = advanced at advances ⊢
  cases advances with
  | failed idle instruction fault faults =>
      simp only [fail, ReasonToHalt]
      cases policy : system.config.errorPolicy <;> simp [applyPolicy, Machine.skip]
  | parked idle decoded meets blocks => simp [ReasonToHalt]
  | waiting decoded parked silent => simp [ReasonToHalt]
  | resumed decoded parked key down => simp [ReasonToHalt, Machine.skip, Machine.setRegister]
  | executed idle decoded machine meets moves executed =>
      obtain ⟨word, instruction⟩ := decoded
      cases Machine.execute_moves executed with
      | jumped target pc stack halted =>
          simp only [halted, pc, Machine.skip, UInt16.add_sub_cancel, Address.leads_iff,
            Bool.or_eq_true, decide_eq_true_eq]
          simp [ReasonToHalt]
      | onward _ straight _ _ halted => simp [halted, ReasonToHalt, straight, Machine.skip]
      | skipped _ straight _ _ halted => simp [halted, ReasonToHalt, straight, Machine.skip]
      | offset _ _ _ halted => simp [halted, ReasonToHalt, Machine.skip]
      | called _ _ _ halted => simp [halted, ReasonToHalt, Machine.skip]
      | returned _ halted => simp [halted, ReasonToHalt, Machine.skip]

/-- The step that sets the halted flag leaves the system stuck on its event. -/
theorem stuck_of_halting {system : System} (running : system.machine.halted = false)
    (halts : system.stepOrPoll.1.machine.halted = true) :
    system.stepOrPoll.1.Stuck system.stepOrPoll.2 := by
  -- A running machine halts for a reason, which excludes every way to advance but two.
  have reason := system.stepOrPoll_halted_iff.mp halts
  rw [running] at reason
  have advances := system.stepOrPoll_advances
  generalize system.stepOrPoll = advanced at advances halts reason ⊢
  cases advances with
  | failed idle instruction fault faults =>
      have policy : system.config.errorPolicy = .halt := by
        simpa [ReasonToHalt, fail] using reason
      have same : (system.fail instruction fault).1.machine =
          { system.machine with halted := true } := by
        simp only [fail, applyPolicy, policy]
      refine ⟨idle, halts, ?_, fun _ _ => policy⟩
      rw [same]
      exact .fault instruction fault (faults.transfer rfl rfl rfl rfl)
  | parked => simp [ReasonToHalt] at reason
  | waiting => simp [ReasonToHalt] at reason
  | resumed => simp [ReasonToHalt] at reason
  | executed idle decoded machine meets moves executed =>
      obtain ⟨word, instruction⟩ := decoded
      obtain ⟨target, rfl, itself⟩ : ∃ target, instruction = .jump target ∧
          target.val = system.machine.pc.toNat := by
        simpa [ReasonToHalt] using reason
      rw [Machine.execute_jump_itself itself] at executed
      cases executed
      refine ⟨idle, halts, ?_, fun _ failed => by contradiction⟩
      exact .jump _ target ⟨meets.1.transfer rfl rfl, meets.2⟩ rfl itself

/-- A stuck system steps to itself. -/
theorem Stuck.stays {system : System} {event : StepEvent} (stuck : system.Stuck event) :
    system.stepOrPoll = (system, event) := by
  have same : { system.machine with halted := true } = system.machine := by rw [← stuck.halted]
  rw [stepOrPoll_idle stuck.idle]
  cases stuck.repeats with
  | jump decoded target meets jumps itself =>
      have executed : system.machine.skip.execute decoded.instruction = .ok system.machine := by
        rw [jumps, Machine.execute_jump_itself itself, same]
      have moves : decoded.instruction.blocks = false := by rw [jumps]; rfl
      have clean : decoded.instruction.draws = false := by rw [jumps]; rfl
      rw [step_executes meets moves executed, clean, Bool.or_false]
  | fault instruction fault faults =>
      rw [step_faults faults]
      simp only [fail, applyPolicy, stuck.policy fault rfl, same]

/-- Systems that agree besides input are stuck on the same events. -/
theorem Stuck.transfer {system other : System} {event : StepEvent} (stuck : system.Stuck event)
    (config : other.config = system.config) (pending : other.pending = system.pending)
    (agrees : system.machine.AgreesBesidesInput other.machine) : other.Stuck event := by
  constructor
  · rw [pending, stuck.idle]
  · rw [agrees]
    exact stuck.halted
  · exact stuck.repeats.transfer agrees
  · rw [config]
    exact stuck.policy

/-- This relates a system to one that ran on while only its input and its timers changed, unless
its frame was taken or its keys were touched. -/
structure Idles (system later : System) (taken touched : Prop) : Prop where
  config : later.config = system.config
  pending : later.pending = system.pending
  machine : system.machine.AgreesBesidesInput later.machine
  kept : ¬ taken → later.dirty = system.dirty
  cleaned : taken → later.dirty = false
  untouched : ¬ touched → later.machine.keypad = system.machine.keypad

theorem Idles.trans {first second third : System} {taken touched takenLater touchedLater : Prop}
    (left : first.Idles second taken touched)
    (right : second.Idles third takenLater touchedLater) :
    first.Idles third (taken ∨ takenLater) (touched ∨ touchedLater) := by
  constructor
  · exact right.config.trans left.config
  · exact right.pending.trans left.pending
  · exact left.machine.trans right.machine
  · intro kept
    obtain ⟨keptFirst, keptLater⟩ := not_or.mp kept
    exact (right.kept keptLater).trans (left.kept keptFirst)
  · intro cleaned
    by_cases again : takenLater
    · exact right.cleaned again
    · exact (right.kept again).trans (left.cleaned (cleaned.resolve_right again))
  · intro untouched
    obtain ⟨untouchedFirst, untouchedLater⟩ := not_or.mp untouched
    exact (right.untouched untouchedLater).trans (left.untouched untouchedFirst)

/-- A stuck system idles in every operation but loads and resets. -/
theorem Stuck.idles {system : System} {event : StepEvent} (stuck : system.Stuck event)
    {operation : Operation} (powered : operation ≠ .reset)
    (unloaded : ∀ program, operation ≠ .load program) :
    system.Idles (system.after operation) (.consumeFrame = operation)
      (∃ key pressed, .setKey key pressed = operation) := by
  cases operation with
  | tick elapsed =>
      have ticks := system.tick_ticks elapsed
      rw [after_tick]
      generalize system.tick elapsed = ticked at ticks ⊢
      cases ticks with
      | rejected => exact ⟨rfl, rfl, .refl _, fun _ => rfl, nofun, fun _ => rfl⟩
      | untimed =>
          rw [stuck.stays]
          exact ⟨rfl, rfl, .refl _, fun _ => rfl, nofun, fun _ => rfl⟩
      | observed =>
          rw [stuck.stays]
          exact ⟨rfl, rfl, rfl, fun _ => rfl, nofun, fun _ => rfl⟩
  | setKey key pressed =>
      obtain ⟨keypad, same⟩ := system.after_setKey key pressed
      rw [same]
      exact ⟨rfl, rfl, rfl, fun _ => rfl, nofun, fun still => absurd ⟨key, pressed, rfl⟩ still⟩
  | load program => exact absurd rfl (unloaded program)
  | consumeFrame =>
      exact ⟨rfl, rfl, .refl _, fun kept => absurd rfl kept, fun _ => rfl, fun _ => rfl⟩
  | reset => exact absurd rfl powered

/-- A stuck system stays stuck and idles in every history without loads and resets. -/
theorem Stuck.replay {system : System} {event : StepEvent} (stuck : system.Stuck event)
    (later : List Operation) (powered : Operation.reset ∉ later)
    (unloaded : ∀ program, Operation.load program ∉ later) :
    (system.replay later).Stuck event ∧
      system.Idles (system.replay later) (Operation.consumeFrame ∈ later)
        (∃ key pressed, Operation.setKey key pressed ∈ later) := by
  induction later using List.reverseRec with
  | nil => exact ⟨stuck, rfl, rfl, .refl _, fun _ => rfl, nofun, fun _ => rfl⟩
  | append_singleton later last ih =>
      simp only [List.mem_append, List.mem_singleton, not_or] at powered unloaded
      obtain ⟨stuckLater, idles⟩ := ih powered.1 fun program => (unloaded program).1
      have idlesLast := stuckLater.idles (Ne.symm powered.2) fun program =>
        Ne.symm (unloaded program).2
      rw [replay_concat]
      refine ⟨stuckLater.transfer idlesLast.config idlesLast.pending idlesLast.machine, ?_⟩
      simpa only [List.mem_append, List.mem_singleton, exists_or] using idles.trans idlesLast

/-- A tick sets the halted flag exactly when its step has a reason to halt. -/
theorem after_tick_halted_iff (system : System) (elapsed : Binary64) :
    (system.after (.tick elapsed)).machine.halted = true ↔
      system.machine.halted = true ∨
        ∃ event, (system.tick elapsed).2.event? = some event ∧ system.ReasonToHalt event := by
  have ticks := system.tick_ticks elapsed
  rw [after_tick]
  generalize system.tick elapsed = ticked at ticks ⊢
  cases ticks with
  | rejected => simp [TickResult.event?]
  | untimed => simpa [TickResult.event?] using system.stepOrPoll_halted_iff
  | observed => simpa [TickResult.event?, Machine.decay] using system.stepOrPoll_halted_iff

/-- The tick that sets the halted flag leaves the system stuck on its event. -/
theorem stuck_of_halting_tick {system : System} {elapsed : Binary64}
    (running : system.machine.halted = false)
    (halts : (system.after (.tick elapsed)).machine.halted = true) :
    ∃ event, (system.tick elapsed).2.event? = some event ∧
      (system.after (.tick elapsed)).Stuck event := by
  have ticks := system.tick_ticks elapsed
  rw [after_tick] at halts ⊢
  generalize system.tick elapsed = ticked at ticks halts ⊢
  cases ticks with
  | rejected =>
      rw [running] at halts
      contradiction
  | untimed nonnegative timing error refused =>
      exact ⟨_, rfl, (stuck_of_halting running halts).transfer rfl rfl rfl⟩
  | observed timing count accounted =>
      exact ⟨_, rfl, (stuck_of_halting running halts).transfer rfl rfl rfl⟩

/-- The halted flag is set exactly when some tick since the last reset gave a reason. -/
theorem replay_halted_iff (config : Config) (operations : List Operation) :
    ((powerOn config).replay operations).machine.halted = true ↔
      ∃ before elapsed after, operations = before ++ .tick elapsed :: after ∧
        Operation.reset ∉ after ∧
        ∃ event, (((powerOn config).replay before).tick elapsed).2.event? = some event ∧
          ((powerOn config).replay before).ReasonToHalt event := by
  rw [replay_since_reset
    (fun system => system.machine.halted = true)
    (fun system operation => ∃ elapsed, operation = .tick elapsed ∧
      ∃ event, (system.tick elapsed).2.event? = some event ∧ system.ReasonToHalt event)]
  · constructor
    · rintro ⟨before, _, after, split, _, quiet, elapsed, rfl, reason⟩
      exact ⟨before, elapsed, after, split, quiet, reason⟩
    · rintro ⟨before, elapsed, after, split, quiet, reason⟩
      exact ⟨before, _, after, split, nofun, quiet, elapsed, rfl, reason⟩
  · intro config halted
    contradiction
  · intro before operation powered
    generalize (powerOn config).replay before = system
    cases operation with
    | tick elapsed => simpa using system.after_tick_halted_iff elapsed
    | setKey key pressed =>
        obtain ⟨keypad, same⟩ := system.after_setKey key pressed
        simp [same]
    | load program =>
        obtain ⟨memory, same⟩ := system.after_load program
        simp [same]
    | consumeFrame => simp [after, perform, consumeFrame]
    | reset => exact absurd rfl powered

/-- The machine is halted exactly when some tick since power-on gave a reason. From the tick that
halts it on, every tick repeats the event of that tick and nothing else changes but input and time,
until a program is loaded or the system is reset. -/
theorem halted_iff_reason_and_stays (config : Config) (operations : List Operation) :
    let system := (powerOn config).replay operations
    (system.machine.halted = true ↔
      ∃ before elapsed after, operations = before ++ .tick elapsed :: after ∧
        Operation.reset ∉ after ∧
        ∃ event, (((powerOn config).replay before).tick elapsed).2.event? = some event ∧
          ((powerOn config).replay before).ReasonToHalt event) ∧
    ∀ elapsed, system.machine.halted = false →
      (system.after (.tick elapsed)).machine.halted = true →
      ∃ event, (system.tick elapsed).2.event? = some event ∧
        ∀ later, Operation.reset ∉ later → (∀ program, Operation.load program ∉ later) →
          let final := (system.after (.tick elapsed)).replay later
          (system.after (.tick elapsed)).Idles final (Operation.consumeFrame ∈ later)
            (∃ key pressed, Operation.setKey key pressed ∈ later) ∧
          ∀ next timing count, final.timing.advance next = (timing, .ok count) →
            (final.tick next).2 = .observed event := by
  intro system
  refine ⟨replay_halted_iff config operations, ?_⟩
  intro elapsed running halts
  obtain ⟨event, happened, stuck⟩ := stuck_of_halting_tick running halts
  refine ⟨event, happened, ?_⟩
  intro later powered unloaded
  obtain ⟨stuckLater, idles⟩ := stuck.replay later powered unloaded
  refine ⟨idles, ?_⟩
  intro next timing count accounted
  rw [tick_observed accounted, stuckLater.stays]

/-- A system without a program halts at its first tick, and neither a key nor a taken frame lets it
go on. -/
theorem halted_on_emptyWord :
    ((powerOn {}).after (.tick (.finite 17))).machine.halted = true ∧
      ∃ event, ((powerOn {}).tick (.finite 17)).2.event? = some event ∧
        ((((powerOn {}).after (.tick (.finite 17))).replay
          [.setKey 3 true, .consumeFrame]).tick (.finite 17)).2 = .observed event := by
  obtain ⟨_, stays⟩ := halted_iff_reason_and_stays {} []
  have first : (powerOn {}).timing.advance (.finite 17) =
      ({ rate := 60, accumulated := .finite 20 }, .ok 1) := Timing.advance_first
  have second : ({ rate := 60, accumulated := .finite 20 } : Timing).advance (.finite 17) =
      ({ rate := 60, accumulated := .finite 40 }, .ok 1) := by decide +kernel
  have failed := ((powerOn {}).stepOrPoll_failed_iff _).mpr ⟨rfl, none, powerOn_faults {}⟩
  have running : (powerOn {}).machine.halted = false := rfl
  have policy : (powerOn {}).config.errorPolicy = .halt := rfl
  have untimed (system : System) :
      (system.replay [.setKey 3 true, .consumeFrame]).timing = system.timing := by
    obtain ⟨keypad, pressed⟩ := system.after_setKey 3 true
    simp only [replay, List.foldl_cons, List.foldl_nil, pressed]
    rfl
  have unplayed : (powerOn {}).replay [] = powerOn {} := rfl
  rw [unplayed] at stays
  -- The contents of the memory at power-on play no part from here on.
  generalize powerOn {} = system at *
  have halts : (system.after (.tick (.finite 17))).machine.halted = true := by
    rw [after_tick, (tick_failedTick first failed).halted policy]
    rfl
  have timing : (system.after (.tick (.finite 17))).timing =
      { rate := 60, accumulated := .finite 20 } := by
    rw [after_tick, tick_observed first]
  obtain ⟨event, happened, repeats⟩ := stays (.finite 17) running halts
  obtain ⟨_, next⟩ := repeats [.setKey 3 true, .consumeFrame] (by simp) (by simp)
  refine ⟨halts, event, happened, next (.finite 17) { rate := 60, accumulated := .finite 40 } 1 ?_⟩
  rw [untimed, timing]
  exact second

end System
end Chip8
