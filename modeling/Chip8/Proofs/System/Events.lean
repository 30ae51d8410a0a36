import Chip8.Proofs.System.Histories

namespace Chip8

namespace StepEvent

/-- This says that a step got to an instruction. -/
def Attempts (event : StepEvent) (instruction : Instruction) : Prop :=
  ∃ word, event.instruction = some { word, instruction }

/-- This says that a step executed an instruction. -/
def Executes (event : StepEvent) (instruction : Instruction) : Prop :=
  event.outcome = .executed ∧ event.Attempts instruction

/-- A step that executed an instruction got to it. -/
theorem Executes.attempts {event : StepEvent} {instruction : Instruction}
    (executes : event.Executes instruction) : event.Attempts instruction :=
  executes.2

/-- This says that a step executed an instruction of a kind. -/
def executesKind (event : StepEvent) (kind : Instruction → Bool) : Bool :=
  event.outcome = .executed && event.instruction.any fun decoded => kind decoded.instruction

theorem executesKind_iff (event : StepEvent) (kind : Instruction → Bool) :
    event.executesKind kind = true ↔
      ∃ instruction, event.Executes instruction ∧ kind instruction = true := by
  obtain ⟨pc, instruction, outcome⟩ := event
  cases instruction with
  | none => simp [executesKind, Executes, Attempts]
  | some decoded =>
      obtain ⟨word, instruction⟩ := decoded
      simp [executesKind, Executes, Attempts, and_assoc]

end StepEvent

namespace System

/-- This is the event of the step that an operation takes. -/
def stepEvent? (system : System) : Operation → Option StepEvent
  | .tick elapsed => (system.tick elapsed).2.event?
  | _ => none

/-- A tick steps unless its time is negative. -/
theorem stepEvent_tick {system : System} {elapsed : Binary64}
    (nonnegative : elapsed.less (.finite 0) = false) :
    system.stepEvent? (.tick elapsed) = some system.stepOrPoll.2 := by
  have ticks := system.tick_ticks elapsed
  change (system.tick elapsed).2.event? = _
  generalize system.tick elapsed = ticked at ticks ⊢
  cases ticks with
  | rejected negative =>
      rw [nonnegative] at negative
      contradiction
  | untimed => rfl
  | observed => rfl

/-- A tick of negative time takes no step. -/
theorem stepEvent_rejected {system : System} {elapsed : Binary64}
    (negative : elapsed.less (.finite 0) = true) : system.stepEvent? (.tick elapsed) = none := by
  change (system.tick elapsed).2.event? = none
  rw [tick_rejected negative]
  rfl

/-- This lists the ways in which an operation other than a reset changes a system, with a step and
without one. -/
inductive Proceeds (system : System) (operation : Operation) :
    Option StepEvent → System → Prop where
  | stepped (delayTimer soundTimer : UInt8) (timing : Timing) :
      Proceeds system operation (some system.stepOrPoll.2)
        { system.stepOrPoll.1 with
          machine := { system.stepOrPoll.1.machine with delayTimer, soundTimer }
          timing }
  | still (keypad : Vector Bool 16) (memory : Vector UInt8 4096) (dirty : Bool)
      (untaken : operation ≠ .consumeFrame → dirty = system.dirty) :
      Proceeds system operation none
        { system with machine := { system.machine with keypad, memory }, dirty }

/-- Every operation other than a reset changes the system in one of the listed ways. -/
theorem after_proceeds (system : System) {operation : Operation} (unreset : operation ≠ .reset) :
    system.Proceeds operation (system.stepEvent? operation) (system.after operation) := by
  cases operation with
  | tick elapsed =>
      cases negative : elapsed.less (.finite 0) with
      | true =>
          rw [after_tick, tick_rejected negative, stepEvent_rejected negative]
          exact .still _ _ _ fun _ => rfl
      | false =>
          obtain ⟨delayTimer, soundTimer, timing, same⟩ := system.after_tick_steps negative
          rw [same, stepEvent_tick negative]
          exact .stepped delayTimer soundTimer timing
  | setKey key pressed =>
      obtain ⟨keypad, same⟩ := system.after_setKey key pressed
      rw [same]
      exact .still keypad _ _ fun _ => rfl
  | load program =>
      obtain ⟨memory, same⟩ := system.after_load program
      rw [same]
      exact .still _ memory _ fun _ => rfl
  | consumeFrame => exact .still _ _ false fun taken => absurd rfl taken
  | reset => exact absurd rfl unreset

/-- A step that executed an instruction has its effect behind the fetch. -/
theorem stepOrPoll_of_executes {system : System} {instruction : Instruction}
    (executes : system.stepOrPoll.2.Executes instruction) :
    ∃ machine, system.machine.skip.execute instruction = .ok machine ∧
      system.stepOrPoll.1 =
        { system with machine, dirty := system.dirty || instruction.draws } := by
  have advances := system.stepOrPoll_advances
  generalize system.stepOrPoll = advanced at advances executes ⊢
  obtain ⟨outcome, word, same⟩ := executes
  cases advances with
  | failed => contradiction
  | parked => contradiction
  | executed idle decoded machine meets moves executed =>
      cases same
      exact ⟨machine, executed, rfl⟩
  | waiting => contradiction
  | resumed => contradiction

/-- A tick of an idle system executes an instruction that the machine does not refuse. -/
theorem stepEvent_executes {system : System} (idle : system.pending = none) {decoded : Decoded}
    (meets : system.machine.Meets decoded) (moves : decoded.instruction.blocks = false)
    {machine : Machine} (executed : system.machine.skip.execute decoded.instruction = .ok machine)
    {elapsed : Binary64} (nonnegative : elapsed.less (.finite 0) = false) :
    system.stepEvent? (.tick elapsed) =
      some { pc := system.machine.pc, instruction := some decoded, outcome := .executed } := by
  rw [stepEvent_tick nonnegative, stepOrPoll_idle idle, step_executes meets moves executed]

/-- This says that an operation gets to an instruction. -/
def Attempts (system : System) (operation : Operation) (instruction : Instruction) : Prop :=
  ∃ event, system.stepEvent? operation = some event ∧ event.Attempts instruction

/-- This says that an operation executes an instruction. -/
def Executes (system : System) (operation : Operation) (instruction : Instruction) : Prop :=
  ∃ event, system.stepEvent? operation = some event ∧ event.Executes instruction

/-- This says that an operation executes an instruction of a kind. -/
def executesKind (system : System) (operation : Operation) (kind : Instruction → Bool) : Bool :=
  (system.stepEvent? operation).any fun event => event.executesKind kind

theorem executesKind_iff (system : System) (operation : Operation) (kind : Instruction → Bool) :
    system.executesKind operation kind = true ↔
      ∃ instruction, system.Executes operation instruction ∧ kind instruction = true := by
  unfold executesKind Executes
  cases system.stepEvent? operation with
  | none => simp
  | some event => simpa using event.executesKind_iff kind

/-- A tick executes what its step executes, unless its time is negative. -/
theorem executes_tick_iff (system : System) (elapsed : Binary64) (instruction : Instruction) :
    system.Executes (.tick elapsed) instruction ↔
      elapsed.less (.finite 0) = false ∧ system.stepOrPoll.2.Executes instruction := by
  unfold Executes
  cases negative : elapsed.less (.finite 0) with
  | true => simp [stepEvent_rejected negative]
  | false => simp [stepEvent_tick negative]

/-- The first tick with a program executes its first instruction, unless the machine refuses it. -/
theorem executes_first (config : Config) (decoded : Decoded) {high low : UInt8}
    {rest : List UInt8} (fits : (high :: low :: rest).length ≤ 3584)
    (value : decoded.word.toNat = high.toNat * 256 + low.toNat)
    (decodes : Decoded.ofWord decoded.word = .ok decoded)
    (moves : decoded.instruction.blocks = false) {machine : Machine}
    (executed : ((powerOn config).after (.load (high :: low :: rest))).machine.skip.execute
      decoded.instruction = .ok machine)
    {elapsed : Binary64} (nonnegative : elapsed.less (.finite 0) = false) :
    ((powerOn config).after (.load (high :: low :: rest))).Executes (.tick elapsed)
      decoded.instruction := by
  have idle : ((powerOn config).after (.load (high :: low :: rest))).pending = none := by
    rw [after, perform_load]
    rfl
  have meets := powerOn_meets config fits (by simp) value decodes
  exact ⟨_, stepEvent_executes idle meets moves executed nonnegative, rfl, decoded.word, rfl⟩

/-- An operation that executed an instruction got to it. -/
theorem Executes.attempts {system : System} {operation : Operation} {instruction : Instruction}
    (executes : system.Executes operation instruction) : system.Attempts operation instruction := by
  obtain ⟨event, stepped, executed⟩ := executes
  exact ⟨event, stepped, executed.attempts⟩

/-- Only a tick gets to an instruction. -/
theorem Attempts.timed {system : System} {operation : Operation} {instruction : Instruction}
    (attempts : system.Attempts operation instruction) : ∃ elapsed, operation = .tick elapsed := by
  obtain ⟨event, stepped, _⟩ := attempts
  cases operation with
  | tick elapsed => exact ⟨elapsed, rfl⟩
  | _ => cases stepped

/-- An operation gets to the instruction of its event only. -/
theorem Attempts.eq_of_stepped {system : System} {operation : Operation} {instruction : Instruction}
    (attempts : system.Attempts operation instruction) {event : StepEvent}
    (stepped : system.stepEvent? operation = some event) {decoded : Decoded}
    (met : event.instruction = some decoded) : instruction = decoded.instruction := by
  obtain ⟨_, same, word, attempted⟩ := attempts
  cases stepped.symm.trans same
  cases met.symm.trans attempted
  rfl

/-- These are the events of the steps of a history. -/
def events (system : System) : List Operation → List (Option StepEvent)
  | [] => []
  | operation :: rest => system.stepEvent? operation :: (system.after operation).events rest

theorem events_concat (system : System) (operations : List Operation) (operation : Operation) :
    system.events (operations ++ [operation]) =
      system.events operations ++ [(system.replay operations).stepEvent? operation] := by
  induction operations generalizing system with
  | nil => rfl
  | cons first rest ih => simp only [List.cons_append, events, ih, replay_cons]

theorem answers_concat (system : System) (operations : List Operation) (operation : Operation) :
    system.answers (operations ++ [operation]) =
      system.answers operations ++ [((system.replay operations).perform operation).2] := by
  induction operations generalizing system with
  | nil => rfl
  | cons first rest ih => simp only [List.cons_append, answers, ih, replay_cons]

end System

end Chip8
