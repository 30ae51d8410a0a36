import Chip8.Proofs.System.Halting
import Chip8.Proofs.System.Timers

namespace Chip8

/-- This is an action on a machine that has no scheduler. -/
inductive Action where
  /-- The next instruction is fetched and executed. -/
  | cycle
  /-- The next instruction is fetched and executed, and then the lowest key goes to its register. -/
  | receiveKey
  /-- A policy deals with the fault of the next instruction. -/
  | recover (policy : ErrorPolicy)
  /-- The timers are counted down. -/
  | decay (count : Nat)
  | setKey (key : Int) (pressed : Bool)
deriving DecidableEq

namespace Machine

/-- This carries out an action, unless the next instruction cannot be executed or no key is down. -/
def act? (machine : Machine) : Action → Option Machine
  | .cycle => machine.cycle.toOption.map Prod.fst
  | .receiveKey => do
    let (executed, word) ← machine.cycle.toOption
    let decoded ← (Decoded.ofWord word).toOption
    let key ← executed.lowestKey?
    return executed.setRegister decoded.instruction.fields.x (UInt8.ofNat key.val)
  | .recover .halt => some { machine with halted := true }
  | .recover .skip => some { machine with pc := machine.pc + 2 }
  | .recover .raise => some machine
  | .decay count => some (machine.decay count)
  | .setKey key pressed =>
    some { machine with keypad := System.keyed machine.keypad key pressed }

/-- This carries out actions one after the other. -/
def run? (machine : Machine) (actions : List Action) : Option Machine :=
  actions.foldlM act? machine

theorem run_append (machine : Machine) (first second : List Action) :
    machine.run? (first ++ second) =
      (machine.run? first).bind fun next => next.run? second :=
  List.foldlM_append

theorem run_singleton (machine : Machine) (action : Action) :
    machine.run? [action] = machine.act? action := by
  unfold run?
  rw [List.foldlM_cons]
  cases machine.act? action <;> rfl

/-- The fetch of a key wait passes it as its completion does. -/
theorem act_receiveKey {machine : Machine} {decoded : Decoded} {key : Digit}
    (meets : machine.Meets decoded) (blocks : decoded.instruction.blocks = true)
    (down : machine.lowestKey? = some key) :
    machine.act? .receiveKey =
      some (machine.setRegister decoded.instruction.fields.x (UInt8.ofNat key.val)).skip := by
  obtain ⟨x, waits⟩ := (Instruction.blocks_iff decoded.instruction).mp blocks
  have executed : machine.skip.execute decoded.instruction = .ok machine.skip := by
    rw [waits]
    rfl
  have downPassed : machine.skip.lowestKey? = some key := down
  simp only [act?, cycle_meets meets executed, Except.toOption, meets.2, downPassed, bind,
    Option.bind]
  rfl

end Machine

/-- This is what the step of an event does to the machine; a step that waits does nothing. -/
def StepEvent.action? (policy : ErrorPolicy) (event : StepEvent) : Option Action :=
  match event.outcome with
  | .executed => some .cycle
  | .waiting => none
  | .resumed => some .receiveKey
  | .failed _ => some (.recover policy)

namespace System

/-- These are the actions of an operation. A tick does what its step does and then counts down by
what its time accounting returned. -/
def actions (system : System) : Operation → List Action
  | .tick elapsed =>
    ((system.stepEvent? (.tick elapsed)).bind
        (StepEvent.action? system.config.errorPolicy)).toList ++
      [.decay (system.counted (.tick elapsed))]
  | .setKey key pressed => [.setKey key pressed]
  | _ => []

/-- These are the actions of a run. -/
def actionsIn (system : System) : List Operation → List Action
  | [] => []
  | operation :: rest => system.actions operation ++ (system.after operation).actionsIn rest

/-- A tick whose time is accounted for counts down by the count that it returned. -/
theorem actions_observed {system : System} {elapsed : Binary64} {timing : Timing} {count : Int}
    (accounted : system.timing.advance elapsed = (timing, .ok count)) :
    system.actions (.tick elapsed) =
      (system.stepOrPoll.2.action? system.config.errorPolicy).toList ++
        [.decay count.toNat] := by
  rw [actions, stepEvent_tick (Timing.advance_nonnegative accounted), counted, accounted,
    Option.bind_some]

/-- This says that the machine stands in front of the key wait that is pending. -/
def Anchored (system : System) : Prop :=
  ∀ decoded, system.pending = some decoded →
    system.machine.Meets decoded ∧ decoded.instruction.blocks = true

theorem anchored_idle {system : System} (idle : system.pending = none) : system.Anchored := by
  intro decoded parked
  rw [idle] at parked
  contradiction

/-- Memory, `pc` and the pending instruction alone decide whether a system is anchored. -/
theorem Anchored.transfer {system other : System} (anchored : system.Anchored)
    (memory : system.machine.memory = other.machine.memory)
    (pc : system.machine.pc = other.machine.pc) (pending : other.pending = system.pending) :
    other.Anchored := by
  intro decoded parked
  rw [pending] at parked
  obtain ⟨meets, blocks⟩ := anchored decoded parked
  exact ⟨⟨meets.1.transfer memory pc, meets.2⟩, blocks⟩

/-- A step does the action of its event. -/
theorem Anchored.run_step {system : System} (anchored : system.Anchored) :
    system.machine.run?
        (system.stepOrPoll.2.action? system.config.errorPolicy).toList =
      some system.stepOrPoll.1.machine := by
  have advances := system.stepOrPoll_advances
  generalize system.stepOrPoll = advanced at advances ⊢
  cases advances with
  | failed idle instruction fault faults =>
      refine (Machine.run_singleton _ _).trans ?_
      simp only [fail]
      cases system.config.errorPolicy <;> rfl
  | parked => rfl
  | executed idle decoded machine meets moves executed =>
      have cycles := Machine.cycle_meets meets executed
      change system.machine.run? [.cycle] = some machine
      simp only [Machine.run_singleton, Machine.act?, cycles, Except.toOption, Option.map_some]
  | waiting => rfl
  | resumed decoded parked key down =>
      obtain ⟨meets, blocks⟩ := anchored decoded parked
      change system.machine.run? [.receiveKey] = _
      rw [Machine.run_singleton, Machine.act_receiveKey meets blocks down]

/-- A step keeps a system anchored. -/
theorem Anchored.stepOrPoll {system : System} (anchored : system.Anchored) :
    system.stepOrPoll.1.Anchored := by
  have advances := system.stepOrPoll_advances
  generalize system.stepOrPoll = advanced at advances ⊢
  cases advances with
  | failed idle => exact anchored_idle idle
  | parked idle decoded meets blocks =>
      intro other parked
      cases parked
      exact ⟨meets, blocks⟩
  | executed idle => exact anchored_idle idle
  | waiting => exact anchored
  | resumed => exact anchored_idle rfl

/-- A tick does its actions. -/
theorem Anchored.run_tick {system : System} (anchored : system.Anchored) (elapsed : Binary64) :
    system.machine.run? (system.actions (.tick elapsed)) =
      some (system.after (.tick elapsed)).machine := by
  have ticks := system.tick_ticks elapsed
  rw [after_tick]
  generalize system.tick elapsed = ticked at ticks ⊢
  cases ticks with
  | rejected negative =>
      rw [actions, stepEvent_rejected negative, counted_rejected system negative]
      change system.machine.run? [.decay 0] = _
      rw [Machine.run_singleton]
      exact congrArg some (Timer.decay_zero system.machine)
  | untimed nonnegative timing error refused =>
      rw [actions, stepEvent_tick nonnegative, Option.bind_some, Machine.run_append,
        anchored.run_step, Option.bind_some, Machine.run_singleton, counted, refused]
      exact congrArg some (Timer.decay_zero system.stepOrPoll.1.machine)
  | observed timing count accounted =>
      rw [actions_observed accounted, Machine.run_append, anchored.run_step, Option.bind_some,
        Machine.run_singleton]
      rfl

/-- An operation other than a load and a reset does its actions. -/
theorem Anchored.run_after {system : System} (anchored : system.Anchored) {operation : Operation}
    (unloaded : ∀ program, operation ≠ .load program) (powered : operation ≠ .reset) :
    system.machine.run? (system.actions operation) = some (system.after operation).machine := by
  cases operation with
  | tick elapsed => exact anchored.run_tick elapsed
  | setKey key pressed =>
      rw [after, perform_setKey]
      exact Machine.run_singleton _ _
  | load program => exact absurd rfl (unloaded program)
  | consumeFrame => rfl
  | reset => exact absurd rfl powered

/-- An operation other than a load and a reset keeps a system anchored. -/
theorem Anchored.after {system : System} (anchored : system.Anchored) {operation : Operation}
    (unloaded : ∀ program, operation ≠ .load program) (powered : operation ≠ .reset) :
    (system.after operation).Anchored := by
  cases operation with
  | tick elapsed =>
      have ticks := system.tick_ticks elapsed
      rw [after_tick]
      generalize system.tick elapsed = ticked at ticks ⊢
      cases ticks with
      | rejected => exact anchored
      | untimed => exact anchored.stepOrPoll.transfer rfl rfl rfl
      | observed => exact anchored.stepOrPoll.transfer rfl rfl rfl
  | setKey key pressed =>
      rw [System.after, perform_setKey]
      exact anchored.transfer rfl rfl rfl
  | load program => exact absurd rfl (unloaded program)
  | consumeFrame => exact anchored
  | reset => exact absurd rfl powered

/-- A run without loads and resets does the actions of its operations. -/
theorem Anchored.run_replay {system : System} (anchored : system.Anchored) {run : List Operation}
    (unloaded : ∀ program, Operation.load program ∉ run) (powered : Operation.reset ∉ run) :
    system.machine.run? (system.actionsIn run) = some (system.replay run).machine ∧
      (system.replay run).Anchored := by
  induction run generalizing system with
  | nil => exact ⟨rfl, anchored⟩
  | cons operation rest ih =>
      simp only [List.mem_cons, not_or] at unloaded powered
      have other (program : List UInt8) := Ne.symm (unloaded program).1
      have unreset := Ne.symm powered.1
      obtain ⟨runs, anchoredLast⟩ :=
        ih (anchored.after other unreset) (fun program => (unloaded program).2) powered.2
      refine ⟨?_, anchoredLast⟩
      rw [actionsIn, Machine.run_append, anchored.run_after other unreset, Option.bind_some, runs,
        replay_cons]

/-- This says that a tick of a run parked an instruction, which has been pending since. -/
structure Parked (system : System) (run : List Operation) (decoded : Decoded)
    (before : List Operation) (elapsed : Binary64) (after : List Operation) : Prop where
  split : run = before ++ .tick elapsed :: after
  idle : (system.replay before).pending = none
  event : (system.replay before).stepEvent? (.tick elapsed) =
    some { pc := (system.replay before).machine.pc, instruction := some decoded,
           outcome := .waiting }
  pending : ∀ between rest, after = between ++ rest →
    (system.replay (before ++ .tick elapsed :: between)).pending = some decoded

/-- An instruction that is pending after an operation was pending before it or was parked by it. The
operation changed the keypad and the timers at most. -/
theorem pending_after {system : System} {operation : Operation} {decoded : Decoded}
    (unloaded : ∀ program, operation ≠ .load program) (powered : operation ≠ .reset)
    (pending : (system.after operation).pending = some decoded) :
    system.machine.AgreesBesidesInput (system.after operation).machine ∧
      (system.pending = some decoded ∨
        system.pending = none ∧ ∃ elapsed, operation = .tick elapsed ∧
          system.stepEvent? (.tick elapsed) =
            some { pc := system.machine.pc, instruction := some decoded, outcome := .waiting }) := by
  cases operation with
  | tick elapsed =>
      cases negative : elapsed.less (.finite 0) with
      | true =>
          rw [after_tick, tick_rejected negative] at pending ⊢
          exact ⟨.refl _, .inl pending⟩
      | false =>
          obtain ⟨delayTimer, soundTimer, timing, same⟩ := system.after_tick_steps negative
          rw [same] at pending ⊢
          have stepped : system.stepEvent? (.tick elapsed) = some system.stepOrPoll.2 :=
            stepEvent_tick negative
          have advances := system.stepOrPoll_advances
          generalize system.stepOrPoll = advanced at advances stepped pending ⊢
          cases advances with
          | failed idle => cases idle.symm.trans pending
          | parked idle met meets blocks =>
              cases pending
              exact ⟨rfl, .inr ⟨idle, elapsed, rfl, stepped⟩⟩
          | executed idle => cases idle.symm.trans pending
          | waiting met parked => exact ⟨rfl, .inl pending⟩
          | resumed => cases pending
  | setKey key pressed =>
      rw [after, perform_setKey] at pending ⊢
      exact ⟨rfl, .inl pending⟩
  | load program => exact absurd rfl (unloaded program)
  | consumeFrame => exact ⟨.refl _, .inl pending⟩
  | reset => exact absurd rfl powered

/-- An instruction that is pending after a run was parked in it, if none was pending before. Since
then the keypad and the timers changed at most. -/
theorem exists_parked {system : System} (idle : system.pending = none) {run : List Operation}
    (unloaded : ∀ program, Operation.load program ∉ run) (powered : Operation.reset ∉ run)
    {decoded : Decoded} (pending : (system.replay run).pending = some decoded) :
    ∃ before elapsed after, system.Parked run decoded before elapsed after ∧
      (system.replay before).machine.AgreesBesidesInput (system.replay run).machine := by
  induction run using List.reverseRec with
  | nil => cases idle.symm.trans pending
  | append_singleton run last ih =>
      simp only [List.mem_append, List.mem_singleton, not_or] at unloaded powered
      rw [replay_concat] at pending ⊢
      obtain ⟨agrees, earlier | ⟨idleBefore, elapsed, rfl, event⟩⟩ :=
        pending_after (fun program => Ne.symm (unloaded program).2) (Ne.symm powered.2) pending
      · obtain ⟨before, elapsed, after, parked, agreesBefore⟩ :=
          ih (fun program => (unloaded program).1) powered.1 earlier
        refine ⟨before, elapsed, after ++ [last],
          ⟨by simp [parked.split], parked.idle, parked.event, ?_⟩, agreesBefore.trans agrees⟩
        intro between rest split
        rcases List.eq_nil_or_concat rest with rfl | ⟨init, final, rfl⟩
        · rw [List.append_nil] at split
          rw [← split, ← List.cons_append, ← List.append_assoc, ← parked.split, replay_concat]
          exact pending
        · rw [List.concat_eq_append, ← List.append_assoc] at split
          exact parked.pending between init (List.append_inj' split rfl).1
      · refine ⟨run, elapsed, [], ⟨rfl, idleBefore, event, ?_⟩, agrees⟩
        intro between rest split
        rw [(List.append_eq_nil_iff.mp split.symm).1, replay_concat]
        exact pending

/-- The scheduler refines the machine up to waiting. A run of ticks and key events from an idle
system leaves the machine that the actions of its steps lead to, where a waiting step does nothing
and every tick counts the timers down. While an instruction is pending, the machine stands in front
of it and has changed since in the keypad and the timers at most. -/
theorem run_refines_machine {system : System} (idle : system.pending = none)
    {run : List Operation} (unloaded : ∀ program, Operation.load program ∉ run)
    (powered : Operation.reset ∉ run) :
    let now := system.replay run
    system.machine.run? (system.actionsIn run) = some now.machine ∧
      ∀ decoded, now.pending = some decoded →
        now.machine.Meets decoded ∧
          ∃ before elapsed after, system.Parked run decoded before elapsed after ∧
            (system.replay before).machine.AgreesBesidesInput now.machine := by
  intro now
  obtain ⟨runs, anchored⟩ := (anchored_idle idle).run_replay unloaded powered
  refine ⟨runs, ?_⟩
  intro decoded pending
  exact ⟨(anchored decoded pending).1, exists_parked idle unloaded powered pending⟩

/-- A key wait at the program start is replayed behind the press that ends it. -/
theorem waitKey_replays_behind_press :
    let start := (powerOn {}).after (.load [0xF3, 0x0A])
    let run : List Operation := [.tick (.finite 17), .setKey 2 true, .tick (.finite 17)]
    start.pending = none ∧
      start.actionsIn run = [.decay 1, .setKey 2 true, .receiveKey, .decay 1] ∧
      start.machine.run? [.decay 1, .setKey 2 true, .receiveKey, .decay 1] =
        some (start.replay run).machine := by
  intro start run
  let decoded : Decoded := { word := 0xF30A, instruction := .waitKey (.ofNat 3) }
  have meets : start.machine.Meets decoded :=
    powerOn_meets {} (by decide) (by decide) (by decide) (by decide)
  obtain ⟨memory, loads⟩ := (powerOn {}).after_load [0xF3, 0x0A]
  have idle : start.pending = none := congrArg System.pending loads
  have up : start.machine.keypad = Vector.replicate 16 false :=
    congrArg (fun system => system.machine.keypad) loads
  have timing : start.timing = { rate := 60, accumulated := .finite 0 } :=
    congrArg System.timing loads
  have first := Timing.advance_first
  have second : ({ rate := 60, accumulated := .finite 20 } : Timing).advance (.finite 17) =
      ({ rate := 60, accumulated := .finite 40 }, .ok 1) := by decide +kernel
  have actions : start.actionsIn run = [.decay 1, .setKey 2 true, .receiveKey, .decay 1] := by
    rw [← timing] at first
    have parks : start.stepOrPoll =
        ({ start with pending := some decoded },
          { pc := start.machine.pc, instruction := some decoded, outcome := .waiting }) := by
      rw [stepOrPoll_idle idle, step_parks meets rfl]
    let pressed := start.replay [.tick (.finite 17), .setKey 2 true]
    have pressedIs : pressed =
        { start with
          machine :=
            { start.machine.decay 1 with
              keypad := keyed (start.machine.decay 1).keypad 2 true }
          pending := some decoded
          timing := { rate := 60, accumulated := .finite 20 } } := by
      change (start.after (.tick (.finite 17))).after (.setKey 2 true) = _
      rw [after_tick, tick_observed first, parks, after, perform_setKey]
    have parked : pressed.pending = some decoded := congrArg System.pending pressedIs
    have timed : pressed.timing = { rate := 60, accumulated := .finite 20 } :=
      congrArg System.timing pressedIs
    have down : pressed.machine.lowestKey? = some (.ofNat 2) := by
      have keys : pressed.machine.keypad = keyed (Vector.replicate 16 false) 2 true := by
        rw [← up]
        exact congrArg (fun system => system.machine.keypad) pressedIs
      rw [Machine.lowestKey?, keys]
      decide
    rw [← timed] at second
    change start.actions (.tick (.finite 17)) ++
      (.setKey 2 true :: (pressed.actions (.tick (.finite 17)) ++ [])) = _
    rw [actions_observed first, actions_observed second, parks, stepOrPoll_resumes parked down]
    rfl
  have unloaded (program : List UInt8) : Operation.load program ∉ run := by simp [run]
  have powered : Operation.reset ∉ run := by simp [run]
  obtain ⟨runs, _⟩ := run_refines_machine idle unloaded powered
  exact ⟨idle, actions, actions ▸ runs⟩

end System

end Chip8
