import Chip8.Proofs.System.Tick
import Chip8.System.Operation
import Mathlib.Data.List.DropRight
import Mathlib.Data.List.Induction

namespace Chip8.System

/-- This is what a key event makes of a keypad; an integer that is no key changes nothing. -/
def keyed (keypad : Vector Bool 16) (key : Int) (pressed : Bool) : Vector Bool 16 :=
  if 0 ≤ key ∧ key < 16 then keypad.set (Digit.ofNat key.toNat) pressed else keypad

/-- This is what a load makes of memory; a program that is too long changes nothing. -/
def loaded (memory : Vector UInt8 4096) (program : List UInt8) : Vector UInt8 4096 :=
  match Machine.checkRange Layout.programStart program.length with
  | .ok _ => Machine.overlay memory Layout.programStart program.toArray
  | .error _ => memory

/-- A key event looks at the keypad only and changes nothing else. -/
theorem perform_setKey (system : System) (key : Int) (pressed : Bool) :
    system.perform (.setKey key pressed) =
      ({ system with machine.keypad := keyed system.machine.keypad key pressed },
        if 0 ≤ key ∧ key < 16 then .ok .done else .error (.notAKey key)) := by
  unfold keyed
  by_cases inside : 0 ≤ key ∧ key < 16
  · have changed : system.machine.setKey? key pressed =
        .ok (system.machine.setKey (.ofNat key.toNat) pressed) := if_pos inside
    simp only [perform, setKey, changed, if_pos inside, bind, Except.bind, pure, Except.pure]
    rfl
  · have refused : system.machine.setKey? key pressed = .error (.notAKey key) := if_neg inside
    simp only [perform, setKey, refused, if_neg inside, bind, Except.bind]

/-- A load looks at memory only and changes nothing else. -/
theorem perform_load (system : System) (program : List UInt8) :
    system.perform (.load program) =
      ({ system with machine.memory := loaded system.machine.memory program },
        match Machine.checkRange Layout.programStart program.length with
        | .ok _ => .ok .done
        | .error fault => .error (.fault { fault, address := none })) := by
  unfold loaded
  simp only [perform, load, Machine.loadProgram, Machine.writeBlock]
  cases Machine.checkRange Layout.programStart program.length with
  | error fault => rfl
  | ok _ => rfl

/-- A loaded program lies in memory from the program start on. -/
theorem getElem_loaded {program : List UInt8} (fits : program.length ≤ 3584)
    (memory : Vector UInt8 4096) (offset : Nat) (inside : offset < program.length)
    (bound : Layout.programStart + offset < 4096) :
    (loaded memory program)[Layout.programStart + offset] = program[offset] := by
  have accepted : ¬ ((Layout.programStart : Int) < 0 ∨
      (4096 : Int) < (Layout.programStart : Int) + (program.length : Int)) := by
    change ¬ ((512 : Int) < 0 ∨ (4096 : Int) < 512 + (program.length : Int))
    omega
  simp only [loaded, Machine.checkRange_eq, if_neg accepted, Machine.overlay, Vector.getElem_ofFn]
  rw [dif_pos ⟨Nat.le_add_right _ _, by simpa using inside⟩]
  simp

/-- A machine whose `pc` lies in a loaded program stands in front of its bytes. -/
theorem holdsWord_loaded {machine : Machine} {memory : Vector UInt8 4096} {program : List UInt8}
    (loads : machine.memory = loaded memory program) (fits : program.length ≤ 3584) (offset : Nat)
    (inside : offset + 1 < program.length) (place : machine.pc.toNat = 512 + offset) {word : UInt16}
    (value : word.toNat = program[offset].toNat * 256 + program[offset + 1].toNat) :
    machine.HoldsWord word := by
  have bound : Layout.programStart + (offset + 1) < 4096 := by
    change 512 + (offset + 1) < 4096
    omega
  have first := getElem_loaded fits memory offset (by omega) (by omega)
  have second := getElem_loaded fits memory (offset + 1) inside bound
  refine ⟨by omega, by omega, ?_⟩
  rw [value, ← first, ← second]
  simp only [place, loads]
  rfl

/-- A system meets the first instruction of its program. -/
theorem powerOn_meets (config : Config) {program : List UInt8} (fits : program.length ≤ 3584)
    (inside : 1 < program.length) {decoded : Decoded}
    (value : decoded.word.toNat = program[0].toNat * 256 + program[1].toNat)
    (decodes : Decoded.ofWord decoded.word = .ok decoded) :
    ((powerOn config).after (.load program)).machine.Meets decoded := by
  rw [after, perform_load]
  exact ⟨holdsWord_loaded rfl fits 0 inside rfl value, decodes⟩

/-- A key event changes the keypad only. -/
theorem after_setKey (system : System) (key : Int) (pressed : Bool) :
    ∃ keypad, system.after (.setKey key pressed) =
      { system with machine := { system.machine with keypad } } := by
  rw [after, perform_setKey]
  exact ⟨_, rfl⟩

/-- A load changes memory only. -/
theorem after_load (system : System) (program : List UInt8) :
    ∃ memory, system.after (.load program) =
      { system with machine := { system.machine with memory } } := by
  rw [after, perform_load]
  exact ⟨_, rfl⟩

/-- A load leaves a new system running in front of its program, with no key awaited and no time
gathered. -/
theorem powerOn_loaded (config : Config) (program : List UInt8) :
    let loaded := (powerOn config).after (.load program)
    loaded.pending = none ∧ loaded.machine.halted = false ∧ loaded.machine.pc = 0x200 ∧
      loaded.timing = { rate := config.timerRate, accumulated := .finite 0 } := by
  intro loaded
  obtain ⟨memory, loads⟩ := (powerOn config).after_load program
  rw [show loaded = _ from loads]
  exact ⟨rfl, rfl, rfl, rfl⟩

theorem after_tick (system : System) (elapsed : Binary64) :
    system.after (.tick elapsed) = (system.tick elapsed).1 := rfl

/-- A tick that is not rejected steps and then changes the timers and the time only. -/
theorem after_tick_steps (system : System) {elapsed : Binary64}
    (nonnegative : elapsed.less (.finite 0) = false) :
    ∃ delayTimer soundTimer timing, system.after (.tick elapsed) =
      { system.stepOrPoll.1 with
        machine := { system.stepOrPoll.1.machine with delayTimer, soundTimer }
        timing } := by
  have ticks := system.tick_ticks elapsed
  rw [after_tick]
  generalize system.tick elapsed = ticked at ticks ⊢
  cases ticks with
  | rejected negative =>
      rw [nonnegative] at negative
      contradiction
  | untimed => exact ⟨_, _, _, rfl⟩
  | observed => exact ⟨_, _, _, rfl⟩

/-- A tick leaves the time that its accounting leaves. -/
theorem after_tick_timing (system : System) (elapsed : Binary64) :
    (system.after (.tick elapsed)).timing = (system.timing.advance elapsed).1 := by
  have ticks := system.tick_ticks elapsed
  rw [after_tick]
  generalize system.tick elapsed = ticked at ticks ⊢
  cases ticks with
  | rejected negative => rw [system.timing.advance_rejected negative]
  | untimed nonnegative timing error refused => rw [refused]
  | observed timing count accounted => rw [accounted]

/-- Only a tick and a reset change the time. -/
theorem after_timing (system : System) {operation : Operation} (powered : operation ≠ .reset)
    (untimed : ∀ elapsed, operation ≠ .tick elapsed) :
    (system.after operation).timing = system.timing := by
  cases operation with
  | tick elapsed => exact absurd rfl (untimed elapsed)
  | setKey key pressed => rw [after, perform_setKey]
  | load program => rw [after, perform_load]
  | consumeFrame => rfl
  | reset => exact absurd rfl powered

theorem after_reset (system : System) :
    system.after .reset =
      { config := system.config
        machine := system.config.machine
        pending := none
        dirty := false
        timing := system.timing.reset } := rfl

/-- A reset brings back power-on, if time is counted at the rate of the configuration. -/
theorem after_reset_of_rate {system : System}
    (rate : system.timing.rate = system.config.timerRate) :
    system.after .reset = powerOn system.config := by
  rw [after_reset, Timing.reset, rate, powerOn]

/-- No operation changes the rate at which time is counted. -/
theorem after_rate (system : System) (operation : Operation) :
    (system.after operation).timing.rate = system.timing.rate := by
  cases operation with
  | tick elapsed =>
      have kept := Timing.advance_rate (system.timing.advance elapsed).eta.symm
      rw [after_tick_timing, kept]
  | reset => rw [after_reset, Timing.reset]
  | _ => rw [after_timing _ (by simp) (by simp)]

/-- No operation changes the configuration. -/
theorem after_config (system : System) (operation : Operation) :
    (system.after operation).config = system.config := by
  cases operation with
  | tick elapsed =>
      have ticks := system.tick_ticks elapsed
      rw [after_tick]
      generalize system.tick elapsed = ticked at ticks ⊢
      cases ticks with
      | rejected => rfl
      | untimed => exact system.stepOrPoll_timing.1
      | observed => exact system.stepOrPoll_timing.1
  | setKey key pressed =>
      obtain ⟨keypad, same⟩ := system.after_setKey key pressed
      rw [same]
  | load program =>
      obtain ⟨memory, same⟩ := system.after_load program
      rw [same]
  | consumeFrame => rfl
  | reset => rw [after_reset]

@[simp] theorem replay_nil (system : System) : system.replay [] = system := rfl

@[simp] theorem replay_cons (system : System) (operation : Operation) (rest : List Operation) :
    system.replay (operation :: rest) = (system.after operation).replay rest := rfl

theorem replay_concat (system : System) (operations : List Operation) (operation : Operation) :
    system.replay (operations ++ [operation]) = (system.replay operations).after operation := by
  simp only [replay, List.foldl_append, List.foldl_cons, List.foldl_nil]

theorem replay_append (system : System) (before after : List Operation) :
    system.replay (before ++ after) = (system.replay before).replay after :=
  List.foldl_append ..

/-- A property that every operation keeps holds after every history. -/
theorem replay_keeps (holds : System → Prop)
    (kept : ∀ system operation, holds system → holds (system.after operation))
    {system : System} (start : holds system) (operations : List Operation) :
    holds (system.replay operations) := by
  induction operations using List.reverseRec with
  | nil => exact start
  | append_singleton operations operation ih =>
      rw [replay_concat]
      exact kept _ operation ih

/-- No history changes the configuration. -/
theorem replay_config (system : System) (operations : List Operation) :
    (system.replay operations).config = system.config := by
  apply replay_keeps (fun later => later.config = system.config) _ rfl
  intro later operation same
  rw [after_config, same]

/-- After every history time is counted at the rate of the configuration. -/
theorem replay_rate (config : Config) (history : List Operation) :
    ((powerOn config).replay history).timing.rate = config.timerRate := by
  apply replay_keeps (fun later => later.timing.rate = config.timerRate) _ rfl
  intro later operation same
  rw [after_rate, same]

/-- A reset forgets the history before it. -/
theorem replay_concat_reset (config : Config) (history : List Operation) :
    (powerOn config).replay (history ++ [.reset]) = powerOn config := by
  have kept : ((powerOn config).replay history).config = config := replay_config _ history
  have rate := replay_rate config history
  rw [replay_concat, after_reset_of_rate (by rw [rate, kept]), kept]

/-- A property that holds at power-on, that steps keep and that looks neither at what key events,
loads and frames change nor at the time and the timers holds after every history. -/
theorem replay_holds (holds : System → Prop) (start : ∀ config, holds (powerOn config))
    (steps : ∀ system : System, holds system → holds system.stepOrPoll.1)
    (blind : ∀ (system : System) keypad memory delayTimer soundTimer dirty timing, holds system →
      holds
        { system with
          machine := { system.machine with keypad, memory, delayTimer, soundTimer }
          dirty
          timing })
    (config : Config) (operations : List Operation) :
    holds ((powerOn config).replay operations) := by
  induction operations using List.reverseRec with
  | nil => exact start config
  | append_singleton before operation held =>
      cases operation with
      | tick elapsed =>
          rw [replay_concat, after_tick]
          generalize (powerOn config).replay before = system at held ⊢
          have ticks := system.tick_ticks elapsed
          generalize system.tick elapsed = ticked at ticks ⊢
          cases ticks with
          | rejected => exact held
          | untimed => exact blind _ _ _ _ _ _ _ (steps system held)
          | observed => exact blind _ _ _ _ _ _ _ (steps system held)
      | setKey key pressed =>
          obtain ⟨keypad, same⟩ := ((powerOn config).replay before).after_setKey key pressed
          rw [replay_concat, same]
          exact blind _ _ _ _ _ _ _ held
      | load program =>
          obtain ⟨memory, same⟩ := ((powerOn config).replay before).after_load program
          rw [replay_concat, same]
          exact blind _ _ _ _ _ _ _ held
      | consumeFrame =>
          rw [replay_concat]
          exact blind _ _ _ _ _ _ _ held
      | reset =>
          rw [replay_concat_reset]
          exact start config

/-- A history with a last operation splits at that operation or before it. -/
theorem concat_split {operations before after : List Operation} {last operation : Operation}
    (split : operations ++ [last] = before ++ operation :: after) :
    (after = [] ∧ operations = before ∧ last = operation) ∨
      ∃ init, after = init ++ [last] ∧ operations = before ++ operation :: init := by
  rcases List.eq_nil_or_concat after with rfl | ⟨init, final, rfl⟩
  · obtain ⟨same, equal⟩ := List.append_inj' split rfl
    cases equal
    exact .inl ⟨rfl, same, rfl⟩
  · have regrouped : operations ++ [last] = (before ++ operation :: init) ++ [final] := by
      simpa using split
    obtain ⟨same, equal⟩ := List.append_inj' regrouped rfl
    cases equal
    exact .inr ⟨init, List.concat_eq_append .., same⟩

/-- A flag that power-on clears and that some operations raise is up exactly when one of them was
carried out since the last reset. -/
theorem replay_since_reset (flag : System → Prop) (raises : System → Operation → Prop)
    (config : Config) (clear : ∀ config, ¬ flag (powerOn config))
    (raised : ∀ before operation, operation ≠ .reset →
      (flag (((powerOn config).replay before).after operation) ↔
        flag ((powerOn config).replay before) ∨
          raises ((powerOn config).replay before) operation))
    (operations : List Operation) :
    flag ((powerOn config).replay operations) ↔
      ∃ before operation after, operations = before ++ operation :: after ∧
        operation ≠ .reset ∧ Operation.reset ∉ after ∧
        raises ((powerOn config).replay before) operation := by
  induction operations using List.reverseRec with
  | nil =>
      constructor
      · intro up
        exact absurd up (clear config)
      · rintro ⟨before, operation, after, split, _⟩
        simp at split
  | append_singleton operations last ih =>
      -- A reset hides every earlier operation, and any other operation only adds itself.
      by_cases reset : last = .reset
      · rw [reset, replay_concat_reset]
        constructor
        · intro up
          exact absurd up (clear _)
        · rintro ⟨before, operation, after, split, notReset, quiet, _⟩
          rcases concat_split split with ⟨_, _, same⟩ | ⟨init, rfl, _⟩
          · exact absurd same.symm notReset
          · simp at quiet
      · rw [replay_concat, raised _ last reset, ih]
        constructor
        · rintro (⟨before, operation, after, rfl, notReset, quiet, raise⟩ | raise)
          · refine ⟨before, operation, after ++ [last], by simp, notReset, ?_, raise⟩
            simpa [Ne.symm reset] using quiet
          · exact ⟨operations, last, [], rfl, reset, by simp, raise⟩
        · rintro ⟨before, operation, after, split, notReset, quiet, raise⟩
          rcases concat_split split with ⟨_, rfl, rfl⟩ | ⟨init, rfl, rfl⟩
          · exact .inr raise
          · refine .inl ⟨before, operation, init, rfl, notReset, ?_, raise⟩
            intro member
            exact quiet (List.mem_append_left _ member)

/-- These are the operations of a history behind its last reset. -/
def sinceReset (history : List Operation) : List Operation :=
  history.rtakeWhile fun operation => operation ≠ .reset

theorem sinceReset_concat_reset (history : List Operation) :
    sinceReset (history ++ [.reset]) = [] := by
  simp [sinceReset]

theorem sinceReset_concat (history : List Operation) {operation : Operation}
    (other : operation ≠ .reset) :
    sinceReset (history ++ [operation]) = sinceReset history ++ [operation] := by
  simp [sinceReset, other]

/-- Only the operations behind the last reset count. -/
theorem replay_sinceReset (config : Config) (history : List Operation) :
    (powerOn config).replay (sinceReset history) = (powerOn config).replay history := by
  induction history using List.reverseRec with
  | nil => rfl
  | append_singleton history last ih =>
      by_cases reset : last = .reset
      · rw [reset, replay_concat_reset, sinceReset_concat_reset, replay_nil]
      · rw [sinceReset_concat history reset, replay_concat, replay_concat, ih]

end Chip8.System
