import Chip8.Proofs.Machine.Timers
import Chip8.Proofs.System.Events
import Chip8.Proofs.System.Failures

open Chip8.System

namespace Chip8

namespace System

/-- This is the count that timer accounting returns in an operation; a negative one counts as zero,
and so does none. -/
def counted (system : System) : Operation → Nat
  | .tick elapsed =>
    match (system.timing.advance elapsed).2 with
    | .ok count => count.toNat
    | .error _ => 0
  | _ => 0

/-- This is the sum of the counts of a history. -/
def countedIn (system : System) : List Operation → Nat
  | [] => 0
  | operation :: rest => system.counted operation + (system.after operation).countedIn rest

theorem counted_rejected (system : System) {elapsed : Binary64}
    (negative : elapsed.less (.finite 0) = true) : system.counted (.tick elapsed) = 0 := by
  simp only [counted, system.timing.advance_rejected negative]

end System

namespace Timer

/-- This is the value that a configuration gives a timer. -/
def configured : Timer → Config → UInt8
  | .delay, config => config.delayTimer
  | .sound, config => config.soundTimer

/-- This says that an operation gives a timer a value: a reset the configured one and the load of
the timer that of a register. -/
inductive Gives (timer : Timer) (system : System) : Operation → UInt8 → Prop where
  | reset : Gives timer system .reset (timer.configured system.config)
  | load {operation : Operation} (x : Register)
      (executes : system.Executes operation (timer.load x)) :
      Gives timer system operation (system.machine.register x)

/-- This says that no operation of a history gives a timer a value. -/
def Ungiven (timer : Timer) (system : System) : List Operation → Prop
  | [] => True
  | operation :: rest =>
    (∀ value, ¬ timer.Gives system operation value) ∧
      timer.Ungiven (system.after operation) rest

/-- This relates a history from power-on to the value that a timer was given last and to the sum of
the counts since, with the one of the operation that gave it. -/
inductive LastGiven (timer : Timer) (config : Config) : List Operation → UInt8 → Nat → Prop where
  | configured {history : List Operation} (ungiven : timer.Ungiven (powerOn config) history) :
      LastGiven timer config history (timer.configured config) ((powerOn config).countedIn history)
  | given {before after : List Operation} {operation : Operation} {value : UInt8}
      (gives : timer.Gives ((powerOn config).replay before) operation value)
      (ungiven : timer.Ungiven (((powerOn config).replay before).after operation) after) :
      LastGiven timer config (before ++ operation :: after) value
        (((powerOn config).replay before).countedIn (operation :: after))

theorem value_machine (timer : Timer) (config : Config) :
    timer.value config.machine = timer.configured config := by
  cases timer <;> rfl

/-- A step that executes the load of a timer gives it the value of the register. -/
theorem value_stepOrPoll_of_load (timer : Timer) {system : System} {x : Register}
    (executes : system.stepOrPoll.2.Executes (timer.load x)) :
    timer.value system.stepOrPoll.1.machine = system.machine.register x := by
  obtain ⟨machine, executed, next⟩ := stepOrPoll_of_executes executes
  rw [next]
  change timer.value machine = system.machine.skip.register x
  exact timer.value_of_load executed

/-- Any other step leaves the timer alone. -/
theorem value_stepOrPoll_of_other (timer : Timer) {system : System}
    (other : ∀ x, ¬ system.stepOrPoll.2.Executes (timer.load x)) :
    timer.value system.stepOrPoll.1.machine = timer.value system.machine := by
  have advances := system.stepOrPoll_advances
  generalize system.stepOrPoll = advanced at advances other ⊢
  cases advances with
  | failed idle instruction fault faults =>
      simp only [fail]
      cases system.config.errorPolicy <;> cases timer <;> rfl
  | parked => rfl
  | executed idle decoded machine meets moves executed =>
      have skipped : timer.value system.machine.skip = timer.value system.machine := by
        cases timer <;> rfl
      refine (timer.value_of_other executed ?_).trans skipped
      intro x loads
      exact other x ⟨rfl, decoded.word, by rw [← loads]⟩
  | waiting => rfl
  | resumed => cases timer <;> rfl

/-- A tick counts the timers down after its step. -/
theorem toNat_tick (timer : Timer) (system : System) {elapsed : Binary64}
    (nonnegative : elapsed.less (.finite 0) = false) :
    (timer.value (system.after (.tick elapsed)).machine).toNat =
      (timer.value system.stepOrPoll.1.machine).toNat - system.counted (.tick elapsed) := by
  have ticks := system.tick_ticks elapsed
  rw [after_tick]
  generalize system.tick elapsed = ticked at ticks ⊢
  cases ticks with
  | rejected negative =>
      rw [nonnegative] at negative
      contradiction
  | untimed _ timing error refused =>
      simp only [counted, refused]
      rfl
  | observed timing count accounted =>
      simp only [counted, accounted]
      exact timer.toNat_decay _ count

/-- An operation that gives a timer a value also counts it down. -/
theorem Gives.toNat_after {timer : Timer} {system : System} {operation : Operation} {value : UInt8}
    (gives : timer.Gives system operation value) :
    (timer.value (system.after operation).machine).toNat =
      value.toNat - system.counted operation := by
  cases gives with
  | reset =>
      rw [after_reset, value_machine]
      rfl
  | load x executes =>
      obtain ⟨elapsed, rfl⟩ := executes.attempts.timed
      obtain ⟨nonnegative, stepped⟩ := (system.executes_tick_iff elapsed _).mp executes
      rw [timer.toNat_tick system nonnegative, timer.value_stepOrPoll_of_load stepped]

/-- An operation that gives a timer no value counts it down. -/
theorem toNat_after_of_ungiven {timer : Timer} {system : System} {operation : Operation}
    (ungiven : ∀ value, ¬ timer.Gives system operation value) :
    (timer.value (system.after operation).machine).toNat =
      (timer.value system.machine).toNat - system.counted operation := by
  cases operation with
  | tick elapsed =>
      cases negative : elapsed.less (.finite 0) with
      | true =>
          rw [after_tick, tick_rejected negative, system.counted_rejected negative]
          rfl
      | false =>
          have other (x : Register) : ¬ system.stepOrPoll.2.Executes (timer.load x) :=
            fun stepped =>
              ungiven _ (.load x ((system.executes_tick_iff elapsed _).mpr ⟨negative, stepped⟩))
          rw [timer.toNat_tick system negative, timer.value_stepOrPoll_of_other other]
  | setKey key pressed =>
      obtain ⟨keypad, same⟩ := system.after_setKey key pressed
      rw [same]
      cases timer <;> rfl
  | load program =>
      obtain ⟨memory, same⟩ := system.after_load program
      rw [same]
      cases timer <;> rfl
  | consumeFrame => cases timer <;> rfl
  | reset => exact absurd .reset (ungiven _)

/-- A history that gives a timer no value counts it down by the sum of its counts. -/
theorem toNat_replay_of_ungiven {timer : Timer} {system : System} {history : List Operation}
    (ungiven : timer.Ungiven system history) :
    (timer.value (system.replay history).machine).toNat =
      (timer.value system.machine).toNat - system.countedIn history := by
  induction history generalizing system with
  | nil => rfl
  | cons operation rest ih =>
      rw [replay_cons, ih ungiven.2, toNat_after_of_ungiven ungiven.1, countedIn]
      omega

theorem ungiven_concat_iff (timer : Timer) (system : System) (history : List Operation)
    (operation : Operation) :
    timer.Ungiven system (history ++ [operation]) ↔
      timer.Ungiven system history ∧
        ∀ value, ¬ timer.Gives (system.replay history) operation value := by
  induction history generalizing system with
  | nil => simp [Ungiven]
  | cons first rest ih => simp only [List.cons_append, Ungiven, ih, replay_cons, and_assoc]

/-- Every timer was given a value, at power-on or since. -/
theorem exists_lastGiven (timer : Timer) (config : Config) (history : List Operation) :
    ∃ value count, timer.LastGiven config history value count := by
  induction history using List.reverseRec with
  | nil => exact ⟨_, _, .configured trivial⟩
  | append_singleton history last ih =>
      by_cases gives : ∃ value, timer.Gives ((powerOn config).replay history) last value
      · obtain ⟨value, gives⟩ := gives
        exact ⟨value, _, .given gives trivial⟩
      · -- The last operation prolongs what was given before it.
        rw [not_exists] at gives
        obtain ⟨value, count, given⟩ := ih
        cases given with
        | configured ungiven =>
            exact ⟨_, _, .configured ((timer.ungiven_concat_iff _ _ _).mpr ⟨ungiven, gives⟩)⟩
        | @given before after operation _ given ungiven =>
            rw [replay_append, replay_cons] at gives
            have longer := (timer.ungiven_concat_iff _ _ _).mpr ⟨ungiven, gives⟩
            rw [List.append_assoc, List.cons_append]
            exact ⟨_, _, .given given longer⟩

/-- A timer is what it was given last less the counts since. -/
theorem LastGiven.toNat_replay {timer : Timer} {config : Config} {history : List Operation}
    {value : UInt8} {count : Nat} (given : timer.LastGiven config history value count) :
    (timer.value ((powerOn config).replay history).machine).toNat = value.toNat - count := by
  cases given with
  | configured ungiven => rw [toNat_replay_of_ungiven ungiven, powerOn, value_machine]
  | given gives ungiven =>
      rw [replay_append, replay_cons, toNat_replay_of_ungiven ungiven, gives.toNat_after, countedIn]
      omega

/-- After every history a timer is the value that it was given last less the counts of all ticks
since, down to zero. It increases only in a tick that loads it and in a reset, and every other tick
counts it down, also one that waits, resumes or fails. -/
theorem toNat_eq_given_sub_counted (timer : Timer) (config : Config) (history : List Operation) :
    let now := (powerOn config).replay history
    (∃ value count, timer.LastGiven config history value count) ∧
      (∀ value count, timer.LastGiven config history value count →
        (timer.value now.machine).toNat = value.toNat - count) ∧
      (timer.value now.machine).toNat ≤ 255 ∧
      (∀ operation, timer.value now.machine < timer.value (now.after operation).machine →
        operation = .reset ∨ ∃ x, now.Executes operation (timer.load x)) ∧
      (∀ elapsed, (∀ x, ¬ now.Executes (.tick elapsed) (timer.load x)) →
        (timer.value (now.after (.tick elapsed)).machine).toNat =
          (timer.value now.machine).toNat - now.counted (.tick elapsed)) ∧
      ∀ elapsed event, now.stepEvent? (.tick elapsed) = some event → event.outcome ≠ .executed →
        ∀ x, ¬ now.Executes (.tick elapsed) (timer.load x) := by
  intro now
  refine ⟨timer.exists_lastGiven config history, fun _ _ given => given.toNat_replay,
    ?_, ?_, ?_, ?_⟩
  · have byte := (timer.value now.machine).toNat_lt
    omega
  · intro operation increased
    by_contra neither
    rw [not_or, not_exists] at neither
    have ungiven (value : UInt8) : ¬ timer.Gives now operation value := by
      rintro (_ | ⟨x, executes⟩)
      · exact neither.1 rfl
      · exact neither.2 x executes
    have counted := toNat_after_of_ungiven ungiven
    rw [UInt8.lt_iff_toNat_lt] at increased
    omega
  · intro elapsed unloaded
    apply toNat_after_of_ungiven
    rintro value (_ | ⟨x, executes⟩)
    exact unloaded x executes
  · rintro elapsed event stepped unexecuted x ⟨_, same, executes⟩
    cases stepped.symm.trans same
    exact unexecuted executes.1

/-- A tick that raises the fault of the empty word counts the timers down like any other. -/
theorem raising_tick_counts_down :
    let config : Config := { delayTimer := 7, errorPolicy := .raise }
    let history : List Operation := [.tick (.finite 17)]
    Timer.delay.LastGiven config history 7 1 ∧
      (Timer.delay.value ((powerOn config).replay history).machine).toNat = 6 := by
  intro config history
  have steps : (powerOn config).stepOrPoll =
      (powerOn config).fail none (.unsupportedOpcode 0) := by
    rw [stepOrPoll_idle rfl, step_faults (powerOn_faults config)]
  have ungiven (value : UInt8) :
      ¬ Timer.delay.Gives (powerOn config) (.tick (.finite 17)) value := by
    rintro (_ | ⟨x, executes⟩)
    obtain ⟨_, outcome, _⟩ := ((powerOn config).executes_tick_iff _ _).mp executes
    rw [steps] at outcome
    contradiction
  have advanced : (powerOn config).timing.advance (.finite 17) =
      ({ rate := 60, accumulated := .finite 20 }, .ok 1) := Timing.advance_first
  have counted : (powerOn config).countedIn history = 1 := by
    simp only [history, countedIn, System.counted, advanced]
    rfl
  have given : Timer.delay.LastGiven config history 7 1 := by
    rw [← counted]
    exact .configured ⟨ungiven, trivial⟩
  obtain ⟨_, counts, _⟩ := toNat_eq_given_sub_counted .delay config history
  exact ⟨given, counts 7 1 given⟩

end Timer

end Chip8
