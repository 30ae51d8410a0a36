import Chip8.Proofs.System.Step

namespace Chip8

instance decidableEqExcept {error value : Type} [DecidableEq error] [DecidableEq value] :
    DecidableEq (Except error value)
  | .error left, .error right => decidable_of_iff (left = right) (by simp)
  | .ok left, .ok right => decidable_of_iff (left = right) (by simp)
  | .error _, .ok _ => isFalse nofun
  | .ok _, .error _ => isFalse nofun

namespace System

/-- A step leaves the configuration and the accumulated time alone. -/
theorem stepOrPoll_timing (system : System) :
    system.stepOrPoll.1.config = system.config ∧ system.stepOrPoll.1.timing = system.timing := by
  have advances := system.stepOrPoll_advances
  generalize system.stepOrPoll = advanced at advances ⊢
  cases advances <;> exact ⟨rfl, rfl⟩

/-- A tick whose time is accounted for steps, counts the timers down and tells the observers. -/
theorem tick_observed {system : System} {elapsed : Binary64} {timing : Timing} {count : Int}
    (accounted : system.timing.advance elapsed = (timing, .ok count)) :
    system.tick elapsed =
      ({ system.stepOrPoll.1 with machine := system.stepOrPoll.1.machine.decay count, timing },
        .observed system.stepOrPoll.2) := by
  have nonnegative := Timing.advance_nonnegative accounted
  unfold tick Timing.update
  simp only [nonnegative, Bool.false_eq_true, if_false, stepOrPoll_timing, accounted]

/-- A tick whose time cannot be accounted for only steps. -/
theorem tick_untimed {system : System} {elapsed : Binary64} {timing : Timing}
    {error : TimingError} (nonnegative : elapsed.less (.finite 0) = false)
    (refused : system.timing.advance elapsed = (timing, .error error)) :
    system.tick elapsed =
      ({ system.stepOrPoll.1 with timing }, .untimed system.stepOrPoll.2 error) := by
  unfold tick Timing.update
  simp only [nonnegative, Bool.false_eq_true, if_false, stepOrPoll_timing, refused]

/-- A tick of negative time changes nothing. -/
theorem tick_rejected {system : System} {elapsed : Binary64}
    (negative : elapsed.less (.finite 0) = true) :
    system.tick elapsed = (system, .rejected elapsed) := by
  unfold tick
  rw [if_pos negative]

/-- This lists the ways in which a tick ends. -/
inductive Ticks (system : System) (elapsed : Binary64) : System × TickResult → Prop where
  | rejected (negative : elapsed.less (.finite 0) = true) :
      Ticks system elapsed (system, .rejected elapsed)
  | untimed (nonnegative : elapsed.less (.finite 0) = false) (timing : Timing)
      (error : TimingError) (refused : system.timing.advance elapsed = (timing, .error error)) :
      Ticks system elapsed
        ({ system.stepOrPoll.1 with timing }, .untimed system.stepOrPoll.2 error)
  | observed (timing : Timing) (count : Int)
      (accounted : system.timing.advance elapsed = (timing, .ok count)) :
      Ticks system elapsed
        ({ system.stepOrPoll.1 with machine := system.stepOrPoll.1.machine.decay count, timing },
          .observed system.stepOrPoll.2)

/-- Every tick ends in one of the listed ways. -/
theorem tick_ticks (system : System) (elapsed : Binary64) :
    system.Ticks elapsed (system.tick elapsed) := by
  cases negative : elapsed.less (.finite 0) with
  | true =>
      rw [tick_rejected negative]
      exact .rejected negative
  | false =>
      cases accounted : system.timing.advance elapsed with
      | mk timing result =>
          cases result with
          | error error =>
              rw [tick_untimed negative accounted]
              exact .untimed negative timing error accounted
          | ok count =>
              rw [tick_observed accounted]
              exact .observed timing count accounted

/-- A tick does not see a change that its step does not see and that leaves the time and the timers
alone. -/
theorem tick_transfer (change : System → System)
    (timed : ∀ (system : System) timing,
      change { system with timing } = { change system with timing })
    (counted : ∀ (system : System) count timing,
      change { system with machine := system.machine.decay count, timing } =
        { change system with machine := (change system).machine.decay count, timing })
    {system : System} (timing : (change system).timing = system.timing) {elapsed : Binary64}
    (steps : elapsed.less (.finite 0) = false →
      (change system).stepOrPoll = (change system.stepOrPoll.1, system.stepOrPoll.2)) :
    (change system).tick elapsed = (change (system.tick elapsed).1, (system.tick elapsed).2) := by
  cases negative : elapsed.less (.finite 0) with
  | true => rw [tick_rejected negative, tick_rejected negative]
  | false =>
      cases accounted : system.timing.advance elapsed with
      | mk next result =>
          have accountedOther := accounted
          rw [← timing] at accountedOther
          cases result with
          | error error =>
              rw [tick_untimed negative accounted, tick_untimed negative accountedOther,
                steps negative]
              exact Prod.ext (timed _ next).symm rfl
          | ok count =>
              rw [tick_observed accounted, tick_observed accountedOther, steps negative]
              exact Prod.ext (counted _ count next).symm rfl

end System

end Chip8
