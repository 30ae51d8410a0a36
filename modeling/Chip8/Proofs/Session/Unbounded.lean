import Chip8.Proofs.Session.Histories
import Chip8.Proofs.System.Failures
import Chip8.Proofs.System.Unbounded

namespace Chip8.Session

/-- This says that a tick takes its step but is refused for its time. The time stays gathered and
the step is warned of, but no timer counts down and no observer is told. -/
structure RefusesTime (session : Session) (clock rate elapsed : Binary64) : Prop where
  unobserved : (session.system.tick elapsed).2.observed? = none
  uncounted : (session.tick clock elapsed).1.statistics = session.statistics
  outcome : session.tick clock elapsed =
    (warn
        { session with
          system :=
            { session.system.stepOrPoll.1 with
              timing :=
                { session.system.timing with
                  accumulated := session.system.timing.gathered rate elapsed } } }
        clock session.system.stepOrPoll.2,
      .error (.timing .unboundedTime))

/-- A warning is not counted. -/
theorem warn_statistics (session : Session) (clock : Binary64) (event : StepEvent) :
    (session.warn clock event).statistics = session.statistics := by
  unfold warn
  split
  · unfold print
    split <;> rfl
  · rfl

/-- A tick of negative time does nothing. -/
theorem tick_rejected (session : Session) (clock : Binary64) {elapsed : Binary64}
    (negative : elapsed.less (.finite 0) = true) :
    session.tick clock elapsed = (session, .error (.timing (.negativeTime elapsed))) := by
  unfold tick
  simp only [System.tick_rejected negative]
  rfl

/-- A tick with infinite or undefined time is refused. -/
theorem refusesTime {session : Session} {rate elapsed : Binary64}
    (numbered : session.system.timing.rateNumber = .ok rate)
    (nonnegative : elapsed.less (.finite 0) = false)
    (infinite : (session.system.timing.gathered rate elapsed).isFinite = false)
    (clock : Binary64) : session.RefusesTime clock rate elapsed := by
  have refused := Timing.advance_unbounded numbered nonnegative infinite
  have ticked := System.tick_untimed nonnegative refused
  constructor
  · rw [ticked]
    rfl
  · unfold tick
    simp only [ticked]
    exact warn_statistics _ _ _
  · unfold tick
    simp only [ticked]
    rfl

/-- A tick of negative time does nothing. Any other tick takes its step, and its time is refused
exactly when it is infinite or undefined together with the time that has accumulated. Such time
stays, so that every later tick is refused as well, until a reset takes it away. -/
theorem unbounded_time_refused_until_reset {config : Config} {rate : Binary64}
    (convertible : Binary64.ofInt? config.timerRate = some rate) {started : Binary64}
    {session : Session} (created : create config started = .ok session)
    (history : List TimedOperation) :
    let now := session.replay history
    (∀ clock elapsed, elapsed.less (.finite 0) = true →
      now.tick clock elapsed = (now, .error (.timing (.negativeTime elapsed)))) ∧
      (∀ clock elapsed, elapsed.less (.finite 0) = false →
        (elapsed.isFinite = false → (now.system.timing.gathered rate elapsed).isFinite = false) ∧
        ((now.system.timing.gathered rate elapsed).isFinite = false →
          now.RefusesTime clock rate elapsed) ∧
        ((now.system.timing.gathered rate elapsed).isFinite = true →
          (∃ event, (now.system.tick elapsed).2 = .observed event) ∧
            (now.tick clock elapsed).1.system.timing.accumulated.isFinite = true)) ∧
      (now.system.timing.accumulated.isFinite = false →
        ∀ later, (∀ timed ∈ later, timed.operation ≠ .reset) →
          ∀ clock elapsed, elapsed.less (.finite 0) = false →
            (now.replay later).RefusesTime clock rate elapsed) ∧
      (now.system.timing.accumulated.isFinite = false ↔
        ∃ before clock elapsed after, history = before ++ ⟨clock, .tick elapsed⟩ :: after ∧
          (∀ timed ∈ after, timed.operation ≠ .reset) ∧
          (session.replay before).system.Overflows rate elapsed) ∧
      now.reset.system.timing.accumulated = .finite 0 := by
  have system (history : List TimedOperation) : (session.replay history).system =
      (System.powerOn config).replay (history.map TimedOperation.operation) := by
    rw [replay_system, create_system created]
  have numbered (history : List TimedOperation) :
      (session.replay history).system.timing.rateNumber = .ok rate := by
    rw [system]
    exact System.replay_rateNumber convertible _
  have unreset (later : List TimedOperation) :
      Operation.reset ∉ later.map TimedOperation.operation ↔
        ∀ timed ∈ later, timed.operation ≠ .reset := by
    simp only [List.mem_map, not_exists, not_and]
  intro now
  refine ⟨fun clock elapsed => now.tick_rejected clock, ?_, ?_, ?_, rfl⟩
  · intro clock elapsed nonnegative
    refine ⟨fun infinite => Timing.gathered_infinite (.inr infinite) rate,
      fun infinite => refusesTime (numbered history) nonnegative infinite clock, ?_⟩
    intro finite
    have timed : now.system.Timed := by
      rw [system history]
      exact System.replay_timed config _
    obtain ⟨rest, count, accounted, left⟩ := Timing.advance_finite (numbered history)
      timed.positive timed.amount nonnegative finite
    rw [tick_system, System.tick_observed accounted]
    exact ⟨⟨_, rfl⟩, left.finite⟩
  · intro infinite later powered clock elapsed nonnegative
    have stays : ((now.replay later).system.timing.accumulated).isFinite = false := by
      rw [system history] at infinite
      rw [← replay_append, system, List.map_append]
      exact System.replay_append_infinite convertible infinite ((unreset later).mpr powered)
    have numberedLater : (now.replay later).system.timing.rateNumber = .ok rate := by
      rw [← replay_append]
      exact numbered _
    exact refusesTime numberedLater nonnegative (Timing.gathered_infinite (.inl stays) rate) clock
  · rw [system history, System.replay_infinite_iff convertible]
    constructor
    · rintro ⟨before, elapsed, after, split, quiet, overflows⟩
      obtain ⟨init, rest, rfl, rfl, tail⟩ := List.map_eq_append_iff.mp split
      obtain ⟨⟨clock, operation⟩, last, rfl, same, rfl⟩ := List.map_eq_cons_iff.mp tail
      cases same
      refine ⟨init, clock, elapsed, last, rfl, (unreset last).mp quiet, ?_⟩
      rw [system]
      exact overflows
    · rintro ⟨before, clock, elapsed, after, rfl, quiet, overflows⟩
      rw [system] at overflows
      exact ⟨before.map TimedOperation.operation, elapsed, after.map TimedOperation.operation,
        by simp, (unreset after).mpr quiet, overflows⟩

/-- An infinite time is refused although the step fails under the raising policy, and so is the
time of the next tick. After a reset the same time is accounted for. -/
theorem infinite_time_refuses_next_tick :
    let config : Config := { errorPolicy := .raise }
    let session : Session :=
      { system := .powerOn config, statistics := .empty, started := .finite 0, printed := #[] }
    let infinite : TimedOperation := ⟨.finite 1, .tick (.infinity false)⟩
    session.tick (.finite 1) (.infinity true) =
        (session, .error (.timing (.negativeTime (.infinity true)))) ∧
      session.RefusesTime (.finite 1) (.finite 60) (.infinity false) ∧
      (session.replay [infinite]).RefusesTime (.finite 2) (.finite 60) (.finite 17) ∧
      (session.replay [infinite]).reset.system.timing.accumulated = .finite 0 := by
  intro config session infinite
  have convertible : Binary64.ofInt? config.timerRate = some (.finite 60) := by decide +kernel
  have created : create config (.finite 0) = .ok session := rfl
  have finite : session.system.timing.accumulated.isFinite = true := rfl
  -- The contents of the machine play no part from here on.
  clear_value session
  obtain ⟨rejects, refuses, _⟩ := unbounded_time_refused_until_reset convertible created []
  obtain ⟨_, _, stays, overflowed, resets⟩ :=
    unbounded_time_refused_until_reset convertible created [infinite]
  obtain ⟨gathers, refusesInfinite, _⟩ := refuses (.finite 1) (.infinity false) rfl
  have unbounded := gathers rfl
  have poisoned := overflowed.mpr ⟨[], _, _, [], rfl, by simp, rfl, finite, unbounded⟩
  have refusesNext := stays poisoned [] (by simp) (.finite 2) (.finite 17) (by decide)
  rw [replay_nil] at refusesNext
  exact ⟨rejects _ _ rfl, refusesInfinite unbounded, refusesNext, resets⟩

end Chip8.Session
