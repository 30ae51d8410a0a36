import Chip8.Proofs.System.Histories
import Chip8.Proofs.Timing.Unbounded

namespace Chip8.System

/-- This says that a system counts time at the rate of its configuration and that its time is an
amount as long as it is finite. -/
structure Timed (system : System) : Prop where
  rate : system.timing.rate = system.config.timerRate
  amount : system.timing.accumulated.isFinite = true → system.timing.accumulated.IsAmount

theorem powerOn_timed (config : Config) : (powerOn config).Timed :=
  ⟨rfl, fun _ => Binary64.isAmount_zero⟩

theorem Timed.positive {system : System} (timed : system.Timed) : 0 < system.timing.rate := by
  rw [timed.rate]
  exact system.config.ratePositive

/-- Every operation keeps the time in order. -/
theorem Timed.after {system : System} (timed : system.Timed) (operation : Operation) :
    (system.after operation).Timed := by
  by_cases reset : operation = .reset
  · rw [reset, after_reset]
    exact ⟨timed.rate, fun _ => Binary64.isAmount_zero⟩
  by_cases ticks : ∃ elapsed, operation = .tick elapsed
  · obtain ⟨elapsed, rfl⟩ := ticks
    constructor
    · have kept := Timing.advance_rate (system.timing.advance elapsed).eta.symm
      rw [after_tick_timing, after_config, ← timed.rate, kept]
    · rw [after_tick_timing]
      exact Timing.advance_isAmount timed.positive timed.amount
  · rw [not_exists] at ticks
    have timing := system.after_timing reset ticks
    exact ⟨by rw [timing, after_config, timed.rate], by rw [timing]; exact timed.amount⟩

theorem replay_timed (config : Config) (history : List Operation) :
    ((powerOn config).replay history).Timed :=
  replay_keeps Timed (fun _ operation timed => timed.after operation) (powerOn_timed config) history

/-- This says that a tick takes time that was finite beyond all numbers. -/
structure Overflows (system : System) (rate elapsed : Binary64) : Prop where
  nonnegative : elapsed.less (.finite 0) = false
  finite : system.timing.accumulated.isFinite = true
  unbounded : (system.timing.gathered rate elapsed).isFinite = false

/-- A tick ends with infinite or undefined time exactly when it starts with it or overflows. -/
theorem Timed.after_tick_infinite_iff {system : System} (timed : system.Timed) {rate : Binary64}
    (numbered : system.timing.rateNumber = .ok rate) (elapsed : Binary64) :
    (system.after (.tick elapsed)).timing.accumulated.isFinite = false ↔
      system.timing.accumulated.isFinite = false ∨ system.Overflows rate elapsed := by
  rw [after_tick_timing]
  cases negative : elapsed.less (.finite 0) with
  | true =>
      rw [system.timing.advance_rejected negative]
      constructor
      · exact .inl
      · rintro (infinite | overflows)
        · exact infinite
        · rw [overflows.nonnegative] at negative
          contradiction
  | false =>
      rw [Timing.advance_isFinite numbered timed.positive timed.amount negative]
      constructor
      · intro unbounded
        cases finite : system.timing.accumulated.isFinite with
        | false => exact .inl rfl
        | true => exact .inr ⟨negative, finite, unbounded⟩
      · rintro (infinite | overflows)
        · exact Timing.gathered_infinite (.inl infinite) rate
        · exact overflows.unbounded

theorem replay_rateNumber {config : Config} {rate : Binary64}
    (convertible : Binary64.ofInt? config.timerRate = some rate) (history : List Operation) :
    ((powerOn config).replay history).timing.rateNumber = .ok rate := by
  have kept : ((powerOn config).replay history).config = config := replay_config _ history
  rw [Timing.rateNumber, (replay_timed config history).rate, kept, convertible]

/-- Time is infinite or undefined exactly when some tick since the last reset overflowed. -/
theorem replay_infinite_iff {config : Config} {rate : Binary64}
    (convertible : Binary64.ofInt? config.timerRate = some rate) (history : List Operation) :
    ((powerOn config).replay history).timing.accumulated.isFinite = false ↔
      ∃ before elapsed after, history = before ++ .tick elapsed :: after ∧
        Operation.reset ∉ after ∧ ((powerOn config).replay before).Overflows rate elapsed := by
  rw [replay_since_reset
    (fun system => system.timing.accumulated.isFinite = false)
    (fun system operation => ∃ elapsed, operation = .tick elapsed ∧
      system.Overflows rate elapsed)]
  · constructor
    · rintro ⟨before, _, after, split, _, quiet, elapsed, rfl, overflows⟩
      exact ⟨before, elapsed, after, split, quiet, overflows⟩
    · rintro ⟨before, elapsed, after, split, quiet, overflows⟩
      exact ⟨before, _, after, split, nofun, quiet, elapsed, rfl, overflows⟩
  · intro config infinite
    contradiction
  · intro before operation powered
    have timed := replay_timed config before
    have numbered := replay_rateNumber convertible before
    generalize (powerOn config).replay before = system at timed numbered ⊢
    cases operation with
    | tick elapsed => simpa using timed.after_tick_infinite_iff numbered elapsed
    | reset => exact absurd rfl powered
    | _ =>
        rw [system.after_timing powered nofun]
        simp

/-- Infinite or undefined time stays so until a reset. -/
theorem replay_append_infinite {config : Config} {rate : Binary64}
    (convertible : Binary64.ofInt? config.timerRate = some rate) {history later : List Operation}
    (infinite : ((powerOn config).replay history).timing.accumulated.isFinite = false)
    (powered : Operation.reset ∉ later) :
    ((powerOn config).replay (history ++ later)).timing.accumulated.isFinite = false := by
  rw [replay_infinite_iff convertible] at infinite ⊢
  obtain ⟨before, elapsed, after, rfl, quiet, overflows⟩ := infinite
  refine ⟨before, elapsed, after ++ later, by simp, ?_, overflows⟩
  rw [List.mem_append, not_or]
  exact ⟨quiet, powered⟩

end Chip8.System
