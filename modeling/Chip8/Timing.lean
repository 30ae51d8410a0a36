/-
This file turns elapsed time into counts of timer steps at a fixed rate.
-/

import Chip8.Machine
import Chip8.Number.Arithmetic

namespace Chip8

/--
This accumulates time in units of a step's thousandth part: a millisecond counts as many units as
there are steps in a second, so that a step is exactly a thousand units and the rest is carried
over.
-/
structure Timing where
  rate : Int
  accumulated : Binary64
deriving DecidableEq

namespace Timing

/-- This is a thousand, the units of a step and the milliseconds of a second. -/
def thousand : Binary64 := .finite 1000

/-- This makes up for rounding when elapsed times add up to a whole step. -/
def tolerance : Binary64 := Binary64.round (1 / 1000000000)

/-- This starts the accounting without any time; the rate has to be positive. -/
def start (rate : Int) : Except Error Timing :=
  if rate ≤ 0 then .error (.timerRate rate) else .ok { rate, accumulated := .finite 0 }

def reset (timing : Timing) : Timing :=
  { timing with accumulated := .finite 0 }

/-- This is the rate as a number, if it is not too large for one. -/
def rateNumber (timing : Timing) : Except TimingError Binary64 :=
  match Binary64.ofInt? timing.rate with
  | some rate => .ok rate
  | none => .error .rateTooLarge

/-- This is the length of a step in milliseconds. -/
def interval (timing : Timing) : Except TimingError Binary64 := do
  return thousand / (← timing.rateNumber)

/-- This is the time that has accumulated towards the next step in milliseconds. -/
def pending (timing : Timing) : Except TimingError Binary64 := do
  return timing.accumulated / (← timing.rateNumber)

/--
This accounts for elapsed milliseconds and counts the steps that they complete. Time that has
become infinite or undefined stays accumulated, so that later calls are refused as well.
-/
def advance (timing : Timing) (elapsed : Binary64) : Timing × Except TimingError Int :=
  if elapsed.less (.finite 0) then (timing, .error (.negativeTime elapsed))
  else
    match timing.rateNumber with
    | .error error => (timing, .error error)
    | .ok rate =>
      let accumulated := timing.accumulated + elapsed * rate
      match ((accumulated + tolerance).wholeQuotient thousand).toInt? with
      | none => ({ timing with accumulated }, .error .unboundedTime)
      | some count =>
        let rest := accumulated - Binary64.round count * thousand
        ({ timing with accumulated := rest.greater (.finite 0) }, .ok count)

/-- This accounts for elapsed milliseconds and counts the timers of a machine down. -/
def update (timing : Timing) (machine : Machine) (elapsed : Binary64) :
    Timing × Except TimingError Machine :=
  match timing.advance elapsed with
  | (timing, .error error) => (timing, .error error)
  | (timing, .ok count) => (timing, .ok (machine.decay count))

/-- Negative time is refused and changes nothing. -/
theorem advance_rejected (timing : Timing) {elapsed : Binary64}
    (negative : elapsed.less (.finite 0) = true) :
    timing.advance elapsed = (timing, .error (.negativeTime elapsed)) :=
  if_pos negative

/-- Time that can be accounted for is not negative. -/
theorem advance_nonnegative {timing next : Timing} {elapsed : Binary64} {count : Int}
    (accounted : timing.advance elapsed = (next, .ok count)) :
    elapsed.less (.finite 0) = false := by
  cases negative : elapsed.less (.finite 0) with
  | false => rfl
  | true =>
      rw [timing.advance_rejected negative] at accounted
      cases accounted

/-- Accounting for time leaves the rate alone. -/
theorem advance_rate {timing next : Timing} {elapsed : Binary64}
    {result : Except TimingError Int} (accounted : timing.advance elapsed = (next, result)) :
    next = { timing with accumulated := next.accumulated } := by
  have same : (timing.advance elapsed).1 =
      { timing with accumulated := (timing.advance elapsed).1.accumulated } := by
    unfold advance
    split
    · rfl
    · split
      · rfl
      · simp only
        split <;> rfl
  rw [accounted] at same
  exact same

end Timing

end Chip8
