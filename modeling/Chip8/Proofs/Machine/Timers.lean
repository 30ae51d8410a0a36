import Chip8.Proofs.Machine.Footprint

namespace Chip8

/-- This is one of the two timers. -/
inductive Timer where
  | delay
  | sound

namespace Timer

def value : Timer → Machine → UInt8
  | .delay, machine => machine.delayTimer
  | .sound, machine => machine.soundTimer

/-- This is the instruction that loads a timer from a register. -/
def load : Timer → Register → Instruction
  | .delay, x => .writeDelay x
  | .sound, x => .writeSound x

/-- A timer counts down to zero at least. -/
theorem toNat_decay (timer : Timer) (machine : Machine) (count : Int) :
    (timer.value (machine.decay count)).toNat = (timer.value machine).toNat - count.toNat := by
  cases timer with
  | delay =>
      have byte := machine.delayTimer.toNat_lt
      exact Nat.mod_eq_of_lt (by omega)
  | sound =>
      have byte := machine.soundTimer.toNat_lt
      exact Nat.mod_eq_of_lt (by omega)

/-- Machines that differ in the timers at most are equal if the timers are. -/
theorem eq_of_value {machine other : Machine}
    (rest : other =
      { machine with delayTimer := other.delayTimer, soundTimer := other.soundTimer })
    (same : ∀ timer : Timer, timer.value other = timer.value machine) : other = machine := by
  have delay : other.delayTimer = machine.delayTimer := same .delay
  have sound : other.soundTimer = machine.soundTimer := same .sound
  rw [rest, delay, sound]

/-- Nothing is counted down by zero. -/
theorem decay_zero (machine : Machine) : machine.decay 0 = machine := by
  apply eq_of_value rfl
  intro timer
  apply UInt8.toNat_inj.mp
  rw [toNat_decay]
  rfl

/-- Counting down in two parts is counting down by their sum. -/
theorem decay_decay (machine : Machine) (first second : Nat) :
    (machine.decay first).decay second = machine.decay (first + second : Nat) := by
  apply eq_of_value rfl
  intro timer
  apply UInt8.toNat_inj.mp
  simp only [toNat_decay]
  omega

/-- A load gives a timer the value of its register. -/
theorem value_of_load (timer : Timer) {machine next : Machine} {x : Register}
    (executed : machine.execute (timer.load x) = .ok next) :
    timer.value next = machine.register x := by
  cases timer <;> (cases executed; rfl)

/-- Any other instruction leaves the timer alone. -/
theorem value_of_other (timer : Timer) {machine next : Machine} {instruction : Instruction}
    (executed : machine.execute instruction = .ok next) (other : ∀ x, instruction ≠ timer.load x) :
    timer.value next = timer.value machine := by
  cases timer with
  | delay =>
      have outside : Place.delayTimer ∉ machine.footprint instruction := by
        cases instruction
        case writeDelay x => exact absurd rfl (other x)
        all_goals simp [Machine.footprint]
      exact Machine.execute_content executed outside
  | sound =>
      have outside : Place.soundTimer ∉ machine.footprint instruction := by
        cases instruction
        case writeSound x => exact absurd rfl (other x)
        all_goals simp [Machine.footprint]
      exact Machine.execute_content executed outside

end Timer

end Chip8
