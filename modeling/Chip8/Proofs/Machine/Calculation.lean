import Chip8.Proofs.Machine.Footprint

namespace Chip8

namespace Arithmetic

/-- This relates two bytes to the result and the flag of an operation by exact arithmetic. The flag
counts 256 in a sum and in a shift to the left, and without it a difference borrows 256. -/
def Exact (first second result : UInt8) (flag : Bool) : Arithmetic → Prop
  | .set => result = second
  | .or => result = first ||| second
  | .and => result = first &&& second
  | .xor => result = first ^^^ second
  | .add => (first.toNat + second.toNat : Int) = result.toNat + 256 * flag.toNat
  | .subtract => (first.toNat - second.toNat : Int) = result.toNat - 256 * (1 - flag.toNat)
  | .shiftRight => (first.toNat : Int) = 2 * result.toNat + flag.toNat
  | .subtractFrom => (second.toNat - first.toNat : Int) = result.toNat - 256 * (1 - flag.toNat)
  | .shiftLeft => (2 * first.toNat : Int) = result.toNat + 256 * flag.toNat

/-- Exact arithmetic determines the result, and the flag if the operation sets one. -/
theorem Exact.unique {operation : Arithmetic} {first second result other : UInt8}
    {flag raised : Bool} (exact : operation.Exact first second result flag)
    (exactOther : operation.Exact first second other raised) :
    other = result ∧ (operation.setsFlag = true → raised = flag) := by
  have bound := result.toNat_lt
  have boundOther := other.toNat_lt
  cases operation
  case set | or | and | xor => exact ⟨exactOther.trans exact.symm, nofun⟩
  all_goals
    simp only [Exact] at exact exactOther
    have bit := flag.toNat_le
    have bitOther := raised.toNat_le
    have same : other.toNat = result.toNat ∧ raised.toNat = flag.toNat := by omega
    refine ⟨UInt8.toNat_inj.mp same.1, fun _ => ?_⟩
    rw [Bool.eq_iff_iff, ← Bool.toNat_eq_one, ← Bool.toNat_eq_one, same.2]

/-- A combination of the digits of two bytes is a byte. -/
theorem ofInt_bitwise {combine : Bool → Bool → Bool} (zero : combine false false = false)
    {first second combined : UInt8}
    (same : combined.toNat = Nat.bitwise combine first.toNat second.toNat) :
    UInt8.ofInt (bitwise combine first.toNat second.toNat) = combined := by
  have natural (value : Nat) : ¬ (value : Int) < 0 := by omega
  have digits : bitwise combine first.toNat second.toNat = combined.toNat := by
    simp [bitwise, natural, zero, same]
  rw [digits, byte_ofInt_toNat]

theorem toNat_decide (condition : Prop) [Decidable condition] :
    (decide condition).toNat = if condition then 1 else 0 :=
  Bool.cond_decide condition 1 0

/-- On bytes every operation is exact, and it sets a flag or none. -/
theorem apply_exact (operation : Arithmetic) (first second : UInt8) :
    let outcome := operation.apply first.toNat second.toNat
    operation.Exact first second (UInt8.ofInt outcome.result) (outcome.flag.getD false) ∧
      outcome.flag.isSome = operation.setsFlag := by
  have bound := first.toNat_lt
  have boundSecond := second.toNat_lt
  intro outcome
  refine ⟨?_, by cases operation <;> rfl⟩
  cases operation
  case set => exact byte_ofInt_toNat second
  case or => exact ofInt_bitwise rfl (UInt8.toNat_or first second)
  case and => exact ofInt_bitwise rfl (UInt8.toNat_and first second)
  case xor => exact ofInt_bitwise rfl (UInt8.toNat_xor first second)
  all_goals
    simp only [outcome, apply, Exact, toNat_byte_ofInt, Option.getD_some, toNat_decide]
    split <;> omega

end Arithmetic

namespace Machine

/-- This is the byte that an operation takes first: in legacy mode a shift takes the second
register. -/
def firstOperand (machine : Machine) (operation : Arithmetic) (x y : Register) : UInt8 :=
  if (operation = .shiftRight ∨ operation = .shiftLeft) ∧ machine.modern = false then
    machine.register y
  else machine.register x

/-- An operation takes its operands before it stores the result and then the flag. -/
theorem calculate_eq (machine : Machine) (operation : Arithmetic) (x y : Register) :
    let outcome := operation.apply (machine.firstOperand operation x y).toNat
      (machine.register y).toNat
    let stored := machine.setRegister x (UInt8.ofInt outcome.result)
    machine.calculate operation x y =
      if operation.setsFlag then stored.setFlag (outcome.flag.getD false) else stored := by
  have operand : (if operation.isShift && !machine.modern then machine.register y
      else machine.register x) = machine.firstOperand operation x y := by
    cases operation <;> simp [Arithmetic.isShift, firstOperand]
  have flagged := (operation.apply_exact (machine.firstOperand operation x y)
    (machine.register y)).2
  simp only [calculate, operand, ← flagged]
  cases (operation.apply (machine.firstOperand operation x y).toNat
    (machine.register y).toNat).flag <;> rfl

/-- The word of an operation is executed in exact arithmetic, whichever registers it names, and this
arithmetic leaves no other result and no other flag. The flag is stored after the result, so that it
is all that remains in the flag register, and no other part of the machine changes. -/
theorem calculation_is_exact (machine : Machine) (operation : Arithmetic) (x y : Register) :
    ∃ next result flag,
      machine.executeWord (Instruction.arithmetic operation x y).word = .ok next ∧
      operation.Exact (machine.firstOperand operation x y) (machine.register y) result flag ∧
      (∀ other raised,
        operation.Exact (machine.firstOperand operation x y) (machine.register y) other raised →
        other = result ∧ (operation.setsFlag = true → raised = flag)) ∧
      (∀ z, next.register z =
        if operation.setsFlag = true ∧ z = .flag then (if flag then 1 else 0)
        else if z = x then result
        else machine.register z) ∧
      next = { machine with registers := next.registers } := by
  have own : (Instruction.arithmetic operation x y).HasOwnWord := by rintro _ ⟨⟩
  obtain ⟨exact, _⟩ := operation.apply_exact (machine.firstOperand operation x y)
    (machine.register y)
  refine ⟨machine.calculate operation x y, _, _, machine.executeWord_word own, exact,
    fun _ _ => exact.unique, ?_, machine.calculate_registers operation x y⟩
  intro z
  rw [calculate_eq]
  cases operation.setsFlag with
  | false => simp [register_setRegister]
  | true => simp [setFlag, register_setRegister]

end Machine

end Chip8
