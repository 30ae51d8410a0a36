import Chip8.Number.Arithmetic
import Chip8.Proofs.Number.Rounding

namespace Chip8.Binary64

/-- This says that a number is a natural number; both zeros are zero. -/
def IsNatural (number : Binary64) (value : Nat) : Prop :=
  number.isFinite = true ∧ number.real = value

theorem isNatural_finite (value : Nat) : IsNatural (.finite value) value :=
  ⟨rfl, rfl⟩

theorem isNatural_zeroOf (negative : Bool) : IsNatural (zeroOf negative) 0 := by
  cases negative <;> exact ⟨rfl, rfl⟩

/-- Natural numbers are not negative. -/
theorem IsNatural.nonnegative {number : Binary64} {value : Nat} (natural : number.IsNatural value) :
    number.less (.finite 0) = false := by
  obtain ⟨finite, same⟩ := natural
  cases number with
  | nan => rfl
  | infinity => contradiction
  | negativeZero => rfl
  | finite exact =>
      have nonnegative : (0 : Rat) ≤ exact := by
        rw [show exact = value from same]
        exact Nat.cast_nonneg value
      exact decide_eq_false nonnegative.not_gt

theorem finite_add (value : Rat) {number : Binary64} (finite : number.isFinite = true) :
    .finite value + number = round (value + number.real) := by
  cases number with
  | nan => contradiction
  | infinity => contradiction
  | negativeZero => rfl
  | finite => rfl

theorem finite_sub (value : Rat) {number : Binary64} (finite : number.isFinite = true) :
    .finite value - number = round (value - number.real) := by
  cases number with
  | nan => contradiction
  | infinity => contradiction
  | negativeZero =>
      change Binary64.finite value + .finite 0 = round (value - 0)
      rw [finite_add value rfl, sub_zero]
      exact congrArg round (add_zero value)
  | finite other =>
      change Binary64.finite value + neg (.finite other) = round (value - other)
      simp only [neg]
      split_ifs with zero
      · rw [finite_add value rfl, zero, sub_zero]
        exact congrArg round (add_zero value)
      · rw [finite_add value rfl, sub_eq_add_neg]
        rfl

/-- Sums of natural numbers are exact up to 53 bits. -/
theorem IsNatural.finite_add {number : Binary64} {value : Nat} (natural : number.IsNatural value)
    {start : Nat} (small : start + value ≤ 2 ^ 53) :
    Binary64.finite start + number = .finite (start + value : Nat) := by
  rw [Binary64.finite_add _ natural.1, natural.2, ← Nat.cast_add, round_natCast small]

/-- Differences of natural numbers are exact up to 53 bits. -/
theorem IsNatural.finite_sub {number : Binary64} {value : Nat} (natural : number.IsNatural value)
    {start : Nat} (least : value ≤ start) (small : start ≤ 2 ^ 53) :
    Binary64.finite start - number = .finite (start - value : Nat) := by
  rw [Binary64.finite_sub _ natural.1, natural.2, ← Nat.cast_sub least, round_natCast (by omega)]

theorem toInt_finite (value : Nat) : (Binary64.finite value).toInt? = some (value : Int) := by
  have nonnegative : ¬ ((value : Rat) < 0) := (Nat.cast_nonneg value).not_gt
  rw [toInt?, if_neg nonnegative, ← Int.cast_natCast, Rat.floor_intCast]

/-- A finite product is a zero with the sign of the factors or rounded. -/
theorem mul_of_finite {number other : Binary64} (finite : number.isFinite = true)
    (finiteOther : other.isFinite = true) :
    number * other =
      if number.isZero || other.isZero then zeroOf (number.isNegative != other.isNegative)
      else round (number.real * other.real) := by
  cases number <;> cases other <;> first | contradiction | rfl

/-- A finite quotient by a number other than zero is a zero with the sign of both numbers or
rounded. -/
theorem div_of_finite {number other : Binary64} (finite : number.isFinite = true)
    (finiteOther : other.isFinite = true) (nonzero : other.isZero = false) :
    number / other =
      if number.isZero then zeroOf (number.isNegative != other.isNegative)
      else round (number.real / other.real) := by
  cases number <;> cases other <;>
    first | contradiction | exact if_neg (Bool.eq_false_iff.mp nonzero)

theorem IsNatural.isZero_iff {number : Binary64} {value : Nat} (natural : number.IsNatural value) :
    number.isZero = true ↔ value = 0 := by
  obtain ⟨finite, same⟩ := natural
  cases number with
  | nan => contradiction
  | infinity => contradiction
  | negativeZero => simpa [isZero, real, eq_comm] using same
  | finite exact =>
      rw [show exact = value from same]
      simp [isZero]

theorem isNegative_finite (value : Nat) : (Binary64.finite value).isNegative = false :=
  decide_eq_false (Nat.cast_nonneg (α := Rat) value).not_gt

/-- Products of natural numbers are exact up to 53 bits. -/
theorem IsNatural.mul {number other : Binary64} {value factor : Nat}
    (natural : number.IsNatural value) (naturalOther : other.IsNatural factor)
    (small : value * factor ≤ 2 ^ 53) : (number * other).IsNatural (value * factor) := by
  rw [mul_of_finite natural.1 naturalOther.1]
  split_ifs with zero
  · have product : value * factor = 0 := by
      rw [Bool.or_eq_true, natural.isZero_iff, naturalOther.isZero_iff] at zero
      exact Nat.mul_eq_zero.mpr zero
    rw [product]
    exact isNatural_zeroOf _
  · rw [natural.2, naturalOther.2, ← Nat.cast_mul, round_natCast small]
    exact isNatural_finite _

/-- Quotients of multiples are exact up to 53 bits. -/
theorem finite_mul_div {count divisor : Nat} (positive : 0 < divisor) (small : count ≤ 2 ^ 53) :
    Binary64.finite (count * divisor : Nat) / .finite divisor = .finite count := by
  have nonzero : (Binary64.finite divisor).isZero = false := by
    rw [Bool.eq_false_iff, ne_eq, (isNatural_finite divisor).isZero_iff]
    exact positive.ne'
  have positive' : (0 : Rat) < divisor := by exact_mod_cast positive
  rw [div_of_finite rfl rfl nonzero]
  split_ifs with zero
  · rw [(isNatural_finite _).isZero_iff, Nat.mul_eq_zero] at zero
    have none : count = 0 := zero.resolve_right positive.ne'
    rw [isNegative_finite, isNegative_finite, none]
    rfl
  · have quotient : ((count * divisor : Nat) : Rat) / divisor = count := by
      push_cast
      field_simp
    change round (((count * divisor : Nat) : Rat) / divisor) = _
    rw [quotient, round_natCast small]

/-- The count of whole multiples is exact where they have at most 53 bits. -/
theorem wholeQuotient_eq {value : Rat} {count divisor : Nat} (positive : 0 < divisor)
    (lower : ((count * divisor : Nat) : Rat) ≤ value)
    (upper : value < ((count + 1) * divisor : Nat)) (small : count * divisor ≤ 2 ^ 53) :
    (Binary64.finite value).wholeQuotient (.finite divisor) = .finite count := by
  have positive' : (0 : Rat) < divisor := by exact_mod_cast positive
  have floored : (value / divisor).floor = count := by
    push_cast at lower upper
    apply le_antisymm
    · apply Int.le_of_lt_add_one
      rw [Rat.floor_lt_iff]
      push_cast
      exact (div_lt_iff₀ positive').mpr upper
    · rw [Rat.le_floor_iff]
      exact (le_div_iff₀ positive').mpr (by exact_mod_cast lower)
  have multiple : Binary64.finite value - (Binary64.finite value).remainder (.finite divisor) =
      .finite (count * divisor : Nat) := by
    simp only [remainder, real, floored]
    rw [finite_sub value rfl]
    simp only [real]
    rw [sub_sub_cancel, Int.cast_natCast, ← Nat.cast_mul, round_natCast small]
  have fits : count ≤ 2 ^ 53 := (Nat.le_mul_of_pos_right count positive).trans small
  have whole : (Binary64.finite count).floor = .finite count := by
    rw [floor, ← Int.cast_natCast, Rat.floor_intCast]
  have rest : Binary64.finite count - .finite count = .finite 0 := by
    rw [(isNatural_finite count).finite_sub le_rfl fits, Nat.sub_self]
    rfl
  have near : (Binary64.finite (1 / 2)).less (.finite 0) = false := by decide +kernel
  simp only [wholeQuotient, multiple, finite_mul_div positive fits, whole, rest, near]
  rfl

end Chip8.Binary64
