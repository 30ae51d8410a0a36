import Chip8.Proofs.Number.Overflow

namespace Chip8.Binary64

/-- This says that a number is the rounding of a value; zero may have either sign. -/
def Rounds (number : Binary64) (value : Rat) : Prop :=
  number = round value ∨ number.isZero = true ∧ value = 0

theorem isZero_zeroOf (negative : Bool) : (zeroOf negative).isZero = true := by
  cases negative <;> rfl

theorem isZero_iff {number : Binary64} :
    number.isZero = true ↔ number.isFinite = true ∧ number.real = 0 := by
  cases number <;> simp [isZero, isFinite, real]

/-- A rounded value is infinite or the nearest point of the grid. -/
theorem Rounds.nearest {number : Binary64} {value : Rat} (rounds : number.Rounds value) :
    if overflowBound ≤ |nearest value| then number = .infinity (value < 0)
    else number.isFinite = true ∧ number.real = Binary64.nearest value := by
  rcases rounds with rfl | ⟨zero, rfl⟩
  · exact round_nearest value
  · have positive : 0 < overflowBound := power_pos 1024
    rw [nearest_zero, abs_zero, if_neg positive.not_ge]
    exact isZero_iff.mp zero

/-- This says that a number is finite and not negative, and not beyond the greatest number. -/
structure IsAmount (number : Binary64) : Prop where
  finite : number.isFinite = true
  nonnegative : 0 ≤ number.real
  bounded : number.real ≤ largest

theorem isAmount_zero : (Binary64.finite 0).IsAmount :=
  ⟨rfl, le_rfl, largest_nonneg⟩

/-- A value that is not negative is rounded to an amount or overflows. -/
theorem Rounds.isAmount_or {number : Binary64} {value : Rat} (rounds : number.Rounds value)
    (nonneg : 0 ≤ value) : number.IsAmount ∨ number = .infinity false := by
  have near := rounds.nearest
  split_ifs at near with large
  · rw [decide_eq_false nonneg.not_gt] at near
    exact .inr near
  · obtain ⟨finite, same⟩ := near
    refine .inl ⟨finite, same ▸ nearest_nonneg nonneg, ?_⟩
    rw [same]
    exact (le_abs_self _).trans (abs_nearest_le_largest (lt_of_not_ge large))

/-- A finite rounding of a value that is not negative is an amount. -/
theorem Rounds.isAmount {number : Binary64} {value : Rat} (rounds : number.Rounds value)
    (nonneg : 0 ≤ value) (finite : number.isFinite = true) : number.IsAmount := by
  rcases rounds.isAmount_or nonneg with amount | rfl
  · exact amount
  · contradiction

/-- A value below the limit is rounded to a number within the greatest one. -/
theorem Rounds.of_small {number : Binary64} {value : Rat} (rounds : number.Rounds value)
    (small : |value| < roundingLimit) :
    number.isFinite = true ∧ |number.real| ≤ largest := by
  have fits := abs_nearest_lt small
  have near := rounds.nearest
  rw [if_neg fits.not_ge] at near
  rw [near.2]
  exact ⟨near.1, abs_nearest_le_largest fits⟩

/-- A value that is not negative and hardly beyond the greatest number is rounded to an amount. -/
theorem Rounds.isAmount_of_le {number : Binary64} {value : Rat} (rounds : number.Rounds value)
    (nonneg : 0 ≤ value) (small : value ≤ largest + 1) : number.IsAmount := by
  have limit := largest_add_two_le
  have below : |value| < roundingLimit := by
    rw [abs_of_nonneg nonneg]
    linarith
  exact rounds.isAmount nonneg (rounds.of_small below).1

theorem Rounds.real_nonneg {number : Binary64} {value : Rat} (rounds : number.Rounds value)
    (nonneg : 0 ≤ value) : 0 ≤ number.real := by
  rcases rounds.isAmount_or nonneg with amount | rfl
  · exact amount.nonnegative
  · exact le_rfl

theorem rounds_add {number other : Binary64} (finite : number.isFinite = true)
    (finiteOther : other.isFinite = true) : (number + other).Rounds (number.real + other.real) := by
  cases number <;> cases other <;> first
    | contradiction
    | exact .inl rfl
    | exact .inr ⟨rfl, add_zero 0⟩

theorem neg_finite {number : Binary64} (finite : number.isFinite = true) :
    number.neg.isFinite = true ∧ number.neg.real = -number.real := by
  cases number with
  | nan => contradiction
  | infinity => contradiction
  | negativeZero => exact ⟨rfl, neg_zero.symm⟩
  | finite value =>
      simp only [neg]
      split_ifs with zero
      · rw [zero]
        exact ⟨rfl, neg_zero.symm⟩
      · exact ⟨rfl, rfl⟩

theorem rounds_sub {number other : Binary64} (finite : number.isFinite = true)
    (finiteOther : other.isFinite = true) : (number - other).Rounds (number.real - other.real) := by
  obtain ⟨finiteNeg, opposite⟩ := neg_finite finiteOther
  have sum := rounds_add finite finiteNeg
  rw [opposite, ← sub_eq_add_neg] at sum
  exact sum

theorem rounds_mul {number other : Binary64} (finite : number.isFinite = true)
    (finiteOther : other.isFinite = true) : (number * other).Rounds (number.real * other.real) := by
  rw [mul_of_finite finite finiteOther]
  split_ifs with zero
  · refine .inr ⟨isZero_zeroOf _, ?_⟩
    rw [Bool.or_eq_true, isZero_iff, isZero_iff] at zero
    exact mul_eq_zero.mpr (zero.imp And.right And.right)
  · exact .inl rfl

theorem rounds_div {number other : Binary64} (finite : number.isFinite = true)
    (finiteOther : other.isFinite = true) (nonzero : other.isZero = false) :
    (number / other).Rounds (number.real / other.real) := by
  rw [div_of_finite finite finiteOther nonzero]
  split_ifs with zero
  · exact .inr ⟨isZero_zeroOf _, by rw [(isZero_iff.mp zero).2, zero_div]⟩
  · exact .inl rfl

/-- A sum is finite only if both numbers are. -/
theorem isFinite_of_add {number other : Binary64} (finite : (number + other).isFinite = true) :
    number.isFinite = true ∧ other.isFinite = true := by
  cases number with
  | nan => contradiction
  | infinity negative =>
      cases other with
      | infinity other =>
          change (if negative = other then infinity negative else nan).isFinite = true at finite
          split at finite <;> contradiction
      | _ => contradiction
  | negativeZero => cases other <;> first | contradiction | exact ⟨rfl, rfl⟩
  | finite value => cases other <;> first | contradiction | exact ⟨rfl, rfl⟩

/-- A product with an infinity is infinite or undefined. -/
theorem infinity_mul (negative : Bool) (other : Binary64) :
    (infinity negative * other).isFinite = false ∧
      (other * infinity negative).isFinite = false := by
  cases other with
  | nan => exact ⟨rfl, rfl⟩
  | infinity => exact ⟨rfl, rfl⟩
  | negativeZero => exact ⟨rfl, rfl⟩
  | finite value =>
      constructor <;>
        change (if decide (value = 0) = true then nan else infinity _).isFinite = false <;>
        split <;> rfl

/-- A product is finite only if both numbers are. -/
theorem isFinite_of_mul {number other : Binary64} (finite : (number * other).isFinite = true) :
    number.isFinite = true ∧ other.isFinite = true := by
  cases number with
  | nan => contradiction
  | infinity negative =>
      rw [(infinity_mul negative other).1] at finite
      contradiction
  | negativeZero | finite value =>
      cases other with
      | nan => contradiction
      | infinity negative =>
          rw [(infinity_mul negative _).2] at finite
          contradiction
      | _ => exact ⟨rfl, rfl⟩

/-- A number that is not less than zero has no negative value. -/
theorem real_nonneg_of_less {number : Binary64} (nonnegative : number.less (.finite 0) = false) :
    0 ≤ number.real := by
  cases number with
  | nan => exact le_rfl
  | infinity => exact le_rfl
  | negativeZero => exact le_rfl
  | finite value => exact le_of_not_gt (of_decide_eq_false nonnegative)

/-- The rest of an amount is at most the amount. -/
theorem remainder_bounds {number : Binary64} (amount : number.IsAmount) {divisor : Rat}
    (positive : 0 < divisor) :
    (number.remainder (.finite divisor)).isFinite = true ∧
      0 ≤ number.real - (number.remainder (.finite divisor)).real ∧
      number.real - (number.remainder (.finite divisor)).real ≤ number.real := by
  obtain ⟨finite, nonnegative, _⟩ := amount
  cases number with
  | nan => contradiction
  | infinity => contradiction
  | negativeZero => exact ⟨rfl, (sub_zero (0 : Rat)).ge, (sub_zero (0 : Rat)).le⟩
  | finite value =>
      have lower := Rat.floor_le (value / divisor)
      have whole : value / divisor * divisor = value := div_mul_cancel₀ value positive.ne'
      have count : (0 : Rat) ≤ (value / divisor).floor := by
        exact_mod_cast floor_nonneg (div_nonneg nonnegative positive.le)
      have most := mul_le_mul_of_nonneg_right lower positive.le
      have least := mul_nonneg count positive.le
      refine ⟨rfl, ?_, ?_⟩ <;> simp only [remainder, real] <;> linarith

/-- An amount that loses its fraction is an amount. -/
theorem IsAmount.floor {number : Binary64} (amount : number.IsAmount) : number.floor.IsAmount := by
  obtain ⟨finite, nonnegative, bounded⟩ := amount
  cases number with
  | nan => contradiction
  | infinity => contradiction
  | negativeZero => exact ⟨rfl, le_rfl, largest_nonneg⟩
  | finite value =>
      refine ⟨rfl, ?_, (Rat.floor_le value).trans bounded⟩
      change (0 : Rat) ≤ value.floor
      exact_mod_cast floor_nonneg nonnegative

/-- The count of whole multiples in an amount is an amount. -/
theorem IsAmount.wholeQuotient {number : Binary64} (amount : number.IsAmount) {divisor : Rat}
    (least : 1 ≤ divisor) : (number.wholeQuotient (.finite divisor)).IsAmount := by
  have positive : 0 < divisor := lt_of_lt_of_le one_pos least
  have nonzero : (Binary64.finite divisor).isZero = false := by
    simpa [isZero] using positive.ne'
  have one : (Binary64.finite 1).isFinite = true := rfl
  obtain ⟨finite, nonneg, most⟩ := remainder_bounds amount positive
  have multiple : (number - number.remainder (.finite divisor)).IsAmount :=
    (rounds_sub amount.finite finite).isAmount_of_le nonneg (by linarith [amount.bounded])
  have quotient : ((number - number.remainder (.finite divisor)) / .finite divisor).IsAmount := by
    have smaller := div_le_self multiple.nonnegative least
    exact (rounds_div multiple.finite rfl nonzero).isAmount_of_le
      (div_nonneg multiple.nonnegative positive.le)
      (smaller.trans (by linarith [multiple.bounded]))
  have lower := quotient.floor
  unfold Binary64.wholeQuotient
  simp only
  split_ifs
  · exact (rounds_add lower.finite one).isAmount_of_le
      (add_nonneg lower.nonnegative zero_le_one) (add_le_add_left lower.bounded 1)
  · exact lower

/-- An amount without its fraction is a natural number. -/
theorem IsAmount.toInt {number : Binary64} (amount : number.IsAmount) :
    ∃ count : Nat, number.toInt? = some (count : Int) := by
  obtain ⟨finite, nonnegative, _⟩ := amount
  cases number with
  | nan => contradiction
  | infinity => contradiction
  | negativeZero => exact ⟨0, rfl⟩
  | finite value =>
      have nonneg : 0 ≤ value := nonnegative
      refine ⟨value.floor.toNat, ?_⟩
      rw [toInt?, if_neg nonneg.not_gt, Int.toNat_of_nonneg (floor_nonneg nonneg)]

/-- An amount that loses another one, or more than every number, is an amount when nothing below
zero is kept. -/
theorem IsAmount.sub_greater {number passed : Binary64} (amount : number.IsAmount)
    (other : passed.IsAmount ∨ passed = .infinity false) :
    ((number - passed).greater (.finite 0)).IsAmount := by
  have kept {number : Binary64} (finite : number.isFinite = true)
      (bounded : |number.real| ≤ largest) : (number.greater (.finite 0)).IsAmount := by
    unfold greater
    split_ifs with negative
    · exact isAmount_zero
    · exact ⟨finite, real_nonneg_of_less (Bool.eq_false_iff.mpr negative),
        (le_abs_self _).trans bounded⟩
  rcases other with other | rfl
  · have limit := largest_add_two_le
    have small : |number.real - passed.real| < roundingLimit := by
      have first := amount.bounded
      have second := other.bounded
      have third := amount.nonnegative
      have fourth := other.nonnegative
      rw [abs_lt]
      constructor <;> linarith
    obtain ⟨finite, bounded⟩ := (rounds_sub amount.finite other.finite).of_small small
    exact kept finite bounded
  · have below : number - .infinity false = .infinity true := by
      have finite := amount.finite
      cases number <;> first | contradiction | rfl
    rw [below]
    exact isAmount_zero

/-- A number that is not finite has no count of whole multiples. -/
theorem wholeQuotient_of_infinite {number : Binary64} (infinite : number.isFinite = false)
    (divisor : Binary64) : number.wholeQuotient divisor = .nan := by
  cases number <;> first | contradiction | rfl

end Chip8.Binary64
