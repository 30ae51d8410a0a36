import Chip8.Proofs.Number.Integers
import Mathlib.Algebra.Order.Group.Abs

namespace Chip8.Binary64

/-- This is a power of two. The name keeps arithmetic from writing it out. -/
def power (exponent : Int) : Rat :=
  2 ^ exponent

theorem power_pos (exponent : Int) : 0 < power exponent :=
  zpow_pos (by norm_num) exponent

theorem power_le {first second : Int} (less : first ≤ second) : power first ≤ power second :=
  zpow_le_zpow_right₀ (by norm_num) less

theorem power_succ (exponent : Int) : power (exponent + 1) = power exponent * 2 :=
  zpow_add_one₀ (by norm_num) exponent

theorem power_add (first second : Int) : power (first + second) = power first * power second :=
  zpow_add₀ (by norm_num) first second

theorem power_natCast (exponent : Nat) : power exponent = (2 ^ exponent : Int) := by
  rw [power, zpow_natCast]
  push_cast
  rfl

theorem overflowBound_eq : overflowBound = power 1024 := rfl

theorem spacing_eq_power (value : Rat) : spacing value = power (gridExponent value) := rfl

/-- This is the greatest finite number, one unit below the first power that is too large. -/
def largest : Rat :=
  power 1024 - power 971

/-- This is the least value that is rounded to infinity, half a unit above the greatest number. -/
def roundingLimit : Rat :=
  power 1024 - power 970

theorem largest_add_two_le : largest + 2 ≤ roundingLimit := by
  have unit : power 971 = power 970 * 2 := power_succ 970
  have two : power 1 ≤ power 970 := power_le (by decide)
  have first : power 1 = 2 := zpow_one 2
  unfold largest roundingLimit
  linarith

theorem largest_nonneg : 0 ≤ largest :=
  sub_nonneg.mpr (power_le (by decide))

theorem abs_eq (value : Rat) : value.abs = |value| := by
  rcases le_total 0 value with nonneg | nonpos
  · rw [Rat.abs_of_nonneg nonneg, abs_of_nonneg nonneg]
  · rw [Rat.abs_of_nonpos nonpos, abs_of_nonpos nonpos]

/-- The nearest integer is at most half a unit less. -/
theorem le_nearestEven (value : Rat) : value - 1 / 2 ≤ nearestEven value := by
  have upper := Rat.lt_floor_add_one value
  push_cast at upper
  unfold nearestEven
  simp only
  split_ifs
  · linarith
  · push_cast
    linarith
  · linarith
  · push_cast
    linarith

theorem spacing_pos (value : Rat) : 0 < spacing value :=
  power_pos _

/-- This is the point of the grid that is nearest to a value. -/
def nearest (value : Rat) : Rat :=
  nearestEven (value / spacing |value|) * spacing |value|

theorem nearest_zero : nearest 0 = 0 := by
  rw [nearest, zero_div, ← Int.cast_zero, nearestEven_intCast, Int.cast_zero, zero_mul]

/-- The nearest point of the grid is at most half a unit away. -/
theorem abs_nearest_le (value : Rat) : |nearest value| ≤ |value| + spacing |value| / 2 := by
  have unit := spacing_pos |value|
  have whole : value / spacing |value| * spacing |value| = value := div_mul_cancel₀ _ unit.ne'
  have lower := mul_le_mul_of_nonneg_right (le_nearestEven (value / spacing |value|)) unit.le
  have upper := mul_le_mul_of_nonneg_right (nearestEven_le (value / spacing |value|)) unit.le
  have above := le_abs_self value
  have below := neg_abs_le value
  rw [abs_le]
  unfold nearest
  constructor <;> linarith

theorem floor_nonneg {value : Rat} (nonneg : 0 ≤ value) : 0 ≤ value.floor :=
  Rat.le_floor_iff.mpr (by simpa using nonneg)

theorem nearest_nonneg {value : Rat} (nonneg : 0 ≤ value) : 0 ≤ nearest value := by
  have unit := spacing_pos |value|
  have steps := floor_nonneg (div_nonneg nonneg unit.le)
  have whole : (0 : Rat) ≤ nearestEven (value / spacing |value|) := by
    exact_mod_cast steps.trans (floor_le_nearestEven _)
  exact mul_nonneg whole unit.le

/-- Rounding moves to the nearest point of the grid, unless that is too large for a number. -/
theorem round_nearest (value : Rat) :
    if overflowBound ≤ |nearest value| then round value = .infinity (value < 0)
    else (round value).isFinite = true ∧ (round value).real = nearest value := by
  by_cases zero : value = 0
  · have positive : 0 < overflowBound := power_pos 1024
    rw [zero, nearest_zero, abs_zero, if_neg positive.not_ge]
    exact ⟨rfl, rfl⟩
  · have rounds : round value =
        if overflowBound ≤ |nearest value| then .infinity (value < 0)
        else if nearest value = 0 then zeroOf (value < 0)
        else .finite (nearest value) := by
      simp only [round, if_neg zero, abs_eq]
      rfl
    rw [rounds]
    split_ifs with large still
    · rfl
    · rw [still]
      cases decide (value < 0) <;> exact ⟨rfl, rfl⟩
    · exact ⟨rfl, rfl⟩

/-- A value below the limit is rounded to a finite number. -/
theorem abs_nearest_lt {value : Rat} (small : |value| < roundingLimit) :
    |nearest value| < overflowBound := by
  unfold roundingLimit at small
  by_cases zero : value = 0
  · rw [zero, nearest_zero, abs_zero]
    exact power_pos 1024
  · have below : power (binade |value|) < power 1024 := by
      have least : power (binade |value|) ≤ |value| := (binade_bounds (abs_pos.mpr zero)).1
      have half := power_pos 970
      linarith
    have exponent : binade |value| < 1024 := (zpow_lt_zpow_iff_right₀ (by norm_num)).mp below
    have unit : spacing |value| ≤ power 971 := by
      rw [spacing_eq_power]
      apply power_le
      unfold gridExponent
      omega
    have double : power 971 = power 970 * 2 := power_succ 970
    have near := abs_nearest_le value
    rw [overflowBound_eq]
    linarith

/-- A point of the grid that is not too large is at most the greatest number. -/
theorem abs_nearest_le_largest {value : Rat} (small : |nearest value| < overflowBound) :
    |nearest value| ≤ largest := by
  rw [overflowBound_eq] at small
  unfold largest
  by_cases zero : value = 0
  · rw [zero, nearest_zero, abs_zero]
    exact largest_nonneg
  by_cases coarse : 971 ≤ gridExponent |value|
  · -- The point is a whole number of units of the last binade, and there are `2 ^ 53` of them.
    obtain ⟨units, same⟩ : ∃ units : Int, nearest value = units * power 971 := by
      obtain ⟨finer, split⟩ := Int.le.dest coarse
      refine ⟨nearestEven (value / spacing |value|) * 2 ^ finer, ?_⟩
      rw [nearest, Int.cast_mul, ← power_natCast, mul_assoc, ← power_add, spacing_eq_power,
        ← split, add_comm]
    have positive := power_pos 971
    have bound : power 1024 = (2 ^ 53 : Int) * power 971 := by
      rw [← power_natCast 53, ← power_add]
      rfl
    rw [same, abs_mul, abs_of_pos positive, bound] at small ⊢
    have fewer : |units| < 2 ^ 53 := by
      exact_mod_cast lt_of_mul_lt_mul_right small positive.le
    have most : (|units| : Rat) ≤ (2 ^ 53 : Int) - 1 := by
      exact_mod_cast Int.le_sub_one_of_lt fewer
    linarith [mul_le_mul_of_nonneg_right most positive.le]
  · have below : |value| < power 1023 := by
      have exponent : binade |value| + 1 ≤ 1023 := by
        unfold gridExponent at coarse
        omega
      exact (binade_bounds (abs_pos.mpr zero)).2.trans_le (power_le exponent)
    have unit : spacing |value| ≤ power 970 := by
      rw [spacing_eq_power]
      exact power_le (by omega)
    have near := abs_nearest_le value
    have first : power 971 = power 970 * 2 := power_succ 970
    have second : power 972 = power 971 * 2 := power_succ 971
    have last : power 1024 = power 1023 * 2 := power_succ 1023
    have far : power 972 ≤ power 1023 := power_le (by decide)
    have half := power_pos 970
    linarith

/-- A value half a unit below an even integer is rounded to it at least. -/
theorem le_nearestEven_of_even {value : Rat} {whole : Int} (even : whole % 2 = 0)
    (near : whole - 1 / 2 ≤ value) : whole ≤ nearestEven value := by
  have upper := Rat.lt_floor_add_one value
  push_cast at upper
  by_cases below : whole ≤ value.floor
  · exact below.trans (floor_le_nearestEven value)
  · have floor : value.floor = whole - 1 := by
      have above : (whole : Rat) < value.floor + 2 := by linarith
      have above : whole < value.floor + 2 := by exact_mod_cast above
      omega
    -- The floor is odd, so that a tie goes up as well.
    unfold nearestEven
    simp only [floor]
    push_cast
    split_ifs
    · linarith
    · omega
    · omega
    · omega

/-- A value half a unit above an even integer is rounded to it at most. -/
theorem nearestEven_le_of_even {value : Rat} {whole : Int} (even : whole % 2 = 0)
    (near : value ≤ whole + 1 / 2) : nearestEven value ≤ whole := by
  have lower := Rat.floor_le value
  have most : value.floor ≤ whole := by
    have below : (value.floor : Rat) < whole + 1 := by linarith
    have below : value.floor < whole + 1 := by exact_mod_cast below
    omega
  unfold nearestEven
  simp only
  obtain below | floor := most.lt_or_eq
  · split_ifs <;> omega
  · rw [floor]
    split_ifs
    · exact le_rfl
    · linarith
    · exact le_rfl

/-- A value from the limit on lies at an even number of units that is too large, up to half a
unit. -/
theorem exists_even_units {value : Rat} (large : roundingLimit ≤ |value|) :
    ∃ units : Int, units % 2 = 0 ∧ overflowBound ≤ units * spacing |value| ∧
      (units - 1 / 2) * spacing |value| ≤ |value| := by
  have last : power 1024 = power 1023 * 2 := power_succ 1023
  have far : power 970 ≤ power 1023 := power_le (by decide)
  have half := power_pos 970
  have top := power_pos 1023
  unfold roundingLimit at large
  have positive : 0 < |value| := by linarith
  obtain ⟨least, most⟩ := binade_bounds positive
  have exponent : 1023 ≤ binade |value| := by
    have above : power 1023 < power (binade |value| + 1) := by
      change _ < power (binade |value| + 1) at most
      linarith
    have above : (1023 : Int) < binade |value| + 1 :=
      (zpow_lt_zpow_iff_right₀ (by norm_num)).mp above
    omega
  have grid : gridExponent |value| = binade |value| - 52 := max_eq_left (by omega)
  rw [spacing_eq_power, grid, overflowBound_eq]
  obtain same | beyond := exponent.eq_or_lt
  · -- In the last binade the limit is half a unit below its end.
    refine ⟨2 ^ 53, by decide, ?_, ?_⟩
    · rw [← same, ← power_natCast 53, ← power_add]
      exact le_refl (power 1024)
    · rw [← same, ← power_natCast 53, sub_mul, ← power_add]
      have unit : power 971 = power 970 * 2 := power_succ 970
      change power 1024 - 1 / 2 * power 971 ≤ |value|
      linarith
  · refine ⟨2 ^ 52, by decide, ?_, ?_⟩
    · rw [← power_natCast 52, ← power_add]
      exact power_le (by omega)
    · rw [← power_natCast 52, sub_mul, ← power_add]
      have unit := power_pos (binade |value| - 52)
      have whole : power (((52 : Nat) : Int) + (binade |value| - 52)) ≤ |value| := by
        rw [Nat.cast_ofNat, add_sub_cancel]
        exact least
      exact (sub_le_self _ (mul_nonneg (by norm_num) unit.le)).trans whole

/-- A value from the limit on is rounded to infinity. -/
theorem overflowBound_le_abs_nearest {value : Rat} (large : roundingLimit ≤ |value|) :
    overflowBound ≤ |nearest value| := by
  obtain ⟨units, even, bound, near⟩ := exists_even_units large
  have unit := spacing_pos |value|
  have steps : units - 1 / 2 ≤ |value| / spacing |value| := (le_div_iff₀ unit).mpr near
  unfold nearest
  generalize spacing |value| = step at *
  refine bound.trans ?_
  obtain nonneg | negative := le_or_gt 0 value
  · rw [abs_of_nonneg nonneg] at steps
    have rounded : (units : Rat) ≤ nearestEven (value / step) := by
      exact_mod_cast le_nearestEven_of_even even steps
    exact (mul_le_mul_of_nonneg_right rounded unit.le).trans (le_abs_self _)
  · rw [abs_of_neg negative, neg_div] at steps
    have rounded : (nearestEven (value / step) : Rat) ≤ (-units : Int) := by
      apply Int.cast_le.mpr
      apply nearestEven_le_of_even (by omega)
      push_cast
      linarith
    have scaled := mul_le_mul_of_nonneg_right rounded unit.le
    refine le_trans ?_ (neg_le_abs _)
    push_cast at scaled
    linarith

/-- An integer is out of range exactly from the limit on. -/
theorem ofInt?_eq_none_iff (value : Int) :
    ofInt? value = none ↔ roundingLimit ≤ |(value : Rat)| := by
  have rounds := round_nearest value
  unfold ofInt?
  constructor
  · intro refused
    by_contra small
    rw [if_neg (abs_nearest_lt (lt_of_not_ge small)).not_ge] at rounds
    cases number : round value with
    | infinity => rw [number] at rounds; exact absurd rounds.1 Bool.false_ne_true
    | _ => rw [number] at refused; contradiction
  · intro large
    rw [if_pos (overflowBound_le_abs_nearest large)] at rounds
    rw [rounds]

end Chip8.Binary64
