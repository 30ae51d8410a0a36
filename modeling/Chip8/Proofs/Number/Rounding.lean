import Chip8.Number.Binary64
import Mathlib.Algebra.Order.Field.Basic
import Mathlib.Algebra.Order.Field.Power
import Mathlib.Data.Rat.Cast.Order
import Mathlib.Tactic.FieldSimp
import Mathlib.Tactic.Linarith
import Mathlib.Tactic.Ring

namespace Chip8.Binary64

theorem floor_le_nearestEven (value : Rat) : value.floor ≤ nearestEven value := by
  unfold nearestEven
  simp only
  split_ifs <;> omega

/-- The nearest integer is at most half a unit greater. -/
theorem nearestEven_le (value : Rat) : (nearestEven value : Rat) ≤ value + 1 / 2 := by
  have lower := Rat.floor_le value
  unfold nearestEven
  simp only
  split_ifs
  · linarith
  · push_cast
    linarith
  · linarith
  · push_cast
    linarith

theorem nearestEven_intCast (value : Int) : nearestEven value = value := by
  unfold nearestEven
  simp only [Rat.floor_intCast, sub_self]
  exact if_pos (by norm_num)

/-- A positive value lies between the powers of two of its binade. -/
theorem binade_bounds {value : Rat} (positive : 0 < value) :
    (2 : Rat) ^ binade value ≤ value ∧ value < (2 : Rat) ^ (binade value + 1) := by
  have numerator : value.num.natAbs ≠ 0 := by
    have := Rat.num_pos.mpr positive
    omega
  have fraction : value = (value.num.natAbs : Rat) / value.den := by
    have whole : (value.num.natAbs : Int) = value.num :=
      Int.natAbs_of_nonneg (Rat.num_pos.mpr positive).le
    have cast : ((value.num.natAbs : Int) : Rat) = value.num := by rw [whole]
    rw [Int.cast_natCast] at cast
    rw [cast, Rat.num_div_den]
  have denominator : (0 : Rat) < value.den := by exact_mod_cast value.den_pos
  unfold binade
  simp only
  set above := Nat.log2 value.num.natAbs
  set below := Nat.log2 value.den
  have numeratorLower : (2 : Rat) ^ (above : Int) ≤ value.num.natAbs := by
    exact_mod_cast Nat.log2_self_le numerator
  have numeratorUpper : (value.num.natAbs : Rat) < (2 : Rat) ^ ((above : Int) + 1) := by
    exact_mod_cast Nat.lt_log2_self (n := value.num.natAbs)
  have denominatorLower : (2 : Rat) ^ (below : Int) ≤ value.den := by
    exact_mod_cast Nat.log2_self_le value.den_nz
  have denominatorUpper : (value.den : Rat) < (2 : Rat) ^ ((below : Int) + 1) := by
    exact_mod_cast Nat.lt_log2_self (n := value.den)
  have lower : (2 : Rat) ^ ((above : Int) - below - 1) ≤ value := by
    have split : (above : Int) - below - 1 = above - (below + 1) := by ring
    rw [split, zpow_sub₀ (by norm_num), fraction]
    gcongr
  have upper : value < (2 : Rat) ^ ((above : Int) - below + 1) := by
    have split : (above : Int) - below + 1 = above + 1 - below := by ring
    rw [split, zpow_sub₀ (by norm_num), fraction]
    gcongr
  split_ifs with estimate
  · exact ⟨estimate, upper⟩
  · refine ⟨lower, ?_⟩
    rw [sub_add_cancel]
    exact lt_of_not_ge estimate

/-- Below `2 ^ 53` the grid around a value divides one evenly. -/
theorem spacing_eq {value : Rat} (positive : 0 < value) (small : value < 2 ^ 53) :
    ∃ parts : Nat, spacing value = 1 / (2 : Rat) ^ parts := by
  have low : binade value < 53 := by
    have below : (2 : Rat) ^ binade value < (2 : Rat) ^ (53 : Int) :=
      lt_of_le_of_lt (binade_bounds positive).1 (by exact_mod_cast small)
    exact (zpow_lt_zpow_iff_right₀ (by norm_num)).mp below
  have fine : gridExponent value = -((-gridExponent value).toNat : Int) := by
    unfold gridExponent
    omega
  refine ⟨(-gridExponent value).toNat, ?_⟩
  rw [spacing, one_div, ← zpow_natCast, ← zpow_neg, ← fine]

/-- Below `2 ^ 53` the grid is as fine as the integers at least. -/
theorem spacing_bounds {value : Rat} (positive : 0 < value) (small : value < 2 ^ 53) :
    0 < spacing value ∧ spacing value ≤ 1 := by
  obtain ⟨parts, spaced⟩ := spacing_eq positive small
  rw [spaced]
  have whole : (1 : Rat) ≤ 2 ^ parts := one_le_pow₀ (by norm_num)
  exact ⟨by positivity, div_le_one_of_le₀ whole (by linarith)⟩

/-- Below `2 ^ 53` every integer is a point of the grid. -/
theorem exists_multiple {value : Rat} (positive : 0 < value) (small : value < 2 ^ 53)
    (whole : Int) : ∃ multiple : Int, (whole : Rat) = multiple * spacing value := by
  obtain ⟨parts, spaced⟩ := spacing_eq positive small
  refine ⟨whole * 2 ^ parts, ?_⟩
  rw [spaced]
  push_cast
  field_simp

/-- Below `2 ^ 53` the nearest point of the grid is at most one half greater. -/
theorem nearest_le {value : Rat} (positive : 0 < value) (small : value < 2 ^ 53) :
    nearestEven (value / spacing value) * spacing value ≤ value + 1 / 2 := by
  obtain ⟨unit, fine⟩ := spacing_bounds positive small
  calc nearestEven (value / spacing value) * spacing value
      ≤ (value / spacing value + 1 / 2) * spacing value := by
        gcongr
        exact nearestEven_le _
    _ = value + 1 / 2 * spacing value := by field_simp
    _ ≤ value + 1 / 2 := by linarith

/-- An integer that is not greater than a value below `2 ^ 53` is not greater than its nearest point
of the grid. -/
theorem le_nearest {value : Rat} (positive : 0 < value) (small : value < 2 ^ 53) {whole : Int}
    (lower : whole ≤ value) : whole ≤ nearestEven (value / spacing value) * spacing value := by
  obtain ⟨unit, _⟩ := spacing_bounds positive small
  obtain ⟨multiple, same⟩ := exists_multiple positive small whole
  rw [same] at lower ⊢
  have below : multiple ≤ (value / spacing value).floor :=
    Rat.le_floor_iff.mpr ((le_div_iff₀ unit).mpr lower)
  gcongr
  exact below.trans (floor_le_nearestEven _)

/-- Below `2 ^ 53` rounding moves to the nearest point of the grid without overflow. -/
theorem round_eq {value : Rat} (positive : 0 < value) (small : value < 2 ^ 53) :
    round value = .finite (nearestEven (value / spacing value) * spacing value) := by
  have upper := nearest_le positive small
  have lower : ((0 : Int) : Rat) ≤ nearestEven (value / spacing value) * spacing value :=
    le_nearest positive small (by exact_mod_cast positive.le)
  have bound : (2 : Rat) ^ 54 ≤ overflowBound := by
    unfold overflowBound
    exact_mod_cast zpow_le_zpow_right₀ (by norm_num : (1 : Rat) ≤ 2) (by decide : (54 : Int) ≤ 1024)
  simp only [round]
  rw [if_neg positive.ne', Rat.abs_of_nonneg positive.le, Rat.abs_of_nonneg (by simpa using lower),
    if_neg (by linarith), decide_eq_false positive.not_gt]
  split_ifs with zero
  · rw [zero]
    rfl
  · rfl

/-- An integer of at most 53 bits is its own rounding. -/
theorem round_natCast {whole : Nat} (small : whole ≤ 2 ^ 53) :
    round (whole : Rat) = .finite whole := by
  rcases small.eq_or_lt with rfl | below
  · decide +kernel
  rcases whole.eq_zero_or_pos with rfl | positive
  · rfl
  have above : (0 : Rat) < whole := by exact_mod_cast positive
  have under : (whole : Rat) < 2 ^ 53 := by exact_mod_cast below
  obtain ⟨unit, _⟩ := spacing_bounds above under
  obtain ⟨multiple, same⟩ := exists_multiple above under whole
  rw [Int.cast_natCast] at same
  have steps : (whole : Rat) / spacing whole = multiple := by
    exact (div_eq_iff unit.ne').mpr same
  rw [round_eq above under, steps, nearestEven_intCast, ← same]

/-- A value that exceeds an integer by less than one half is not rounded beyond the next integer. -/
theorem round_above {value : Rat} {whole : Nat} (small : whole < 2 ^ 53)
    (lower : (whole : Rat) < value) (upper : value < whole + 1 / 2) :
    ∃ rounded, round value = .finite rounded ∧ (whole : Rat) ≤ rounded ∧ rounded < whole + 1 := by
  have positive : 0 < value := lt_of_le_of_lt (Nat.cast_nonneg whole) lower
  have below : value < 2 ^ 53 := by
    have next : (whole : Rat) + 1 ≤ 2 ^ 53 := by exact_mod_cast small
    linarith
  refine ⟨_, round_eq positive below, ?_, ?_⟩
  · rw [← Int.cast_natCast]
    exact le_nearest positive below (by exact_mod_cast lower.le)
  · have near := nearest_le positive below
    linarith

end Chip8.Binary64
