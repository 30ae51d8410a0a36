import Chip8.Proofs.Number.Amounts
import Chip8.Proofs.Timing.Splits

namespace Chip8.Timing

/-- This is the time that has accumulated when a length of time is added to it at a rate. -/
def gathered (timing : Timing) (rate elapsed : Binary64) : Binary64 :=
  timing.accumulated + elapsed * rate

/-- Time that is infinite or undefined stays so, whatever is added to it and whatever it is added
to. -/
theorem gathered_infinite {timing : Timing} {elapsed : Binary64}
    (infinite : timing.accumulated.isFinite = false ∨ elapsed.isFinite = false)
    (rate : Binary64) : (timing.gathered rate elapsed).isFinite = false := by
  rw [Bool.eq_false_iff]
  intro finite
  obtain ⟨accumulated, product⟩ := Binary64.isFinite_of_add finite
  have added := (Binary64.isFinite_of_mul product).1
  rcases infinite with infinite | infinite
  · rw [accumulated] at infinite
    contradiction
  · rw [added] at infinite
    contradiction

/-- The number of a positive rate is not negative. -/
theorem rateNumber_nonneg {timing : Timing} {rate : Binary64} (positive : 0 < timing.rate)
    (numbered : timing.rateNumber = .ok rate) : 0 ≤ rate.real := by
  have exact : (0 : Rat) ≤ timing.rate := by exact_mod_cast positive.le
  have rounds : rate.Rounds timing.rate := by
    refine .inl ?_
    unfold rateNumber Binary64.ofInt? at numbered
    generalize Binary64.round timing.rate = rounded at numbered ⊢
    cases rounded <;> cases numbered <;> rfl
  exact rounds.real_nonneg exact

/-- Lengths of time that add up to a finite number add up to an amount. -/
theorem gathered_isAmount {timing : Timing} {rate elapsed : Binary64}
    (accumulated : timing.accumulated.IsAmount) (rateNonneg : 0 ≤ rate.real)
    (nonnegative : elapsed.less (.finite 0) = false)
    (finite : (timing.gathered rate elapsed).isFinite = true) :
    (timing.gathered rate elapsed).IsAmount := by
  obtain ⟨_, productFinite⟩ := Binary64.isFinite_of_add finite
  obtain ⟨elapsedFinite, rateFinite⟩ := Binary64.isFinite_of_mul productFinite
  have product := (Binary64.rounds_mul elapsedFinite rateFinite).real_nonneg
    (mul_nonneg (Binary64.real_nonneg_of_less nonnegative) rateNonneg)
  exact (Binary64.rounds_add accumulated.finite productFinite).isAmount
    (add_nonneg accumulated.nonnegative product) finite

/-- Time that has become infinite or undefined is refused, and stays gathered. -/
theorem advance_unbounded {timing : Timing} {rate elapsed : Binary64}
    (numbered : timing.rateNumber = .ok rate) (nonnegative : elapsed.less (.finite 0) = false)
    (infinite : (timing.gathered rate elapsed).isFinite = false) :
    timing.advance elapsed =
      ({ timing with accumulated := timing.gathered rate elapsed }, .error .unboundedTime) := by
  have sum : (timing.gathered rate elapsed + tolerance).isFinite = false := by
    rw [Bool.eq_false_iff]
    intro finite
    rw [(Binary64.isFinite_of_add finite).1] at infinite
    contradiction
  have undefined := Binary64.wholeQuotient_of_infinite sum thousand
  unfold gathered at undefined ⊢
  unfold advance
  simp only [nonnegative, Bool.false_eq_true, if_false, numbered, undefined]
  rfl

/-- Time is accounted for only if it is not negative and stays finite. -/
theorem advance_accounted {timing next : Timing} {elapsed : Binary64} {count : Int}
    (accounted : timing.advance elapsed = (next, .ok count)) :
    elapsed.less (.finite 0) = false ∧
      ∃ rate, timing.rateNumber = .ok rate ∧ (timing.gathered rate elapsed).isFinite = true := by
  have nonnegative := advance_nonnegative accounted
  refine ⟨nonnegative, ?_⟩
  cases numbered : timing.rateNumber with
  | error error => simp [advance, nonnegative, numbered] at accounted
  | ok rate =>
      cases finite : (timing.gathered rate elapsed).isFinite with
      | true => exact ⟨rate, rfl, finite⟩
      | false =>
          rw [advance_unbounded numbered nonnegative finite] at accounted
          cases accounted

/-- Time that stays finite is accounted for, and an amount of it is left over. -/
theorem advance_bounded {timing : Timing} {rate elapsed : Binary64}
    (numbered : timing.rateNumber = .ok rate) (nonnegative : elapsed.less (.finite 0) = false)
    (amount : (timing.gathered rate elapsed).IsAmount) :
    ∃ (rest : Binary64) (count : Int),
      timing.advance elapsed = ({ timing with accumulated := rest }, .ok count) ∧
        rest.IsAmount := by
  obtain ⟨tolerated, exact, positive, small⟩ := tolerance_small
  have sum : (timing.gathered rate elapsed + tolerance).IsAmount := by
    have value : tolerance.real = tolerated := congrArg Binary64.real exact
    exact (Binary64.rounds_add amount.finite (congrArg Binary64.isFinite exact)).isAmount_of_le
      (by linarith [amount.nonnegative]) (by linarith [amount.bounded])
  have least : (1 : Rat) ≤ 1000 := by norm_num
  obtain ⟨count, counted⟩ : ∃ count : Nat,
      ((timing.accumulated + elapsed * rate + tolerance).wholeQuotient thousand).toInt? =
        some (count : Int) :=
    (sum.wholeQuotient least).toInt
  have passed : (Binary64.round (count : Int) * thousand).IsAmount ∨
      Binary64.round (count : Int) * thousand = .infinity false := by
    have nonneg : (0 : Rat) ≤ (count : Int) := by exact_mod_cast count.cast_nonneg
    have rounds : (Binary64.round (count : Int)).Rounds (count : Int) := .inl rfl
    have thousandNonneg : 0 ≤ thousand.real := by norm_num [thousand, Binary64.real]
    rcases rounds.isAmount_or nonneg with amount | infinite
    · exact (Binary64.rounds_mul amount.finite rfl).isAmount_or
        (mul_nonneg amount.nonnegative thousandNonneg)
    · rw [infinite]
      exact .inr rfl
  refine ⟨_, count, ?_, amount.sub_greater passed⟩
  unfold advance
  simp only [nonnegative, Bool.false_eq_true, if_false, numbered, counted]
  rfl

/-- An accounting with an amount of time accounts for every time with which it stays finite. -/
theorem advance_finite {timing : Timing} {rate elapsed : Binary64}
    (numbered : timing.rateNumber = .ok rate) (positive : 0 < timing.rate)
    (amount : timing.accumulated.isFinite = true → timing.accumulated.IsAmount)
    (nonnegative : elapsed.less (.finite 0) = false)
    (finite : (timing.gathered rate elapsed).isFinite = true) :
    ∃ (rest : Binary64) (count : Int),
      timing.advance elapsed = ({ timing with accumulated := rest }, .ok count) ∧
        rest.IsAmount := by
  have accumulated := amount (Binary64.isFinite_of_add finite).1
  exact advance_bounded numbered nonnegative
    (gathered_isAmount accumulated (rateNumber_nonneg positive numbered) nonnegative finite)

/-- Accounting for time leaves infinite or undefined time exactly when it has gathered it. -/
theorem advance_isFinite {timing : Timing} {rate elapsed : Binary64}
    (numbered : timing.rateNumber = .ok rate) (positive : 0 < timing.rate)
    (amount : timing.accumulated.isFinite = true → timing.accumulated.IsAmount)
    (nonnegative : elapsed.less (.finite 0) = false) :
    (timing.advance elapsed).1.accumulated.isFinite =
      (timing.gathered rate elapsed).isFinite := by
  cases finite : (timing.gathered rate elapsed).isFinite with
  | false =>
      rw [advance_unbounded numbered nonnegative finite]
      exact finite
  | true =>
      obtain ⟨rest, count, accounted, left⟩ :=
        advance_finite numbered positive amount nonnegative finite
      rw [accounted]
      exact left.finite

/-- Finite time that is left by the accounting is an amount. -/
theorem advance_isAmount {timing : Timing} (positive : 0 < timing.rate)
    (amount : timing.accumulated.isFinite = true → timing.accumulated.IsAmount)
    {elapsed : Binary64} (finite : (timing.advance elapsed).1.accumulated.isFinite = true) :
    (timing.advance elapsed).1.accumulated.IsAmount := by
  cases negative : elapsed.less (.finite 0) with
  | true =>
      rw [timing.advance_rejected negative] at finite ⊢
      exact amount finite
  | false =>
      cases numbered : timing.rateNumber with
      | error error =>
          have refused : timing.advance elapsed = (timing, .error error) := by
            simp only [advance, negative, Bool.false_eq_true, if_false, numbered]
          rw [refused] at finite ⊢
          exact amount finite
      | ok rate =>
          rw [advance_isFinite numbered positive amount negative] at finite
          obtain ⟨rest, count, accounted, left⟩ :=
            advance_finite numbered positive amount negative finite
          rw [accounted]
          exact left

end Chip8.Timing
