import Chip8.Timing
import Chip8.Proofs.Machine.Timers
import Chip8.Proofs.Number.Integers
import Mathlib.Data.List.Forall2

namespace Chip8.Timing

/-- This says that an accounting at a rate was just started or reset. -/
def Fresh (timing : Timing) (rate : Int) : Prop :=
  start rate = .ok timing ∨ ∃ used : Timing, used.rate = rate ∧ used.reset = timing

/-- This accounts for times one after the other and lists the counts. -/
def advanceAll (timing : Timing) : List Binary64 → Except TimingError (Timing × List Int)
  | [] => .ok (timing, [])
  | elapsed :: rest =>
    match timing.advance elapsed with
    | (_, .error error) => .error error
    | (next, .ok count) =>
      match next.advanceAll rest with
      | .error error => .error error
      | .ok (last, counts) => .ok (last, count :: counts)

/-- This accounts for times one after the other and counts the timers of a machine down. -/
def updateAll (timing : Timing) (machine : Machine) :
    List Binary64 → Except TimingError (Timing × Machine)
  | [] => .ok (timing, machine)
  | elapsed :: rest =>
    match timing.update machine elapsed with
    | (_, .error error) => .error error
    | (next, .ok counted) => next.updateAll counted rest

/-- The tolerance is less than half a unit. -/
theorem tolerance_small : ∃ value : Rat, tolerance = .finite value ∧ 0 < value ∧ value < 1 / 2 :=
  ⟨4835703278458517 / 4835703278458516698824704, by decide +kernel, by norm_num, by norm_num⟩

/-- This is the accounting at a rate with a whole number of accumulated units. -/
def withUnits (rate units : Nat) : Timing :=
  { rate, accumulated := .finite units }

theorem rateNumber_withUnits {rate : Nat} (small : rate ≤ 2 ^ 53) (units : Nat) :
    (withUnits rate units).rateNumber = .ok (.finite rate) := by
  have number : Binary64.ofInt? (rate : Int) = some (.finite rate) := by
    unfold Binary64.ofInt?
    rw [Int.cast_natCast, Binary64.round_natCast small]
  simp only [rateNumber, withUnits, number]

theorem thousand_eq : thousand = .finite (1000 : Nat) := rfl

/-- The tolerance does not complete a step. -/
theorem wholeQuotient_tolerance {units : Nat} (small : units < 2 ^ 53) :
    (Binary64.finite units + tolerance).wholeQuotient thousand = .finite (units / 1000 : Nat) := by
  obtain ⟨value, exact, positive, less⟩ := tolerance_small
  have lower : (units : Rat) < units + value := by linarith
  obtain ⟨rounded, rounds, least, next⟩ := Binary64.round_above small lower (by linarith)
  have sum : Binary64.finite units + tolerance = .finite rounded := by
    rw [exact, Binary64.finite_add _ rfl]
    exact rounds
  have below : ((units / 1000 * 1000 : Nat) : Rat) ≤ units := by
    exact_mod_cast Nat.div_mul_le_self units 1000
  have above : (units : Rat) + 1 ≤ ((units / 1000 + 1) * 1000 : Nat) := by
    exact_mod_cast (by omega : units + 1 ≤ (units / 1000 + 1) * 1000)
  rw [sum, thousand_eq]
  exact Binary64.wholeQuotient_eq (by decide) (below.trans least) (next.trans_le above) (by omega)

/-- Whole milliseconds complete the whole steps and leave the rest. -/
theorem advance_natural {rate : Nat} (smallRate : rate ≤ 2 ^ 53) {elapsed : Binary64}
    {milliseconds : Nat} (natural : elapsed.IsNatural milliseconds) (units : Nat)
    (small : units + milliseconds * rate < 2 ^ 53) :
    (withUnits rate units).advance elapsed =
      (withUnits rate ((units + milliseconds * rate) % 1000),
        .ok ((units + milliseconds * rate) / 1000 : Nat)) := by
  have product := natural.mul (Binary64.isNatural_finite rate) (by omega)
  have accumulated := product.finite_add small.le
  set total := units + milliseconds * rate
  have counted := Binary64.toInt_finite (total / 1000)
  have passed : (Binary64.round ((total / 1000 : Nat) : Int) * thousand).IsNatural
      (total / 1000 * 1000) := by
    rw [Int.cast_natCast, Binary64.round_natCast (by omega), thousand_eq]
    exact (Binary64.isNatural_finite _).mul (Binary64.isNatural_finite _) (by omega)
  have left : total - total / 1000 * 1000 = total % 1000 := by omega
  have rest := passed.finite_sub (Nat.div_mul_le_self total 1000) small.le
  rw [left] at rest
  have kept : (Binary64.finite (total % 1000 : Nat)).greater (.finite 0) =
      .finite (total % 1000 : Nat) := by
    rw [Binary64.greater, (Binary64.isNatural_finite _).nonnegative]
    rfl
  unfold advance
  rw [if_neg (by rw [natural.nonnegative]; decide), rateNumber_withUnits smallRate]
  simp only [withUnits, accumulated, wholeQuotient_tolerance small, counted, rest, kept]

/-- Whole milliseconds in any parts complete the whole steps of their sum and leave the rest. -/
theorem advanceAll_natural {rate : Nat} (smallRate : rate ≤ 2 ^ 53) {times : List Binary64}
    {lengths : List Nat} (natural : List.Forall₂ Binary64.IsNatural times lengths) (units : Nat)
    (carried : units < 1000) (small : units + lengths.sum * rate < 2 ^ 53) :
    ∃ counts,
      (withUnits rate units).advanceAll times =
        .ok (withUnits rate ((units + lengths.sum * rate) % 1000), counts) ∧
      counts.sum = ((units + lengths.sum * rate) / 1000 : Nat) := by
  -- The units that a time leaves are carried to the next one, so they vary in the induction.
  induction natural generalizing units with
  | nil =>
      refine ⟨[], ?_, ?_⟩
      · simp [advanceAll, Nat.mod_eq_of_lt carried]
      · simp [Nat.div_eq_of_lt carried]
  | @cons elapsed milliseconds times lengths first _ ih =>
      rw [List.sum_cons, Nat.add_mul] at small ⊢
      have step := advance_natural smallRate first units (by omega)
      obtain ⟨counts, advanced, total⟩ := ih ((units + milliseconds * rate) % 1000)
        (Nat.mod_lt _ (by decide)) (by omega)
      have rest : ((units + milliseconds * rate) % 1000 + lengths.sum * rate) % 1000 =
          (units + (milliseconds * rate + lengths.sum * rate)) % 1000 := by omega
      rw [rest] at advanced
      refine ⟨((units + milliseconds * rate) / 1000 : Nat) :: counts, ?_, ?_⟩
      · simp only [advanceAll, step, advanced]
      · rw [List.sum_cons, total]
        omega

/-- Whole milliseconds in any parts count the timers down by the whole steps of their sum. -/
theorem updateAll_natural {rate : Nat} (smallRate : rate ≤ 2 ^ 53) {times : List Binary64}
    {lengths : List Nat} (natural : List.Forall₂ Binary64.IsNatural times lengths) (units : Nat)
    (carried : units < 1000) (small : units + lengths.sum * rate < 2 ^ 53) (machine : Machine) :
    (withUnits rate units).updateAll machine times =
      .ok (withUnits rate ((units + lengths.sum * rate) % 1000),
        machine.decay ((units + lengths.sum * rate) / 1000 : Nat)) := by
  induction natural generalizing units machine with
  | nil =>
      have still : (units + [].sum * rate) / 1000 = 0 := by simp [Nat.div_eq_of_lt carried]
      rw [still]
      simp [updateAll, Nat.mod_eq_of_lt carried, Timer.decay_zero]
  | @cons elapsed milliseconds times lengths first _ ih =>
      rw [List.sum_cons, Nat.add_mul] at small ⊢
      have step := advance_natural smallRate first units (by omega)
      have updated := ih ((units + milliseconds * rate) % 1000) (Nat.mod_lt _ (by decide))
        (by omega) (machine.decay ((units + milliseconds * rate) / 1000 : Nat))
      have rest : ((units + milliseconds * rate) % 1000 + lengths.sum * rate) % 1000 =
          (units + (milliseconds * rate + lengths.sum * rate)) % 1000 := by omega
      have steps : (units + milliseconds * rate) / 1000 +
          ((units + milliseconds * rate) % 1000 + lengths.sum * rate) / 1000 =
          (units + (milliseconds * rate + lengths.sum * rate)) / 1000 := by omega
      rw [rest, Timer.decay_decay, steps] at updated
      simp only [updateAll, update, step, updated]

/-- A fresh accounting has no units. -/
theorem Fresh.eq {timing : Timing} {rate : Nat} (fresh : timing.Fresh rate) :
    timing = withUnits rate 0 := by
  rcases fresh with started | ⟨used, same, rfl⟩
  · unfold start at started
    split at started
    · contradiction
    · cases started
      rfl
  · rw [reset, same]
    rfl

/-- How a time is split does not matter: whole milliseconds in any parts complete the whole steps of
their sum, count both timers down by so many and leave the rest of the units. -/
theorem steps_independent_of_split {timing : Timing} {rate : Nat} (fresh : timing.Fresh rate)
    (smallRate : rate ≤ 2 ^ 53) {times : List Binary64} {lengths : List Nat}
    (natural : List.Forall₂ Binary64.IsNatural times lengths)
    (small : lengths.sum * rate + 1000 ≤ 2 ^ 53) :
    let last : Timing := { rate, accumulated := .finite (lengths.sum * rate % 1000 : Nat) }
    (∃ counts, timing.advanceAll times = .ok (last, counts) ∧
      counts.sum = (lengths.sum * rate / 1000 : Nat) ∧
      (lengths.sum = 1000 → counts.sum = rate)) ∧
    ∀ machine, ∃ counted, timing.updateAll machine times = .ok (last, counted) ∧
      (∀ timer : Timer,
        (timer.value counted).toNat =
          (timer.value machine).toNat - lengths.sum * rate / 1000) ∧
      ∀ (otherTimes : List Binary64) (otherLengths : List Nat),
        List.Forall₂ Binary64.IsNatural otherTimes otherLengths →
        otherLengths.sum = lengths.sum →
        timing.updateAll machine otherTimes = .ok (last, counted) := by
  intro last
  rw [fresh.eq]
  constructor
  · obtain ⟨counts, advanced, total⟩ :=
      advanceAll_natural smallRate natural 0 (by decide) (by omega)
    rw [Nat.zero_add] at advanced total
    refine ⟨counts, advanced, total, ?_⟩
    intro second
    rw [total, second]
    omega
  · intro machine
    have updated {times : List Binary64} {others : List Nat}
        (natural : List.Forall₂ Binary64.IsNatural times others)
        (same : others.sum = lengths.sum) :
        (withUnits rate 0).updateAll machine times =
          .ok (last, machine.decay (lengths.sum * rate / 1000 : Nat)) := by
      rw [← same] at small
      have all := updateAll_natural smallRate natural 0 (by decide) (by omega) machine
      rw [Nat.zero_add, same] at all
      exact all
    refine ⟨_, updated natural rfl, ?_, fun _ _ => updated⟩
    intro timer
    rw [Timer.toNat_decay]
    rfl

/-- A second in uneven parts is sixty steps at sixty steps a second. -/
theorem sixty_steps_in_a_second :
    let timing : Timing := { rate := 60, accumulated := .finite 0 }
    let times : List Binary64 := [.finite 17, .negativeZero, .finite 983]
    let machine := Machine.powerOn (Random.ofSeed 0) 255 3 true
    start 60 = .ok timing ∧
      (∃ counts, timing.advanceAll times = .ok (timing, counts) ∧ counts.sum = 60) ∧
      ∃ counted, timing.updateAll machine times = .ok (timing, counted) ∧
        counted.delayTimer.toNat = 195 ∧ counted.soundTimer.toNat = 0 ∧
        timing.updateAll machine [.finite 1000] = .ok (timing, counted) := by
  intro timing times machine
  have started : start 60 = .ok timing := by decide
  have natural : List.Forall₂ Binary64.IsNatural times [17, 0, 983] :=
    .cons (Binary64.isNatural_finite 17)
      (.cons ⟨rfl, rfl⟩ (.cons (Binary64.isNatural_finite 983) .nil))
  obtain ⟨⟨counts, advanced, _, second⟩, updated⟩ :=
    steps_independent_of_split (.inl started) (by decide) natural (by decide)
  obtain ⟨counted, same, timers, whole⟩ := updated machine
  exact ⟨started, ⟨counts, advanced, second rfl⟩, counted, same, timers .delay, timers .sound,
    whole _ [1000] (.cons (Binary64.isNatural_finite 1000) .nil) rfl⟩

end Chip8.Timing
