import Chip8.Proofs.Session.Runs
import Chip8.Proofs.System.Halting
import Chip8.Proofs.System.Unbounded

namespace Chip8

/-- This is the accounting after a length of time has passed so many times. -/
def Timing.advanced (timing : Timing) (elapsed : Binary64) : Nat → Timing
  | 0 => timing
  | count + 1 => ((timing.advanced elapsed count).advance elapsed).1

/-- This says that time stays finite, counted at sixty steps in a second, when a length of it passes
at most so many times. -/
def Timing.StaysFinite (elapsed : Binary64) (limit : Nat) : Prop :=
  ∀ count ≤ limit,
    (({ rate := 60, accumulated := .finite 0 } : Timing).advanced elapsed
      count).accumulated.isFinite = true

/-- Whole milliseconds leave whole units, however often they pass. -/
theorem Timing.advanced_natural {rate : Nat} (smallRate : rate ≤ 2 ^ 53) {elapsed : Binary64}
    {milliseconds : Nat} (natural : elapsed.IsNatural milliseconds)
    (small : 1000 + milliseconds * rate ≤ 2 ^ 53) {units : Nat} (carried : units < 1000)
    (count : Nat) :
    (withUnits rate units).advanced elapsed count =
      withUnits rate ((units + count * (milliseconds * rate)) % 1000) := by
  induction count with
  | zero => rw [advanced, Nat.zero_mul, Nat.add_zero, Nat.mod_eq_of_lt carried]
  | succ count ih =>
      have left := Nat.mod_lt (units + count * (milliseconds * rate)) (by decide : 0 < 1000)
      rw [advanced, ih, advance_natural smallRate natural _ (by omega), Nat.mod_add_mod,
        Nat.succ_mul, Nat.add_assoc]

namespace System

/-- This is a system after so many ticks of one length. -/
def ticked (system : System) (elapsed : Binary64) (count : Nat) : System :=
  system.replay (List.replicate count (.tick elapsed))

/-- This says that at most `limit` ticks are so many: the machine halts behind the last one, and not
before. -/
structure RunsFor (system : System) (elapsed : Binary64) (limit count : Nat) : Prop where
  within : count ≤ limit
  running : ∀ done < count, (system.ticked elapsed done).machine.halted = false
  stopped : count < limit → (system.ticked elapsed count).machine.halted = true

/-- This says that one of at most `limit` ticks fails before the machine halts. -/
def FailsWithin (system : System) (elapsed : Binary64) (limit : Nat) : Prop :=
  ∃ done event fault, done < limit ∧
    (∀ before ≤ done, (system.ticked elapsed before).machine.halted = false) ∧
    (system.ticked elapsed done).stepEvent? (.tick elapsed) = some event ∧
    event.outcome = .failed fault

/-- This says that the time of each of `limit` ticks is accounted for. -/
def AccountedFor (system : System) (elapsed : Binary64) (limit : Nat) : Prop :=
  ∀ done < limit, ∃ timing count,
    (system.ticked elapsed done).timing.advance elapsed = (timing, .ok count)

theorem ticked_succ (system : System) (elapsed : Binary64) (count : Nat) :
    system.ticked elapsed (count + 1) = (system.ticked elapsed count).after (.tick elapsed) := by
  rw [ticked, List.replicate_succ', replay_concat]
  rfl

theorem ticked_config (system : System) (elapsed : Binary64) (count : Nat) :
    (system.ticked elapsed count).config = system.config :=
  replay_config _ _

/-- A limit determines for how many ticks a machine runs. -/
theorem RunsFor.unique {system : System} {elapsed : Binary64} {limit count other : Nat}
    (runs : system.RunsFor elapsed limit count) (others : system.RunsFor elapsed limit other) :
    other = count := by
  have atMost {few many : Nat} (first : system.RunsFor elapsed limit few)
      (second : system.RunsFor elapsed limit many) : many ≤ few := by
    apply Nat.le_of_not_lt
    intro fewer
    have halted := first.stopped (Nat.lt_of_lt_of_le fewer second.within)
    rw [second.running few fewer] at halted
    contradiction
  exact (atMost runs others).antisymm (atMost others runs)

/-- A machine in front of a jump to itself runs for one tick if one is allowed. -/
theorem runsFor_jump_itself {system : System} (idle : system.pending = none)
    (running : system.machine.halted = false) {word : UInt16} {target : Address}
    (meets : system.machine.Meets { word, instruction := .jump target })
    (itself : target.val = system.machine.pc.toNat) {elapsed : Binary64}
    (nonnegative : elapsed.less (.finite 0) = false) {limit : Nat} (allowed : 1 ≤ limit) :
    system.RunsFor elapsed limit 1 where
  within := allowed
  running done first := by
    rw [Nat.lt_one_iff.mp first]
    exact running
  stopped _ := by
    have stepped := stepEvent_executes idle meets rfl (Machine.execute_jump_itself itself)
      nonnegative
    rw [ticked_succ]
    exact (after_tick_halted_iff _ _).mpr (.inr ⟨_, stepped, .inl ⟨rfl, _, _, rfl, itself⟩⟩)

/-- Ticks of one length advance the accounting by it. -/
theorem ticked_timing (system : System) (elapsed : Binary64) (count : Nat) :
    (system.ticked elapsed count).timing = system.timing.advanced elapsed count := by
  induction count with
  | zero => rfl
  | succ count ih => rw [ticked_succ, after_tick_timing, ih, Timing.advanced]

/-- The time of ticks is accounted for as long as it stays finite. -/
theorem Timed.accountedFor {system : System} (timed : system.Timed) {rate elapsed : Binary64}
    (convertible : Binary64.ofInt? system.config.timerRate = some rate)
    (nonnegative : elapsed.less (.finite 0) = false) {limit : Nat}
    (finite : ∀ count ≤ limit, (system.timing.advanced elapsed count).accumulated.isFinite = true) :
    system.AccountedFor elapsed limit := by
  intro done within
  have timedDone : (system.ticked elapsed done).Timed :=
    replay_keeps Timed (fun _ operation timed => timed.after operation) timed _
  have numbered : (system.ticked elapsed done).timing.rateNumber = .ok rate := by
    rw [Timing.rateNumber, timedDone.rate, ticked_config, convertible]
  have next := finite (done + 1) within
  rw [Timing.advanced, ← ticked_timing,
    Timing.advance_isFinite numbered timedDone.positive timedDone.amount nonnegative] at next
  obtain ⟨rest, count, accounted, _⟩ := Timing.advance_finite numbered timedDone.positive
    timedDone.amount nonnegative next
  exact ⟨_, count, accounted⟩

end System

namespace Session

variable {session : Session} {clock elapsed : Binary64}

theorem serveAll_ticks_system (session : Session) (clock elapsed : Binary64) (count : Nat) :
    (session.serveAll (ticks clock elapsed count)).system =
      session.system.ticked elapsed count := by
  rw [serveAll_system, System.serveAll_eq_replay, ticks, List.map_replicate, System.ticked]
  congr 1
  induction count with
  | zero => rfl
  | succ count ih => rw [List.replicate_succ, List.flatMap_cons, ih]; rfl

/-- The reply to the last of several ticks is that of a tick behind the others. -/
theorem replies_ticks_succ (session : Session) (clock elapsed : Binary64) (count : Nat) :
    session.replies (ticks clock elapsed (count + 1)) =
      session.replies (ticks clock elapsed count) ++
        [((session.serveAll (ticks clock elapsed count)).tick clock elapsed).2.map .event] := by
  rw [ticks_add, replies_append]
  rfl

/-- Every one of several ticks is replied to. -/
theorem tick_mem_replies (session : Session) (clock elapsed : Binary64) {done count : Nat}
    (less : done < count) :
    ((session.serveAll (ticks clock elapsed done)).tick clock elapsed).2.map .event ∈
      session.replies (ticks clock elapsed count) := by
  obtain ⟨more, rfl⟩ := Nat.exists_eq_add_of_le (Nat.succ_le_of_lt less)
  rw [ticks_add, replies_append, replies_ticks_succ]
  exact List.mem_append_left _ (List.mem_append_right _ (List.mem_singleton_self _))

/-- One of several ticks whose time is accounted for is refused exactly under the raising policy and
if its step fails. -/
theorem tick_error_iff (clock : Binary64) {limit done : Nat}
    (accounted : session.system.AccountedFor elapsed limit) (less : done < limit)
    (error : Error) :
    ((session.serveAll (ticks clock elapsed done)).tick clock elapsed).2 = .error error ↔
      session.system.config.errorPolicy = .raise ∧
        ∃ event fault, (session.system.ticked elapsed done).stepEvent? (.tick elapsed) =
            some event ∧
          event.outcome = .failed fault ∧ error = .fault { fault, address := some event.pc } := by
  obtain ⟨timing, count, advanced⟩ := accounted done less
  rw [tick_answer, serveAll_ticks_system, System.tick_observed advanced, System.ticked_config,
    System.TickResult.answer_error_iff, System.stepEvent_tick (Timing.advance_nonnegative advanced)]
  simp only [StepEvent.fault_eq_some_iff]
  apply and_congr_right
  intro _
  constructor
  · rintro ⟨_, ⟨fault, failed, rfl⟩, rfl⟩
    exact ⟨_, fault, rfl, failed, rfl⟩
  · rintro ⟨_, fault, ⟨⟩, failed, rfl⟩
    exact ⟨_, ⟨fault, failed, rfl⟩, rfl⟩

/-- Every run whose limit is in the range of numbers has an account. -/
theorem exists_account {limit : Int} (small : |(limit : Rat)| < Binary64.roundingLimit)
    (session : Session) :
    ∃ run, session.Runs clock elapsed limit.toNat run ∧
      session.run clock limit elapsed = (run.final, run.result) := by
  have atMost : (limit.toNat : Int) ≤ |limit| := by
    rw [Int.toNat_eq_max]
    exact max_le (le_abs_self limit) (abs_nonneg limit)
  have less : (limit.toNat : Rat) < Binary64.roundingLimit := by
    refine lt_of_le_of_lt ?_ small
    exact_mod_cast atMost
  obtain ⟨run, runs⟩ := exists_runs less session
  refine ⟨run, runs, ?_⟩
  rw [← runs.ran, run_of_small small, run_of_smaller (Nat.le_refl _) less]

/-- A run that returns has ticked until the machine halted or the limit was reached, and no tick
failed under the raising policy. -/
theorem Runs.returned {limit : Nat} {run : Run} (runs : session.Runs clock elapsed limit run)
    {total : Nat} (result : run.result = .ok total)
    (accounted : session.system.AccountedFor elapsed limit) :
    run.final = session.serveAll (ticks clock elapsed total) ∧
      session.system.RunsFor elapsed limit total ∧
      ¬ (session.system.config.errorPolicy = .raise ∧
        session.system.FailsWithin elapsed limit) := by
  have counted := runs.counted result
  have stops := runs.stops
  have running := runs.running
  have within := runs.within
  have final := runs.final
  rw [result, final] at stops
  rw [counted] at stops running within final
  simp only [Int.toNat_natCast, serveAll_ticks_system] at stops running within
  cases stops with
  | completed succeeded halted =>
      rw [serveAll_ticks_system] at halted
      refine ⟨final, ⟨within, running, halted⟩, ?_⟩
      rintro ⟨policy, done, event, fault, less, runningOn, stepped, failed⟩
      have reached : done < total := by
        apply Nat.lt_of_not_le
        intro behind
        have halts := halted (Nat.lt_of_le_of_lt behind less)
        rw [runningOn total behind] at halts
        contradiction
      have refused := (tick_error_iff clock accounted less _).mpr
        ⟨policy, event, fault, stepped, failed, rfl⟩
      have replied := succeeded _ (session.tick_mem_replies clock elapsed reached)
      rw [refused] at replied
      contradiction

/-- A run that does not return has ended with the fault of a tick under the raising policy. -/
theorem Runs.raised {limit : Nat} {run : Run} (runs : session.Runs clock elapsed limit run)
    {error : Error} (result : run.result = .error error)
    (accounted : session.system.AccountedFor elapsed limit) :
    session.system.config.errorPolicy = .raise ∧ session.system.FailsWithin elapsed limit ∧
      ∃ located, error = .fault located := by
  have stops := runs.stops
  have running := runs.running
  have within := runs.within
  rw [result] at stops
  simp only [Int.toNat_natCast, serveAll_ticks_system] at stops running within
  cases stops with
  | failed earlier error succeeded last =>
      cases count : run.count with
      | zero =>
          rw [count] at last
          exact absurd last.symm (List.append_ne_nil_of_right_ne_nil _ (List.cons_ne_nil _ _))
      | succ done =>
          rw [count] at last within running
          rw [replies_ticks_succ] at last
          have less : done < limit := within
          have reply := List.singleton_inj.mp (List.append_inj_right' last rfl)
          have refused :
              ((session.serveAll (ticks clock elapsed done)).tick clock elapsed).2 =
                .error error := by
            generalize ((session.serveAll _).tick clock elapsed).2 = answer at reply
            cases answer with
            | error other => rw [Except.error.inj reply]
            | ok event => cases reply
          obtain ⟨policy, event, fault, stepped, failed, rfl⟩ :=
            (tick_error_iff clock accounted less error).mp refused
          exact ⟨policy, ⟨done, event, fault, less,
            fun before behind => running before (Nat.lt_succ_of_le behind), stepped, failed⟩,
            _, rfl⟩

end Session

end Chip8
