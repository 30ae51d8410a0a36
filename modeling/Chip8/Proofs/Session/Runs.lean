import Chip8.Proofs.Number.Overflow
import Chip8.Proofs.Session.Output
import Chip8.Proofs.System.Failures

namespace Chip8

/-- The events of requests in a row are those of the first and of the second ones. -/
theorem System.heard_append (system : System) (before after : List Request) :
    system.heard (before ++ after) =
      system.heard before ++ (system.serveAll before).heard after := by
  induction before generalizing system with
  | nil => rfl
  | cons request before ih =>
      rw [List.cons_append, heard_cons, ih, heard_cons, List.append_assoc]
      rfl

/-- This is the account of a run: how often it ticked, what observers saw and what was printed, the
session behind it and its result. -/
structure Run where
  count : Nat
  events : List StepEvent
  lines : List Printed
  final : Session
  result : Except Error Nat

/-- This is a run with another one behind it. No run follows one that failed. -/
def Run.followedBy (first second : Run) : Run :=
  match first.result with
  | .error _ => first
  | .ok done =>
    { count := first.count + second.count
      events := first.events ++ second.events
      lines := first.lines ++ second.lines
      final := second.final
      result := second.result.map (done + ·) }

namespace Session

/-- These are ticks in a row, all at one time. -/
def ticks (clock elapsed : Binary64) (count : Nat) : List TimedRequest :=
  List.replicate count { clock, request := .operate (.tick elapsed) }

/-- This says how at most so many ticks end: all of them succeed and fewer ones than allowed lead to
a halted machine, or the last one fails. -/
inductive Stops (limit count : Nat) (final : Session) (replies : List (Except Error Answer)) :
    Except Error Nat → Prop where
  | completed (succeeded : ∀ reply ∈ replies, reply.isOk = true)
      (halted : count < limit → final.system.machine.halted = true) :
      Stops limit count final replies (.ok count)
  | failed (earlier : List (Except Error Answer)) (error : Error)
      (succeeded : ∀ reply ∈ earlier, reply.isOk = true)
      (last : replies = earlier ++ [.error error]) : Stops limit count final replies (.error error)

/-- This says that an account is that of a run of at most so many ticks. -/
structure Runs (session : Session) (clock elapsed : Binary64) (limit : Int) (run : Run) :
    Prop where
  ran : session.run clock limit elapsed = (run.final, run.result)
  within : run.count ≤ limit.toNat
  final : run.final = session.serveAll (ticks clock elapsed run.count)
  events : run.events =
    session.system.heard ((ticks clock elapsed run.count).map TimedRequest.request)
  lines : run.lines = (session.output (ticks clock elapsed run.count)).flatten
  running : ∀ done < run.count,
    (session.serveAll (ticks clock elapsed done)).system.machine.halted = false
  stops : Stops limit.toNat run.count run.final
    (session.replies (ticks clock elapsed run.count)) run.result

theorem serveAll_append (session : Session) (before after : List TimedRequest) :
    session.serveAll (before ++ after) = (session.serveAll before).serveAll after :=
  List.foldl_append

theorem replies_append (session : Session) (before after : List TimedRequest) :
    session.replies (before ++ after) =
      session.replies before ++ (session.serveAll before).replies after := by
  induction before generalizing session with
  | nil => rfl
  | cons timed before ih =>
      rw [List.cons_append, replies, ih, replies, List.cons_append]
      rfl

theorem output_append (session : Session) (before after : List TimedRequest) :
    session.output (before ++ after) =
      session.output before ++ (session.serveAll before).output after := by
  induction before generalizing session with
  | nil => rfl
  | cons timed before ih =>
      rw [List.cons_append, output, ih, output, List.cons_append]
      rfl

theorem ticks_add (clock elapsed : Binary64) (first second : Nat) :
    ticks clock elapsed (first + second) =
      ticks clock elapsed first ++ ticks clock elapsed second :=
  List.replicate_add _ _ _

variable {session : Session} {clock elapsed : Binary64}

/-- A halted machine is not ticked. -/
theorem runFrom_halted (halted : session.system.machine.halted = true) (done limit : Nat) :
    runFrom clock elapsed done limit session = (session, .ok done) := by
  cases limit with
  | zero => rfl
  | succ limit => rw [runFrom, if_pos halted]

/-- Ticks in a row are counted by those in front and by those behind them. -/
theorem runFrom_add (done first second : Nat) (session : Session) :
    runFrom clock elapsed done (first + second) session =
      match runFrom clock elapsed done first session with
      | (middle, .error error) => (middle, .error error)
      | (middle, .ok counted) => runFrom clock elapsed counted second middle := by
  induction first generalizing done session with
  | zero =>
      rw [Nat.zero_add]
      rfl
  | succ first ih =>
      rw [Nat.add_right_comm, runFrom, runFrom]
      cases halted : session.system.machine.halted with
      | true =>
          rw [if_pos rfl, if_pos rfl]
          exact (runFrom_halted halted done second).symm
      | false =>
          rw [if_neg Bool.false_ne_true, if_neg Bool.false_ne_true]
          rcases session.tick clock elapsed with ⟨ticked, error | event⟩
          · rfl
          · exact ih (done + 1) ticked

/-- The count of a run goes on from where it starts. -/
theorem runFrom_done (done limit : Nat) (session : Session) :
    runFrom clock elapsed done limit session =
      ((runFrom clock elapsed 0 limit session).1,
        (runFrom clock elapsed 0 limit session).2.map (done + ·)) := by
  induction limit generalizing done session with
  | zero => rfl
  | succ limit ih =>
      rw [runFrom, runFrom]
      split
      · rfl
      · rcases session.tick clock elapsed with ⟨ticked, error | event⟩
        · rfl
        · simp only
          rw [ih (done + 1), ih (0 + 1)]
          cases (runFrom clock elapsed 0 limit ticked).2 with
          | error error => rfl
          | ok counted => simp only [Except.map, Nat.zero_add, Nat.add_assoc]

/-- A limit in the range of numbers is run up to. -/
theorem run_of_small {limit : Int} (small : |(limit : Rat)| < Binary64.roundingLimit)
    (session : Session) :
    session.run clock limit elapsed = runFrom clock elapsed 0 limit.toNat session := by
  cases number : Binary64.ofInt? limit with
  | none => exact absurd small ((Binary64.ofInt?_eq_none_iff limit).mp number).not_gt
  | some value => rw [run, number]

/-- A limit below another one in the range of numbers is run up to. -/
theorem run_of_smaller {limit greater : Nat} (less : limit ≤ greater)
    (small : (greater : Rat) < Binary64.roundingLimit) (session : Session) :
    session.run clock limit elapsed = runFrom clock elapsed 0 limit session := by
  rw [run_of_small, Int.toNat_natCast]
  rw [Int.cast_natCast, Nat.abs_cast]
  exact (Nat.cast_le.mpr less).trans_lt small

/-- A limit out of the range of numbers is refused. -/
theorem run_of_large {limit : Int} (large : Binary64.roundingLimit ≤ |(limit : Rat)|)
    (session : Session) :
    session.run clock limit elapsed = (session, .error .limitTooLarge) := by
  rw [run, (Binary64.ofInt?_eq_none_iff limit).mpr large]

/-- A run that allows no tick does nothing. -/
theorem runs_none {limit : Int} (small : |(limit : Rat)| < Binary64.roundingLimit)
    (nonpositive : limit ≤ 0) (session : Session) :
    session.Runs clock elapsed limit
      { count := 0, events := [], lines := [], final := session, result := .ok 0 } where
  ran := by
    rw [run_of_small small, Int.toNat_of_nonpos nonpositive]
    rfl
  within := Nat.zero_le _
  final := rfl
  events := rfl
  lines := rfl
  running := nofun
  stops := .completed (List.forall_mem_nil _) (by simp [Int.toNat_of_nonpos nonpositive])

/-- A run that allows one tick ticks unless the machine is halted. -/
theorem exists_runs_one {greater : Nat} (positive : 1 ≤ greater)
    (small : (greater : Rat) < Binary64.roundingLimit) (session : Session) :
    ∃ run, session.Runs clock elapsed (1 : Nat) run := by
  have ran : session.run clock (1 : Nat) elapsed = _ := run_of_smaller positive small session
  rw [runFrom] at ran
  cases halted : session.system.machine.halted with
  | true =>
      rw [if_pos halted] at ran
      exact ⟨{ count := 0, events := [], lines := [], final := session, result := .ok 0 },
        ran, Nat.zero_le _, rfl, rfl, rfl, nofun,
        .completed (List.forall_mem_nil _) fun _ => halted⟩
  | false =>
      rw [if_neg (by rw [halted]; exact Bool.false_ne_true)] at ran
      have running (done : Nat) (first : done < 1) :
          (session.serveAll (ticks clock elapsed done)).system.machine.halted = false := by
        rw [Nat.lt_one_iff.mp first]
        exact halted
      have final : session.serveAll (ticks clock elapsed 1) = (session.tick clock elapsed).1 := rfl
      have replies : session.replies (ticks clock elapsed 1) =
        [(session.tick clock elapsed).2.map .event] := rfl
      generalize session.tick clock elapsed = ticked at ran final replies
      obtain ⟨next, result⟩ := ticked
      cases result with
      | error error =>
          have stops : Stops 1 1 next (session.replies (ticks clock elapsed 1)) (.error error) := by
            rw [replies]
            exact .failed [] error (List.forall_mem_nil _) rfl
          exact ⟨{ count := 1, events := _, lines := _, final := next, result := .error error },
            ran, Nat.le_refl _, final.symm, rfl, rfl, running, stops⟩
      | ok event =>
          have stops : Stops 1 1 next (session.replies (ticks clock elapsed 1)) (.ok 1) := by
            rw [replies]
            exact .completed (List.forall_mem_singleton.mpr rfl) (absurd · (Nat.lt_irrefl 1))
          exact ⟨{ count := 1, events := _, lines := _, final := next, result := .ok 1 },
            ran, Nat.le_refl _, final.symm, rfl, rfl, running, stops⟩

/-- Ticks behind others that succeed end as they do alone. -/
theorem Stops.behind {n m count more : Nat} {final : Session}
    {replies repliesBehind : List (Except Error Answer)} {result : Except Error Nat}
    (stops : Stops m more final repliesBehind result)
    (succeeded : ∀ reply ∈ replies, reply.isOk = true)
    (halted : count < n → more = m → final.system.machine.halted = true) (within : more ≤ m) :
    Stops (n + m) (count + more) final (replies ++ repliesBehind) (result.map (count + ·)) := by
  cases stops with
  | completed succeededBehind haltedBehind =>
      refine .completed (List.forall_mem_append.mpr ⟨succeeded, succeededBehind⟩) ?_
      intro fewer
      obtain less | all := within.lt_or_eq
      · exact haltedBehind less
      · exact halted (by omega) all
  | failed earlier error succeededBehind last =>
      rw [last, ← List.append_assoc]
      exact .failed _ error (List.forall_mem_append.mpr ⟨succeeded, succeededBehind⟩) rfl

/-- A run on a halted machine does not tick. -/
theorem Runs.count_of_halted {limit : Int} {run : Run}
    (runs : session.Runs clock elapsed limit run)
    (halted : session.system.machine.halted = true) : run.count = 0 := by
  by_contra ticked
  have running := runs.running 0 (Nat.pos_of_ne_zero ticked)
  exact Bool.false_ne_true (running.symm.trans halted)

/-- A run that fails is not gone on with. -/
theorem Runs.followedBy_failed {n m : Nat} {first second : Run} {error : Error}
    (small : ((n + m : Nat) : Rat) < Binary64.roundingLimit)
    (runs : session.Runs clock elapsed n first) (failed : first.result = .error error)
    (ran : runFrom clock elapsed 0 n session = (first.final, first.result)) :
    session.Runs clock elapsed (n + m : Nat) (first.followedBy second) := by
  have same : first.followedBy second = first := by rw [Run.followedBy, failed]
  have within := runs.within
  have stops := runs.stops
  rw [same]
  refine ⟨?_, by omega, runs.final, runs.events, runs.lines, runs.running, ?_⟩
  · rw [run_of_smaller (Nat.le_refl _) small, runFrom_add, ran, failed]
  · rw [failed] at stops ⊢
    cases stops with
    | failed earlier _ succeeded last => exact .failed earlier error succeeded last

/-- Two runs one after the other come to one run with both limits together. -/
theorem Runs.followedBy {n m : Nat} {first second : Run}
    (small : ((n + m : Nat) : Rat) < Binary64.roundingLimit)
    (runs : session.Runs clock elapsed n first)
    (runsBehind : first.final.Runs clock elapsed m second) :
    session.Runs clock elapsed (n + m : Nat) (first.followedBy second) := by
  have ran := runs.ran
  rw [run_of_smaller (Nat.le_add_right n m) small] at ran
  have ranBehind := runsBehind.ran
  rw [run_of_smaller (Nat.le_add_left m n) small] at ranBehind
  cases result : first.result with
  | error error => exact runs.followedBy_failed small result ran
  | ok done =>
      have within := runs.within
      have withinBehind := runsBehind.within
      have stops := runs.stops
      rw [result] at stops ran
      cases stops with
      | completed succeeded halted =>
          rw [Run.followedBy, result]
          constructor
          case ran =>
            rw [run_of_smaller (Nat.le_refl _) small, runFrom_add, ran]
            simp only
            rw [runFrom_done, ranBehind]
          case within =>
            simp only
            omega
          case final =>
            simp only
            rw [ticks_add, serveAll_append, ← runs.final, runsBehind.final]
          case events =>
            simp only
            rw [ticks_add, List.map_append, System.heard_append, ← serveAll_system, ← runs.final,
              runs.events, runsBehind.events]
          case lines =>
            simp only
            rw [ticks_add, output_append, List.flatten_append, ← runs.final, runs.lines,
              runsBehind.lines]
          case running =>
            intro done fewer
            obtain front | back := Nat.lt_or_ge done first.count
            · exact runs.running done front
            · obtain ⟨more, rfl⟩ := Nat.exists_eq_add_of_le back
              rw [ticks_add, serveAll_append, ← runs.final]
              exact runsBehind.running more (Nat.lt_of_add_lt_add_left fewer)
          case stops =>
            simp only
            rw [ticks_add, replies_append, ← runs.final]
            refine runsBehind.stops.behind succeeded ?_ withinBehind
            -- A first run that stops early leaves nothing for the second one to tick.
            intro fewer _
            rw [runsBehind.final, runsBehind.count_of_halted (halted fewer)]
            exact halted fewer

/-- Every run whose limit is in the range of numbers has an account. -/
theorem exists_runs {limit : Nat} (small : (limit : Rat) < Binary64.roundingLimit)
    (session : Session) : ∃ run, session.Runs clock elapsed limit run := by
  induction limit generalizing session with
  | zero => exact ⟨_, runs_none (by simpa using small) (Int.le_refl _) session⟩
  | succ limit ih =>
      rw [Nat.add_comm] at small ⊢
      obtain ⟨first, runs⟩ := exists_runs_one (Nat.le_add_right 1 limit) small session
      have less : (limit : Rat) ≤ (1 + limit : Nat) := Nat.cast_le.mpr (Nat.le_add_left limit 1)
      obtain ⟨second, runsBehind⟩ := ih (less.trans_lt small) first.final
      exact ⟨_, Runs.followedBy small runs runsBehind⟩

/-- Only the last tick of a run can fail. -/
theorem Runs.succeeded_before {limit : Int} {run : Run}
    (runs : session.Runs clock elapsed limit run) {done : Nat} (before : done < run.count) :
    ∀ reply ∈ session.replies (ticks clock elapsed done), reply.isOk = true := by
  obtain ⟨more, same⟩ := Nat.exists_eq_add_of_lt before
  have stops := runs.stops
  rw [same, Nat.add_assoc, ticks_add, replies_append] at stops
  intro reply member
  cases result : run.result with
  | ok total =>
      rw [result] at stops
      cases stops with
      | completed succeeded => exact succeeded reply (List.mem_append_left _ member)
  | error error =>
      rw [result] at stops
      cases stops with
      | failed earlier _ succeeded last =>
          have nonempty : (session.serveAll (ticks clock elapsed done)).replies
              (ticks clock elapsed (more + 1)) ≠ [] := List.cons_ne_nil _ _
          have front := congrArg List.dropLast last
          rw [List.dropLast_append_of_ne_nil nonempty, List.dropLast_concat] at front
          exact succeeded reply (front ▸ List.mem_append_left _ member)

/-- A run that succeeds returns how often it ticked. -/
theorem Runs.counted {limit : Int} {run : Run} (runs : session.Runs clock elapsed limit run)
    {total : Nat} (result : run.result = .ok total) : run.count = total := by
  have stops := runs.stops
  rw [result] at stops
  cases stops
  rfl

/-- Two accounts of a run agree on how often it ticked: a failing one stops at the first failure. -/
theorem Runs.count_le {limit : Int} {run other : Run}
    (runs : session.Runs clock elapsed limit run)
    (others : session.Runs clock elapsed limit other) : other.count ≤ run.count := by
  obtain ⟨_, same⟩ := Prod.mk.inj (runs.ran.symm.trans others.ran)
  cases result : run.result with
  | ok total =>
      rw [runs.counted result, others.counted (same.symm.trans result)]
  | error error =>
      have stops := runs.stops
      rw [result] at stops
      apply Nat.le_of_not_lt
      intro before
      have succeeded := others.succeeded_before before
      cases stops with
      | failed earlier _ _ last =>
          rw [last] at succeeded
          exact Bool.false_ne_true (succeeded (.error error) (by simp))

/-- There is only one account of a run. -/
theorem Runs.unique {limit : Int} {run other : Run}
    (runs : session.Runs clock elapsed limit run)
    (others : session.Runs clock elapsed limit other) : other = run := by
  have count := (runs.count_le others).antisymm (others.count_le runs)
  obtain ⟨final, result⟩ := Prod.mk.inj (others.ran.symm.trans runs.ran)
  have events := others.events
  have lines := others.lines
  rw [count, ← runs.events] at events
  rw [count, ← runs.lines] at lines
  cases run
  cases other
  simp only at count final result events lines
  rw [count, final, result, events, lines]

/-- Runs tick until the machine halts, a tick fails or the limit is reached, and one run after the
other comes to one run with both limits together. A negative limit allows no tick, and a limit out
of the range of numbers is refused. -/
theorem runs_compose (session : Session) (clock elapsed : Binary64) :
    (∀ limit : Int, |(limit : Rat)| < Binary64.roundingLimit →
      (∃! run, session.Runs clock elapsed limit run) ∧
        (limit < 0 → session.run clock limit elapsed = (session, .ok 0))) ∧
    (∀ limit : Int, Binary64.roundingLimit ≤ |(limit : Rat)| →
      session.run clock limit elapsed = (session, .error .limitTooLarge)) ∧
    ∀ (n m : Nat) (first second : Run), ((n + m : Nat) : Rat) < Binary64.roundingLimit →
      session.Runs clock elapsed n first → first.final.Runs clock elapsed m second →
        session.Runs clock elapsed (n + m : Nat) (first.followedBy second) := by
  refine ⟨?_, fun limit large => run_of_large large session,
    fun n m first second small runs runsBehind => runs.followedBy small runsBehind⟩
  intro limit small
  obtain negative | nonneg := lt_or_ge limit 0
  · have runs : session.Runs clock elapsed limit _ := runs_none small negative.le session
    exact ⟨⟨_, runs, fun _ others => runs.unique others⟩, fun _ => runs.ran⟩
  · obtain ⟨count, rfl⟩ := Int.eq_ofNat_of_zero_le nonneg
    rw [Int.cast_natCast, Nat.abs_cast] at small
    obtain ⟨run, runs⟩ := exists_runs small session
    exact ⟨⟨run, runs, fun _ others => runs.unique others⟩,
      fun negative => absurd nonneg negative.not_ge⟩

/-- A run on a halted machine does nothing. -/
theorem run_halted (halted : session.system.machine.halted = true) {limit : Int}
    (small : |(limit : Rat)| < Binary64.roundingLimit) :
    session.run clock limit elapsed = (session, .ok 0) :=
  (run_of_small small session).trans (runFrom_halted halted 0 limit.toNat)

/-- On a halted machine a limit of `2 ^ 1024` is refused, of either sign, and half of it is not. -/
theorem run_limits_of_halted (halted : session.system.machine.halted = true) :
    session.run clock (-2 ^ 1024) elapsed = (session, .error .limitTooLarge) ∧
      session.run clock (2 ^ 1023) elapsed = (session, .ok 0) ∧
      session.run clock (2 ^ 1023 + 2 ^ 1023) elapsed = (session, .error .limitTooLarge) := by
  have half : ((2 ^ 1023 : Int) : Rat) = Binary64.power 1023 := (Binary64.power_natCast 1023).symm
  have whole : ((2 ^ 1024 : Int) : Rat) = Binary64.power 1024 := (Binary64.power_natCast 1024).symm
  have double : Binary64.power 1024 = Binary64.power 1023 * 2 := Binary64.power_succ 1023
  have step : Binary64.power 971 = Binary64.power 970 * 2 := Binary64.power_succ 970
  have less : Binary64.power 971 ≤ Binary64.power 1023 := Binary64.power_le (by decide)
  have unit := Binary64.power_pos 970
  have large : Binary64.roundingLimit ≤ Binary64.power 1024 := sub_le_self _ unit.le
  refine ⟨?_, ?_, ?_⟩
  · apply run_of_large
    rw [Int.cast_neg, abs_neg, whole, abs_of_pos (Binary64.power_pos 1024)]
    exact large
  · apply run_halted halted
    rw [half, abs_of_pos (Binary64.power_pos 1023)]
    unfold Binary64.roundingLimit
    linarith
  · apply run_of_large
    rw [Int.cast_add, half, ← mul_two, ← double, abs_of_pos (Binary64.power_pos 1024)]
    exact large

/-- A session without a program halts at its first tick. -/
theorem halted_behind_first_tick (fresh : session.system = .powerOn {}) (clock : Binary64) :
    (session.tick clock (.finite 17)).1.system.machine.halted = true := by
  have accounted : session.system.timing.advance (.finite 17) =
      ({ rate := 60, accumulated := .finite 20 }, .ok 1) := by
    rw [fresh]
    exact Timing.advance_first
  have failed : session.system.stepOrPoll.2.outcome = .failed (.unsupportedOpcode 0) := by
    rw [System.stepOrPoll_failed_iff, fresh]
    exact ⟨rfl, none, System.powerOn_faults {}⟩
  have policy : session.system.config.errorPolicy = .halt := by
    rw [fresh]
    rfl
  rw [tick_system, (System.tick_failedTick accounted failed).halted policy]
  rfl

/-- A limit of `2 ^ 1024` is refused, of either sign, even where two runs with half of it do
nothing. -/
theorem limits_beyond_numbers_are_refused :
    let fresh : Session :=
      { system := .powerOn {}, statistics := .empty, started := .finite 0, printed := #[] }
    let session := (fresh.tick (.finite 0) (.finite 17)).1
    session.run (.finite 0) (-2 ^ 1024) (.finite 17) = (session, .error .limitTooLarge) ∧
      session.run (.finite 0) (2 ^ 1023) (.finite 17) = (session, .ok 0) ∧
      session.run (.finite 0) (2 ^ 1023 + 2 ^ 1023) (.finite 17) =
        (session, .error .limitTooLarge) :=
  run_limits_of_halted (halted_behind_first_tick rfl (.finite 0))

end Session

end Chip8
