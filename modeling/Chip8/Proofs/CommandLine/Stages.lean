import Chip8.Proofs.CommandLine.Settings
import Chip8.Proofs.Machine.Programs
import Chip8.Proofs.Session.Endings

namespace Chip8

/-- This says that a number is at most zero; an undefined number is not. -/
def Binary64.AtMostZero : Binary64 → Prop
  | .nan => False
  | .infinity negative => negative = true
  | .negativeZero => True
  | .finite value => value ≤ 0

namespace Binary64

/-- A number is at most zero if it is less than zero or zero. -/
theorem atMostZero_iff (number : Binary64) :
    (number.less (.finite 0) || number.isZero) = true ↔ number.AtMostZero := by
  cases number with
  | nan => simp [less, isZero, AtMostZero]
  | infinity negative => simp [less, isZero, AtMostZero]
  | negativeZero => simp [isZero, AtMostZero]
  | finite value =>
      rw [Bool.or_eq_true]
      exact (or_congr decide_eq_true_iff decide_eq_true_iff).trans le_iff_lt_or_eq.symm

/-- A number that is not negative is not less than zero. -/
theorem less_zero_of_nonneg {number : Binary64} (finite : number.isFinite = true)
    (nonneg : 0 ≤ number.real) : number.less (.finite 0) = false := by
  cases number with
  | nan => rfl
  | infinity => contradiction
  | negativeZero => exact decide_eq_false (lt_irrefl 0)
  | finite value => exact decide_eq_false nonneg.not_gt

end Binary64

namespace CommandLine

/-- The time of a tick is not negative at a rate above zero or an undefined one. -/
theorem elapsedAt_nonnegative {rate : Binary64} (above : ¬ rate.AtMostZero) :
    (elapsedAt rate).less (.finite 0) = false := by
  cases rate with
  | nan => rfl
  | infinity negative =>
      cases negative with
      | true => exact absurd rfl above
      | false => rfl
  | negativeZero => exact absurd trivial above
  | finite value =>
      have positive : 0 < value := lt_of_not_ge above
      have nonzero : (Binary64.finite value).isZero = false := decide_eq_false positive.ne'
      have thousandFinite : (Binary64.finite 1000).isFinite = true := rfl
      have rounds := Binary64.rounds_div thousandFinite rfl nonzero
      have nonneg : (0 : Rat) ≤ 1000 / value := by positivity
      obtain amount | infinite := rounds.isAmount_or nonneg
      · exact Binary64.less_zero_of_nonneg amount.finite amount.nonnegative
      · rw [elapsedAt, infinite]
        rfl

section Stages

variable {options : Options} {rom : String} {storage : Storage} {rate clock elapsed : Binary64}
  {session : Session}

/-- A rate that is at most zero is refused first of all. -/
theorem ending_run_atMostZero {arguments : List String}
    (parsed : Command.ofArguments arguments = .ok (.run rom options))
    (rated : options.ips = some rate) (low : rate.AtMostZero) :
    (run arguments storage clock).ending = .exit 2 := by
  simp only [run, parsed, execute, rated]
  rw [if_pos (rate.atMostZero_iff.mpr low)]
  rfl

theorem run_above {arguments : List String}
    (parsed : Command.ofArguments arguments = .ok (.run rom options))
    (rated : options.ips = some rate) (above : ¬ rate.AtMostZero) :
    run arguments storage clock = runAt rate rom options storage clock := by
  simp only [run, parsed, execute, rated]
  rw [if_neg (mt rate.atMostZero_iff.mp above)]

/-- Options that ask for no level end the program. -/
theorem ending_runAt_unlevelled (unlevelled : options.Unlevelled) :
    (runAt rate rom options storage clock).ending = .failed .levelCleared := by
  simp [runAt, Options.levelName, unlevelled.untraced, unlevelled.cleared, Run.silent]

/-- Options that no configuration has are refused. -/
theorem ending_runAt_misconfigured (levelled : ¬ options.Unlevelled)
    (wrong : options.Misconfigures) :
    (runAt rate rom options storage clock).ending = .exit 2 := by
  obtain ⟨levelName, named⟩ := Options.exists_levelName levelled
  cases read : (options.settings levelName).read with
  | ok config =>
      have asked := (options.configures_iff config).mpr ⟨levelName, named, read⟩
      exact absurd wrong asked.not_misconfigures
  | error problems =>
      simp only [runAt, named, read]
      rfl

/-- Options with a configuration play a program in a session of it. -/
theorem runAt_configured {config : Config} (asked : options.Configures config)
    (created : Session.create config clock = .ok session) :
    runAt rate rom options storage clock =
      play session clock rom (elapsedAt rate) options storage := by
  obtain ⟨levelName, named, read⟩ := (options.configures_iff config).mp asked
  simp only [runAt, named, read, created]

/-- A program that cannot be read or does not fit is a failure. -/
theorem ending_play_unreadable (openable : '\x00' ∉ rom.toList)
    (unreadable : ∀ program, storage.read rom = .ok program → 3584 < program.length) :
    (play session clock rom elapsed options storage).ending = .exit 1 := by
  obtain ⟨error, refused⟩ : ∃ error, Rom.read storage rom = .error (.rom error) := by
    cases content : storage.read rom with
    | error reason =>
        have refused : Rom.read storage rom = .error (.rom (.unreadable rom reason)) := by
          simp [Rom.read, openable, content]
        exact ⟨_, refused⟩
    | ok program => exact ⟨_, Rom.read_tooLarge ⟨openable, content⟩ (unreadable program content)⟩
  simp only [play, Session.loadFile, refused]
  rfl

/-- A program that can be read and fits is loaded. -/
theorem loadFile_yielded (session : Session) (clock : Binary64) {program : List UInt8}
    (yields : storage.Yields rom program) (fits : program.length ≤ 3584) :
    session.loadFile clock storage rom = (session.served ⟨clock, .loadFile storage rom⟩, .ok ()) ∧
      (session.served ⟨clock, .loadFile storage rom⟩).system =
        session.system.after (.load program) := by
  have read := Rom.read_fitting yields fits
  have loads := Machine.loads_overlay fits session.system.machine
  constructor
  · simp only [Session.served, Session.serve,
      Session.loadFile_accepted read (Machine.loadProgram_ok_iff.mpr loads)]
  · rw [(session.serve_system _).1, System.served_eq_replay]
    simp only [Request.operations, read]
    rfl

/-- An error in a run behind the load stops the program. -/
theorem play_stopped {loaded final : Session} {limit : Int} {error : Error}
    (accepted : session.loadFile clock storage rom = (loaded, .ok ()))
    (limited : options.cycles = some limit)
    (ran : loaded.run clock limit elapsed = (final, .error error)) :
    play session clock rom elapsed options storage = .stop final clock error := by
  simp only [play, accepted, limited, ran]

/-- A run behind the load that returns is presented. -/
theorem play_presented {loaded final : Session} {limit : Int} {ticks : Nat}
    (accepted : session.loadFile clock storage rom = (loaded, .ok ()))
    (limited : options.cycles = some limit)
    (ran : loaded.run clock limit elapsed = (final, .ok ticks)) :
    play session clock rom elapsed options storage =
      present final clock options storage ticks := by
  simp only [play, accepted, limited, ran]

/-- A limit that was taken away ends the program behind the load. -/
theorem ending_play_unlimited {loaded : Session}
    (accepted : session.loadFile clock storage rom = (loaded, .ok ()))
    (unlimited : options.cycles = none) :
    (play session clock rom elapsed options storage).ending = .failed .limitCleared := by
  simp only [play, accepted, unlimited]
  rfl

/-- Nothing is shown behind the report but the last frame, as text and only if it is asked for. -/
theorem present_unsaved (unsaved : options.snapshot = none) (ticks : Nat) :
    (present session clock options storage ticks).ending = .exit 0 ∧
      (present session clock options storage ticks).printed =
        (session.log clock .info (report session ticks)).printed ++
          if options.ascii then
            #[.frame (session.system.machine.display.text Bitmap.litText Bitmap.unlitText)]
          else #[] := by
  have kept : (session.log clock .info (report session ticks)).system = session.system :=
    session.print_system _ _ _
  cases ascii : options.ascii with
  | true =>
      simp [present, unsaved, ascii, Run.after, Session.consumeFrame, System.consumeFrame,
        Session.showFrame, kept]
  | false => simp [present, unsaved, ascii, Run.after, Session.consumeFrame, System.consumeFrame]

/-- A run of ticks whose time is accounted for decides how a program that is loaded ends: with a
failure if a tick is refused, and else with a report behind the ticks. -/
theorem play_ends {loaded : Session} {limit : Int}
    (accepted : session.loadFile clock storage rom = (loaded, .ok ()))
    (limited : options.cycles = some limit) (small : |(limit : Rat)| < Binary64.roundingLimit)
    (accounted : loaded.system.AccountedFor elapsed limit.toNat) :
    let raises := loaded.system.config.errorPolicy = .raise ∧
      loaded.system.FailsWithin elapsed limit.toNat
    let finished := play session clock rom elapsed options storage
    (raises → finished.ending = .exit 1) ∧
      (¬ raises → ∃ count, loaded.system.RunsFor elapsed limit.toNat count ∧
        finished = present (loaded.serveAll (Session.ticks clock elapsed count)) clock options
          storage count) := by
  intro raises finished
  obtain ⟨run, runs, ran⟩ := Session.exists_account small loaded
  cases result : run.result with
  | error error =>
      obtain ⟨policy, fails, located, rfl⟩ := runs.raised result accounted
      rw [result] at ran
      have stopped : finished = _ := play_stopped accepted limited ran
      constructor
      · intro _
        rw [stopped]
        rfl
      · exact fun quiet => absurd ⟨policy, fails⟩ quiet
  | ok count =>
      obtain ⟨final, runsFor, quiet⟩ := runs.returned result accounted
      rw [result, final] at ran
      exact ⟨fun raised => absurd raised quiet,
        fun _ => ⟨count, runsFor, play_presented accepted limited ran⟩⟩

end Stages

end CommandLine

end Chip8
