import Chip8.Proofs.CommandLine.Stages

namespace Chip8.CommandLine

/-- A seed that fits in a word is accepted. -/
theorem exists_created (config : Config)
    (inRange : -9223372036854775808 ≤ config.seed ∧ config.seed ≤ 9223372036854775807)
    (clock : Binary64) : ∃ session, Session.create config clock = .ok session := by
  have accepted : Machine.seedInRange config.seed = true := by
    simpa [Machine.seedInRange, fitsWord] using inRange
  simp only [Session.create, System.create, accepted, if_true, bind, Except.bind, pure, Except.pure]
  exact ⟨_, rfl⟩

/-- This says how a program with a configuration ends that was run in a created session. Errors that
the program does not handle come only from a limit that was taken away or is out of the range of
numbers. -/
structure Finishes (finished : Run) (created : Session) (config : Config) (rom : String)
    (options : Options) (storage : Storage) (clock elapsed : Binary64) : Prop where
  unread : (∀ program, storage.read rom = .ok program → 3584 < program.length) →
    finished.ending = .exit 1
  unlimited : ∀ program, storage.read rom = .ok program → program.length ≤ 3584 →
    options.cycles = none → finished.ending = .failed .limitCleared
  unmeasured : ∀ program limit, storage.read rom = .ok program → program.length ≤ 3584 →
    options.cycles = some limit → Binary64.roundingLimit ≤ |(limit : Rat)| →
    finished.ending = .failed .limitTooLarge
  measured : ∀ program limit, storage.read rom = .ok program → program.length ≤ 3584 →
    options.cycles = some limit → |(limit : Rat)| < Binary64.roundingLimit →
    let loaded := (System.powerOn config).after (.load program)
    let raises := config.errorPolicy = .raise ∧ loaded.FailsWithin elapsed limit.toNat
    (raises → finished.ending = .exit 1) ∧
      (¬ raises → finished.ending = .exit 0 ∧
        ∃ count, loaded.RunsFor elapsed limit.toNat count ∧
          let session := created.serveAll
            (⟨clock, .loadFile storage rom⟩ :: Session.ticks clock elapsed count)
          session.system = loaded.ticked elapsed count ∧
            finished.printed = (session.log clock .info (report session count)).printed ++
              if options.ascii then
                #[.frame (session.system.machine.display.text Bitmap.litText Bitmap.unlitText)]
              else #[])

/-- A program that is played in a created session finishes. -/
theorem play_finishes {config : Config} {created : Session} {rom : String} {options : Options}
    {storage : Storage} {clock elapsed : Binary64}
    (creates : Session.create config clock = .ok created) (hertz : config.timerRate = 60)
    (openable : '\x00' ∉ rom.toList) (unsaved : options.snapshot = none)
    (nonnegative : elapsed.less (.finite 0) = false)
    (finite : ∀ limit, options.cycles = some limit → Timing.StaysFinite elapsed limit.toNat) :
    Finishes (play created clock rom elapsed options storage) created config rom options storage
      clock elapsed where
  unread := ending_play_unreadable openable
  unlimited program content fits unlimited :=
    ending_play_unlimited (loadFile_yielded created clock ⟨openable, content⟩ fits).1 unlimited
  unmeasured program limit content fits limited large := by
    have accepted := (loadFile_yielded created clock ⟨openable, content⟩ fits).1
    rw [play_stopped accepted limited (Session.run_of_large large _)]
    rfl
  measured program limit content fits limited small := by
    intro loaded raises
    obtain ⟨accepted, loads⟩ := loadFile_yielded created clock ⟨openable, content⟩ fits
    rw [Session.create_system creates] at loads
    have system : (created.served ⟨clock, .loadFile storage rom⟩).system = loaded := loads
    have configured : loaded.config = config := System.after_config _ _
    obtain ⟨_, _, _, timing⟩ := System.powerOn_loaded config program
    rw [hertz] at timing
    have convertible : Binary64.ofInt? loaded.config.timerRate = some (.finite 60) := by
      rw [configured, hertz]
      decide +kernel
    have accounted : loaded.AccountedFor elapsed limit.toNat := by
      apply ((System.powerOn_timed config).after _).accountedFor convertible nonnegative
      rw [show loaded.timing = _ from timing]
      exact finite limit limited
    rw [← system] at accounted
    obtain ⟨raised, returned⟩ := play_ends accepted limited small accounted
    rw [system, configured] at raised returned
    refine ⟨raised, fun quiet => ?_⟩
    obtain ⟨count, runsFor, played⟩ := returned quiet
    rw [played]
    obtain ⟨ending, printed⟩ := present_unsaved unsaved count
    refine ⟨ending, count, runsFor, ?_, printed⟩
    rw [Session.serveAll_cons, Session.serveAll_ticks_system, system]

/-- A program finishes in one of four ways, none of which is the status of a refusal. -/
theorem Finishes.ending {finished : Run} {created : Session} {config : Config} {rom : String}
    {options : Options} {storage : Storage} {clock elapsed : Binary64}
    (finishes : Finishes finished created config rom options storage clock elapsed) :
    finished.ending = .exit 0 ∨ finished.ending = .exit 1 ∨
      finished.ending = .failed .limitCleared ∨ finished.ending = .failed .limitTooLarge := by
  by_cases unreadable : ∀ program, storage.read rom = .ok program → 3584 < program.length
  · exact .inr (.inl (finishes.unread unreadable))
  · simp only [not_forall, not_lt] at unreadable
    obtain ⟨program, content, fits⟩ := unreadable
    cases limited : options.cycles with
    | none => exact .inr (.inr (.inl (finishes.unlimited program content fits limited)))
    | some limit =>
        obtain small | large := lt_or_ge |(limit : Rat)| Binary64.roundingLimit
        · obtain ⟨raised, returned⟩ := finishes.measured program limit content fits limited small
          by_cases raises : config.errorPolicy = .raise ∧
              ((System.powerOn config).after (.load program)).FailsWithin elapsed limit.toNat
          · exact .inr (.inl (raised raises))
          · exact .inl (returned raises).1
        · exact .inr (.inr (.inr (finishes.unmeasured program limit content fits limited large)))

/-- Time stays finite at a thousand ticks in a second, however many ticks there are. -/
theorem staysFinite_at_thousand (limit : Nat) :
    Timing.StaysFinite (elapsedAt (.finite 1000)) limit := by
  intro count _
  have elapsed : elapsedAt (.finite 1000) = .finite (1 : Nat) := by decide +kernel
  have start : ({ rate := 60, accumulated := .finite 0 } : Timing) = .withUnits 60 0 := rfl
  rw [elapsed, start, Timing.advanced_natural (by decide) (Binary64.isNatural_finite 1) (by decide)
    (by decide)]
  rfl

/-- The first cause that applies decides how a program ends. A rate that is at most zero is refused
with status two. Then a level that was taken away is an error that the program does not handle, and
options that no configuration has are refused with status two. Any other program finishes with the
configuration that its options ask for. -/
theorem exit_status_of_first_cause {arguments : List String} {rom : String} {options : Options}
    (parsed : Command.ofArguments arguments = .ok (.run rom options))
    (unsaved : options.snapshot = none) (openable : '\x00' ∉ rom.toList) {seed : Int}
    (seeded : options.seed = some seed)
    (inRange : -9223372036854775808 ≤ seed ∧ seed ≤ 9223372036854775807) {rate : Binary64}
    (rated : options.ips = some rate)
    (finite : rate.AtMostZero ∨ ∀ limit, options.cycles = some limit →
      Timing.StaysFinite (elapsedAt rate) limit.toNat)
    (storage : Storage) (clock : Binary64) :
    let finished := run arguments storage clock
    (finished.ending = .exit 2 ↔
        rate.AtMostZero ∨ ¬ options.Unlevelled ∧ options.Misconfigures) ∧
      (finished.ending = .failed .levelCleared ↔ ¬ rate.AtMostZero ∧ options.Unlevelled) ∧
      (¬ rate.AtMostZero → ¬ options.Unlevelled → ¬ options.Misconfigures →
        ∃ config created, options.Configures config ∧ Session.create config clock = .ok created ∧
          Finishes finished created config rom options storage clock (elapsedAt rate)) := by
  intro finished
  by_cases low : rate.AtMostZero
  · have ending : finished.ending = .exit 2 := ending_run_atMostZero parsed rated low
    simp [ending, low]
  have started : finished = runAt rate rom options storage clock := run_above parsed rated low
  by_cases unlevelled : options.Unlevelled
  · have ending : finished.ending = .failed .levelCleared := by
      rw [started]
      exact ending_runAt_unlevelled unlevelled
    simp [ending, low, unlevelled]
  by_cases wrong : options.Misconfigures
  · have ending : finished.ending = .exit 2 := by
      rw [started]
      exact ending_runAt_misconfigured unlevelled wrong
    simp [ending, low, unlevelled, wrong]
  · obtain ⟨config, asked⟩ := Options.exists_configures seeded unlevelled wrong
    have seed : config.seed = seed := Option.some.inj (asked.seed.symm.trans seeded)
    rw [← seed] at inRange
    obtain ⟨created, creates⟩ := exists_created config inRange clock
    have finishes :
        Finishes finished created config rom options storage clock (elapsedAt rate) := by
      rw [started, runAt_configured asked creates]
      exact play_finishes creates asked.timerRate openable unsaved (elapsedAt_nonnegative low)
        (finite.resolve_left low)
    have ending := finishes.ending
    refine ⟨iff_of_false ?_ ?_, iff_of_false ?_ ?_, fun _ _ _ => ?_⟩
    · intro refused
      simp [refused] at ending
    · simp [low, wrong]
    · intro failed
      simp [failed] at ending
    · simp [unlevelled]
    · exact ⟨config, created, asked, creates, finishes⟩

/-- A program that jumps to itself exits behind its first tick, and its empty frame is shown. -/
theorem jump_to_itself_exits :
    let storage : Storage :=
      { read := fun name => if name = "jump" then .ok [0x12, 0x00] else .error .missing
        obstacle := fun _ => none }
    let loaded := (System.powerOn {}).after (.load [0x12, 0x00])
    ∃ (finished : Run) (session : Session),
      run ["--cycles", "5", "--ips", "1000", "--ascii", "jump"] storage (.finite 0) = finished ∧
        finished.ending = .exit 0 ∧ session.system = loaded.ticked (.finite 1) 1 ∧
        finished.printed = (session.log (.finite 0) .info (report session 1)).printed ++
          #[.frame (session.system.machine.display.text Bitmap.litText Bitmap.unlitText)] := by
  intro storage loaded
  have parsed : Command.ofArguments ["--cycles", "5", "--ips", "1000", "--ascii", "jump"] =
      .ok (.run "jump" { cycles := some 5, ips := some (.finite 1000), ascii := true }) := by
    decide +kernel
  have low : ¬ (Binary64.finite 1000).AtMostZero := by norm_num [Binary64.AtMostZero]
  have content : storage.read "jump" = .ok [0x12, 0x00] := by simp only [storage, if_true]
  have asked := Options.configures_usual (some 5) (some (.finite 1000)) true
  obtain ⟨_, _, finishes⟩ := exit_status_of_first_cause parsed rfl (by decide) rfl (by decide) rfl
    (.inr fun _ _ => staysFinite_at_thousand _) storage (.finite 0)
  obtain ⟨config, created, others, creates, finishes⟩ :=
    finishes low asked.levelled asked.not_misconfigures
  obtain rfl := asked.unique others
  have small : |((5 : Int) : Rat)| < Binary64.roundingLimit := by
    apply lt_of_not_ge
    intro large
    have refused := (Binary64.ofInt?_eq_none_iff 5).mpr large
    have accepted : Binary64.ofInt? 5 ≠ none := by decide +kernel
    exact accepted refused
  obtain ⟨_, returned⟩ := finishes.measured _ 5 content (by decide) rfl small
  obtain ⟨ending, count, runsFor, system, printed⟩ := returned (by simp)
  rw [if_pos rfl] at printed
  generalize created.serveAll _ = session at system printed
  have elapsed : elapsedAt (.finite 1000) = .finite 1 := by decide +kernel
  rw [elapsed] at runsFor system
  have meets : loaded.machine.Meets { word := 0x1200, instruction := .jump (.ofNat 0x200) } :=
    System.powerOn_meets {} (by decide) (by decide) (by decide) (by decide)
  obtain ⟨idle, running, place, _⟩ := System.powerOn_loaded {} [0x12, 0x00]
  have once : loaded.RunsFor (.finite 1) 5 1 :=
    System.runsFor_jump_itself idle running meets (by rw [place]; rfl) (by decide) (by decide)
  rw [once.unique runsFor] at system printed
  exact ⟨_, session, rfl, ending, system, printed⟩

/-- An argument that does not start like an option is an operand. -/
theorem Token.ofArgument_operand {argument : String} (plain : argument.toList.head? ≠ some '-') :
    Token.ofArgument argument = .ok (.operand argument) := by
  simp [Token.ofArgument, plain]

/-- The limit is read off the argument behind its option. -/
theorem ofArguments_cycles {value : String} {limit : Int}
    (plain : value.toList.head? ≠ some '-') (reads : Numeral.integer? value = some limit) :
    Command.ofArguments ["--cycles", value, "--ips", "1000", "jump"] =
      .ok (.run "jump" { cycles := some limit, ips := some (.finite 1000) }) := by
  have first : Token.ofArgument "--cycles" = .ok (.named .cycles none) := by decide +kernel
  have rest : Token.ofArguments ["--ips", "1000", "jump"] =
      .ok [.named .ips none, .operand "1000", .operand "jump"] := by decide +kernel
  have rate : Numeral.real? "1000" = some (.finite 1000) := by decide +kernel
  have inside : value ≠ endMarkText := by
    rintro rfl
    exact plain rfl
  have tokens : Token.ofArguments ["--cycles", value, "--ips", "1000", "jump"] =
      .ok [.named .cycles none, .operand value, .named .ips none, .operand "1000",
        .operand "jump"] := by
    rw [Token.ofArguments, if_neg (by decide), first, Token.ofArguments, if_neg inside,
      Token.ofArgument_operand plain, rest]
    rfl
  rw [Command.ofArguments, tokens]
  simp [Reading.consume, Switch.takesValue, Options.assign, Options.integer, Options.real, reads,
    rate, bind, Except.bind, pure, Except.pure, Reading.finish]

/-- Options that were taken away and a limit out of the range of numbers end a program in ways of
their own, although it jumps to itself and its time stays finite. -/
theorem cleared_options_are_not_handled :
    let storage : Storage :=
      { read := fun name => if name = "jump" then .ok [0x12, 0x00] else .error .missing
        obstacle := fun _ => none }
    let ends (first : List String) (options : Options) (ending : Ending) :=
      let arguments := first ++ ["--ips", "1000", "jump"]
      Command.ofArguments arguments =
          .ok (.run "jump" { options with ips := some (.finite 1000) }) ∧
        ∀ clock, (run arguments storage clock).ending = ending
    (∀ limit, Timing.StaysFinite (elapsedAt (.finite 1000)) limit) ∧
      ends ["--cycles", String.ofList ('1' :: List.replicate 309 '0')]
        { cycles := some (10 ^ 309) } (.failed .limitTooLarge) ∧
      ends ["--cycles=--"] { cycles := none } (.failed .limitCleared) ∧
      ends ["--log-level=--"] { logLevel := none } (.failed .levelCleared) ∧
      ends ["--error-policy=--"] { errorPolicy := none } (.exit 2) := by
  intro storage ends
  have above : ¬ (Binary64.finite 1000).AtMostZero := by norm_num [Binary64.AtMostZero]
  have yields : storage.Yields "jump" [0x12, 0x00] :=
    { openable := by decide, content := by simp only [storage, if_true] }
  have ends_of {first : List String} {options : Options} {ending : Ending}
      (parsed : Command.ofArguments (first ++ ["--ips", "1000", "jump"]) =
        .ok (.run "jump" { options with ips := some (.finite 1000) }))
      (played : ∀ clock, (runAt (.finite 1000) "jump" { options with ips := some (.finite 1000) }
        storage clock).ending = ending) : ends first options ending := by
    refine ⟨parsed, fun clock => ?_⟩
    rw [run_above parsed rfl above]
    exact played clock
  have finishes (cycles : Option Int) (clock : Binary64) : ∃ created,
      Finishes (runAt (.finite 1000) "jump" { cycles, ips := some (.finite 1000) } storage clock)
        created {} "jump" { cycles, ips := some (.finite 1000) } storage clock
        (elapsedAt (.finite 1000)) := by
    obtain ⟨created, creates⟩ := exists_created {} (by decide) clock
    refine ⟨created, ?_⟩
    rw [runAt_configured (Options.configures_usual cycles _ false) creates]
    exact play_finishes creates rfl yields.openable rfl (elapsedAt_nonnegative above)
      fun _ _ => staysFinite_at_thousand _
  have large : Binary64.roundingLimit ≤ |((10 ^ 309 : Int) : Rat)| := by
    have whole : ((2 ^ 1024 : Int) : Rat) = Binary64.power 1024 :=
      (Binary64.power_natCast 1024).symm
    have less : (2 : Int) ^ 1024 ≤ 10 ^ 309 := by decide +kernel
    calc Binary64.roundingLimit ≤ Binary64.power 1024 := sub_le_self _ (Binary64.power_pos 970).le
      _ ≤ ((10 ^ 309 : Int) : Rat) := whole ▸ Int.cast_le.mpr less
      _ ≤ _ := le_abs_self _
  -- Characters are cheap to read off a list, and dear to read off a text.
  have digits : (String.ofList ('1' :: List.replicate 309 '0')).toList.head? ≠ some '-' := by
    rw [String.toList_ofList, List.head?_cons]
    decide
  have number : Numeral.integer? (String.ofList ('1' :: List.replicate 309 '0')) =
      some (10 ^ 309) := by
    rw [Numeral.integer?, String.toList_ofList]
    decide +kernel
  refine ⟨staysFinite_at_thousand, ends_of (ofArguments_cycles digits number) ?_,
    ends_of (by decide +kernel) ?_, ends_of (by decide +kernel) ?_, ends_of (by decide +kernel) ?_⟩
  · intro clock
    obtain ⟨created, finishes⟩ := finishes (some (10 ^ 309)) clock
    exact finishes.unmeasured _ _ yields.content (by decide) rfl large
  · intro clock
    obtain ⟨created, finishes⟩ := finishes none clock
    exact finishes.unlimited _ yields.content (by decide) rfl
  · exact fun clock => ending_runAt_unlevelled ⟨rfl, rfl⟩
  · intro clock
    apply ending_runAt_misconfigured
    · intro unlevelled
      cases unlevelled.cleared
    · exact .errorPolicy rfl

end Chip8.CommandLine
