import Chip8.Proofs.Machine.Footprint
import Chip8.Proofs.System.Lockstep

namespace Chip8.System

/-- A step leaves the mode alone. -/
theorem stepOrPoll_modern (system : System) :
    system.stepOrPoll.1.machine.modern = system.machine.modern := by
  have advances := system.stepOrPoll_advances
  generalize system.stepOrPoll = advanced at advances ⊢
  cases advances with
  | failed idle instruction fault faults =>
      simp only [fail]
      cases system.config.errorPolicy <;> rfl
  | parked => rfl
  | executed idle decoded machine meets moves executed =>
      exact Machine.execute_content executed (Machine.modern_not_mem_footprint _ _)
  | waiting => rfl
  | resumed => rfl

/-- The mode of a machine is always that of the configuration. -/
theorem replay_modern (config : Config) (operations : List Operation) :
    ((powerOn config).replay operations).machine.modern = config.modern := by
  have kept : ((powerOn config).replay operations).config = config :=
    (powerOn config).replay_config operations
  have same := replay_holds (fun system => system.machine.modern = system.config.modern)
    (fun _ => rfl) (fun system same => by rw [stepOrPoll_modern, system.stepOrPoll_timing.1, same])
    (fun _ _ _ _ _ _ _ same => same) config operations
  rw [same, kept]

/-- This says that a block transfer was executed in a history and that neither an instruction nor a
reset has set the index since. -/
def IndexOpen (system : System) (history : List Operation) : Prop :=
  ∃ before operation after, history = before ++ operation :: after ∧
    (∃ instruction, (system.replay before).Executes operation instruction ∧
      instruction.transfers = true) ∧
    ∀ middle later rest, after = middle ++ later :: rest →
      later ≠ .reset ∧
        ∀ setter, (system.replay (before ++ operation :: middle)).Executes later setter →
          setter.setsIndex = false

/-- This says that a history shifts registers onto equal ones only, and that after a block transfer
it does not get to an instruction that reads the index before the index was set. -/
structure Disciplined (system : System) (history : List Operation) : Prop where
  shifts : ∀ before operation after, history = before ++ operation :: after →
    ∀ shift x y, (system.replay before).Executes operation (.arithmetic shift x y) →
      shift.isShift = true →
      (system.replay before).machine.register x = (system.replay before).machine.register y
  index : ∀ before operation after, history = before ++ operation :: after →
    ∀ instruction, (system.replay before).Attempts operation instruction →
      instruction.readsIndex = true → ¬ system.IndexOpen before

theorem not_indexOpen_nil (system : System) : ¬ system.IndexOpen [] := by
  rintro ⟨before, operation, after, split, _⟩
  simp at split

/-- The index is open behind a block transfer and behind an operation that leaves it open. -/
theorem indexOpen_concat_iff (system : System) (history : List Operation) (last : Operation) :
    system.IndexOpen (history ++ [last]) ↔
      (∃ instruction, (system.replay history).Executes last instruction ∧
        instruction.transfers = true) ∨
      system.IndexOpen history ∧ last ≠ .reset ∧
        ∀ setter, (system.replay history).Executes last setter → setter.setsIndex = false := by
  constructor
  · rintro ⟨before, operation, after, split, transfers, unset⟩
    rcases concat_split split with ⟨_, rfl, rfl⟩ | ⟨init, rfl, rfl⟩
    · exact .inl transfers
    · refine .inr ⟨⟨before, operation, init, rfl, transfers, ?_⟩, unset init last [] rfl⟩
      rintro middle later rest rfl
      exact unset middle later (rest ++ [last]) (by simp)
  · rintro (transfers | ⟨⟨before, operation, after, rfl, transfers, unset⟩, powered, unsetLast⟩)
    · refine ⟨history, last, [], rfl, transfers, ?_⟩
      intro middle later rest split
      simp at split
    · refine ⟨before, operation, after ++ [last], by simp, transfers, ?_⟩
      intro middle later rest split
      rcases concat_split split with ⟨_, rfl, rfl⟩ | ⟨init, _, rfl⟩
      · exact ⟨powered, unsetLast⟩
      · exact unset middle later init rfl

/-- Discipline is discipline up to every operation. -/
theorem Disciplined.init {system : System} {before after : List Operation}
    (disciplined : system.Disciplined (before ++ after)) : system.Disciplined before where
  shifts := by
    rintro earlier operation later rfl
    exact disciplined.shifts earlier operation (later ++ after) (by simp)
  index := by
    rintro earlier operation later rfl
    exact disciplined.index earlier operation (later ++ after) (by simp)

theorem disciplined_nil (system : System) : system.Disciplined [] where
  shifts before operation after split := by simp at split
  index before operation after split := by simp at split

/-- A disciplined operation prolongs a disciplined history. -/
theorem Disciplined.concat {system : System} {history : List Operation}
    (disciplined : system.Disciplined history) {last : Operation}
    (shifts : ∀ shift x y, (system.replay history).Executes last (.arithmetic shift x y) →
      shift.isShift = true →
      (system.replay history).machine.register x = (system.replay history).machine.register y)
    (index : ∀ instruction, (system.replay history).Attempts last instruction →
      instruction.readsIndex = true → ¬ system.IndexOpen history) :
    system.Disciplined (history ++ [last]) where
  shifts before operation after split := by
    rcases concat_split split with ⟨_, rfl, rfl⟩ | ⟨init, _, rfl⟩
    · exact shifts
    · exact disciplined.shifts before operation init rfl
  index before operation after split := by
    rcases concat_split split with ⟨_, rfl, rfl⟩ | ⟨init, _, rfl⟩
    · exact index
    · exact disciplined.index before operation init rfl

/-- This is what is equal after a history in different modes. -/
def acrossModes (system : System) (history : List Operation) : Accord where
  modes := False
  indices := ¬ system.IndexOpen history
  delays := True
  sounds := True

/-- The indices stay equal in an operation that does not leave the index open. -/
theorem acrossModes_following {system : System} {history : List Operation} {last : Operation}
    (closed : ¬ system.IndexOpen (history ++ [last])) :
    ((system.replay history).following (system.acrossModes history) last).indices := by
  rw [indexOpen_concat_iff] at closed
  by_cases reset : last = .reset
  · rw [reset]
    trivial
  have follows : (system.replay history).following (system.acrossModes history) last =
      (system.acrossModes history).following ((system.replay history).stepEvent? last) := by
    cases last with
    | reset => exact absurd rfl reset
    | _ => rfl
  rw [follows]
  cases stepped : (system.replay history).stepEvent? last with
  | none =>
      intro opened
      refine closed (.inr ⟨opened, reset, ?_⟩)
      rintro setter ⟨event, same, _⟩
      rw [stepped] at same
      contradiction
  | some event =>
      -- An executed instruction sets the index, or the index was and stays closed.
      by_cases sets : ∃ instruction, event.Executes instruction ∧ instruction.setsIndex = true
      · exact .inl sets
      refine .inr ⟨?_, .inr ?_⟩
      · intro opened
        refine closed (.inr ⟨opened, reset, ?_⟩)
        rintro setter ⟨_, same, executes⟩
        cases stepped.symm.trans same
        exact Bool.eq_false_of_not_eq_true fun setting => sets ⟨setter, executes, setting⟩
      · intro instruction executes
        exact Bool.eq_false_of_not_eq_true fun transfers =>
          closed (.inl ⟨instruction, ⟨event, stepped, executes⟩, transfers⟩)

/-- Systems in different modes run alike through a disciplined history. -/
theorem Agree.acrossModes {modern legacy : System}
    (agree : modern.Agree legacy (modern.acrossModes [])) {history : List Operation}
    (disciplined : modern.Disciplined history) :
    (modern.replay history).Agree (legacy.replay history) (modern.acrossModes history) ∧
      legacy.answers history = modern.answers history ∧
      legacy.events history = modern.events history := by
  -- The induction is on the last operation because the open index looks back on the history.
  induction history using List.reverseRec with
  | nil => exact ⟨agree, rfl, rfl⟩
  | append_singleton history last ih =>
      obtain ⟨agrees, answers, events⟩ := ih disciplined.init
      have inStep := InStep.same (modern.replay history) (legacy.replay history)
        (modern.acrossModes history) trivial last
      obtain ⟨answer, event, next⟩ := agrees.perform inStep fun event stepped =>
        { index := fun instruction attempts =>
            disciplined.index history last [] rfl instruction ⟨event, stepped, attempts⟩
          delay := fun _ _ => trivial
          shift := fun shift x y executes shifts =>
            .inr (disciplined.shifts history last [] rfl shift x y ⟨event, stepped, executes⟩
              shifts) }
      rw [replay_concat, replay_concat, answers_concat, answers_concat, events_concat,
        events_concat, answers, events, answer, event]
      exact ⟨next.settle acrossModes_following, rfl, rfl⟩

/-- A disciplined history gives the same answers and events in both modes. At every point of it the
systems are equal but for the mode, and but for the index where a block transfer left it open. -/
theorem modes_agree_if_disciplined (config : Config) {history : List Operation}
    (disciplined : (powerOn { config with modern := true }).Disciplined history) :
    let modern := powerOn { config with modern := true }
    let legacy := powerOn { config with modern := false }
    legacy.answers history = modern.answers history ∧
      legacy.events history = modern.events history ∧
      ∀ before after, history = before ++ after →
        legacy.replay before =
          { modern.replay before with
            config := { config with modern := false }
            machine :=
              { (modern.replay before).machine with
                modern := false
                index := (legacy.replay before).machine.index } } ∧
        (¬ modern.IndexOpen before →
          (legacy.replay before).machine.index = (modern.replay before).machine.index) := by
  intro modern legacy
  have start : modern.Agree legacy (modern.acrossModes []) := by
    have configs : { config with modern := true }.Agree { config with modern := false }
        (modern.acrossModes []) := ⟨rfl, rfl, nofun, fun _ => rfl, fun _ => rfl, fun _ => rfl⟩
    exact (powerOn_agree configs).withIndices fun _ => rfl
  obtain ⟨_, answers, events⟩ := start.acrossModes disciplined
  refine ⟨answers, events, ?_⟩
  rintro before after rfl
  obtain ⟨agree, _⟩ := start.acrossModes disciplined.init
  refine ⟨?_, agree.machine.index⟩
  have configs : (legacy.replay before).config = { config with modern := false } :=
    legacy.replay_config before
  have mode : (legacy.replay before).machine.modern = false := replay_modern _ before
  have machines := agree.machine.rest
  rw [agree.machine.delayTimer trivial, agree.machine.soundTimer trivial, mode] at machines
  have same := agree.rest
  rw [configs, machines, agree.timing trivial] at same
  exact same

/-- A load of registers leaves the index open, and the modes do not show in its answer. -/
theorem modes_agree_after_transfer :
    let loading : List Operation := [.load [0xF0, 0x65]]
    let history := loading ++ [.tick (.finite 17)]
    let config : Config := {}
    let modern := powerOn { config with modern := true }
    let legacy := powerOn { config with modern := false }
    ¬ modern.IndexOpen loading ∧ modern.IndexOpen history ∧
      legacy.answers history = modern.answers history ∧
      legacy.events history = modern.events history := by
  intro loading history config modern legacy
  let transfer : Decoded := { word := 0xF065, instruction := .loadRegisters (.ofNat 0) }
  have meets : (modern.replay loading).machine.Meets transfer :=
    powerOn_meets _ (by decide) (by decide) (by decide) (by decide)
  have loads : modern.replay loading =
      { modern with machine.memory := loaded modern.machine.memory [0xF0, 0x65] } := by
    rw [replay_cons, replay_nil, System.after, perform_load]
  have idle : (modern.replay loading).pending = none := by
    rw [loads]
    rfl
  obtain ⟨next, executed⟩ : ∃ next,
      (modern.replay loading).machine.skip.execute transfer.instruction = .ok next := by
    cases executed : (modern.replay loading).machine.skip.execute transfer.instruction with
    | ok next => exact ⟨next, rfl⟩
    | error fault =>
        rw [Machine.execute_error_iff, loads] at executed
        cases executed with
        | loadRegisters _ outside => exact absurd outside (by decide)
  have nonnegative : (Binary64.finite 17).less (.finite 0) = false := by decide
  have stepped := stepEvent_executes idle meets rfl executed nonnegative
  have untouched (instruction : Instruction) :
      ¬ (modern.replay []).Attempts (.load [0xF0, 0x65]) instruction :=
    fun attempts => absurd attempts.timed (by simp)
  have shut : ¬ modern.IndexOpen loading := by
    change ¬ modern.IndexOpen ([] ++ [_])
    rw [modern.indexOpen_concat_iff]
    rintro (⟨instruction, executes, _⟩ | ⟨opened, _⟩)
    · exact untouched instruction executes.attempts
    · exact modern.not_indexOpen_nil opened
  have opened : modern.IndexOpen history :=
    (modern.indexOpen_concat_iff _ _).mpr (.inl ⟨_, ⟨_, stepped, rfl, _, rfl⟩, rfl⟩)
  have disciplined : modern.Disciplined history := by
    refine ((disciplined_nil modern).concat ?_ ?_).concat ?_ fun _ _ _ => shut
    · exact fun _ _ _ executes => absurd executes.attempts (untouched _)
    · exact fun _ attempts => absurd attempts (untouched _)
    · exact fun _ _ _ executes => absurd (executes.attempts.eq_of_stepped stepped rfl) (by simp)
  obtain ⟨answers, events, _⟩ := modes_agree_if_disciplined config disciplined
  exact ⟨shut, opened, answers, events⟩

end Chip8.System
