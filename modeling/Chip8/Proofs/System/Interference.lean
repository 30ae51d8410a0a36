import Chip8.Proofs.System.Failures
import Chip8.Proofs.System.Lockstep
import Mathlib.Data.List.Forall2

namespace Chip8

/-- This relates operations that are the same up to the times of ticks. -/
inductive Operation.Matches : Operation → Operation → Prop where
  | tick (elapsed otherElapsed : Binary64) : Matches (.tick elapsed) (.tick otherElapsed)
  | same (operation : Operation) : Matches operation operation

/-- This says that two configurations are equal but for the timers and their rate. -/
def Config.SameButTimers (config other : Config) : Prop :=
  other =
    { config with
      delayTimer := other.delayTimer
      soundTimer := other.soundTimer
      timerRate := other.timerRate
      ratePositive := other.ratePositive }

namespace System

/-- This says that the times of all ticks of a history are accounted for. -/
def Accounted (system : System) : List Operation → Prop
  | [] => True
  | operation :: rest =>
    (∀ elapsed, operation = .tick elapsed →
      ∃ timing count, system.timing.advance elapsed = (timing, .ok count)) ∧
    (system.after operation).Accounted rest

/-- This says that an instruction is executed in a history. -/
def Performs (system : System) (history : List Operation) (instruction : Instruction) : Prop :=
  ∃ event, some event ∈ system.events history ∧ event.Executes instruction

theorem performs_cons_iff (system : System) (operation : Operation) (rest : List Operation)
    (instruction : Instruction) :
    system.Performs (operation :: rest) instruction ↔
      system.Executes operation instruction ∨
        (system.after operation).Performs rest instruction := by
  simp only [Performs, Executes, events, List.mem_cons, or_and_right, exists_or, eq_comm]

/-- A history is accounted for up to every operation. -/
theorem Accounted.take {system : System} {history : List Operation}
    (accounted : system.Accounted history) (count : Nat) :
    system.Accounted (history.take count) := by
  induction history generalizing system count with
  | nil => simpa using accounted
  | cons operation rest ih =>
      cases count with
      | zero => trivial
      | succ count => exact ⟨accounted.1, ih accounted.2 count⟩

/-- A history performs what it performs up to an operation. -/
theorem Performs.of_take {system : System} {history : List Operation} {count : Nat}
    {instruction : Instruction} (performs : system.Performs (history.take count) instruction) :
    system.Performs history instruction := by
  induction history generalizing system count with
  | nil => simpa using performs
  | cons operation rest ih =>
      cases count with
      | zero =>
          obtain ⟨event, member, _⟩ := performs
          contradiction
      | succ count =>
          rw [List.take_succ_cons, performs_cons_iff] at performs
          rw [performs_cons_iff]
          exact performs.imp_right ih

/-- Equal indices stay equal in equal modes. -/
theorem following_indices {system : System} {accord : Accord}
    (known : accord.modes ∧ accord.indices) (operation : Operation) :
    (system.following accord operation).indices := by
  cases operation with
  | reset => trivial
  | tick elapsed =>
      change (accord.following (system.stepEvent? (.tick elapsed))).indices
      cases system.stepEvent? (.tick elapsed) with
      | none => exact known.2
      | some event => exact .inr ⟨known.2, .inl known.1⟩
  | _ => exact known.2

namespace Agree

variable {system other : System} {accord : Accord}

/-- Systems that differ in timers only keep their agreement in every operation in step but the read
of a delay timer that may differ. -/
theorem perform_timed (agree : system.Agree other accord) (known : accord.modes ∧ accord.indices)
    {operation otherOperation : Operation}
    (inStep : system.InStep other accord operation otherOperation)
    (blind : ∀ x, system.Executes operation (.readDelay x) → accord.delays) :
    (other.perform otherOperation).2 = (system.perform operation).2 ∧
      other.stepEvent? otherOperation = system.stepEvent? operation ∧
      (system.after operation).Agree (other.after otherOperation) accord := by
  obtain ⟨answer, event, next⟩ := agree.perform inStep fun event stepped =>
    { index := fun _ _ _ => known.2
      delay := fun x executes => blind x ⟨event, stepped, executes⟩
      shift := fun _ _ _ _ _ => .inl known.1 }
  exact ⟨answer, event, next.settle fun _ => following_indices known operation⟩

end Agree

/-- This is what is equal in runs of which the timers are not known. -/
def acrossTimers : Accord where
  modes := True
  indices := True
  delays := False
  sounds := False

/-- This is what is equal in runs of which the sound timers are not known. -/
def acrossSounds : Accord where
  modes := True
  indices := True
  delays := True
  sounds := False

/-- Matching operations whose times are accounted for are in step whatever the timers are. -/
theorem inStep_of_matches {system other : System} {operation otherOperation : Operation}
    (matched : operation.Matches otherOperation)
    (accounted : ∀ elapsed, operation = .tick elapsed →
      ∃ timing count, system.timing.advance elapsed = (timing, .ok count))
    (accountedOther : ∀ elapsed, otherOperation = .tick elapsed →
      ∃ timing count, other.timing.advance elapsed = (timing, .ok count)) :
    InStep system other acrossTimers operation otherOperation := by
  have ticks (elapsed otherElapsed : Binary64) (first : operation = .tick elapsed)
      (second : otherOperation = .tick otherElapsed) :
      InStep system other acrossTimers operation otherOperation := by
    obtain ⟨_, _, advanced⟩ := accounted elapsed first
    obtain ⟨_, _, advancedOther⟩ := accountedOther otherElapsed second
    rw [first, second]
    exact .apart advanced advancedOther ⟨id, id⟩
  cases matched with
  | tick elapsed otherElapsed => exact ticks elapsed otherElapsed rfl rfl
  | same =>
      cases operation with
      | tick elapsed => exact ticks elapsed elapsed rfl rfl
      | _ => exact .untimed _ nofun

/-- Matching histories that do not read the delay timer run alike whatever the timers are. -/
theorem Agree.acrossTimers {system other : System} (agree : system.Agree other acrossTimers)
    {history otherHistory : List Operation}
    (matched : List.Forall₂ Operation.Matches history otherHistory)
    (accounted : system.Accounted history) (accountedOther : other.Accounted otherHistory)
    (blind : ∀ x, ¬ system.Performs history (.readDelay x)) :
    other.answers otherHistory = system.answers history ∧
      other.events otherHistory = system.events history ∧
      (system.replay history).Agree (other.replay otherHistory) System.acrossTimers := by
  -- The systems vary in the induction, as their times drift apart with every pair of ticks.
  induction matched generalizing system other with
  | nil => exact ⟨rfl, rfl, agree⟩
  | cons matches_ _ ih =>
      simp only [performs_cons_iff, not_or] at blind
      obtain ⟨answer, event, next⟩ := agree.perform_timed ⟨trivial, trivial⟩
        (inStep_of_matches matches_ accounted.1 accountedOther.1)
        fun x executes => absurd executes (blind x).1
      obtain ⟨answers, events, last⟩ := ih next accounted.2 accountedOther.2 fun x => (blind x).2
      simp only [System.answers, System.events, answer, event, answers, events, replay_cons]
      exact ⟨trivial, trivial, last⟩

/-- Histories run alike whatever the sound timers are. -/
theorem Agree.acrossSounds {system other : System} (agree : system.Agree other acrossSounds)
    (history : List Operation) :
    other.answers history = system.answers history ∧
      other.events history = system.events history ∧
      (system.replay history).Agree (other.replay history) System.acrossSounds := by
  induction history generalizing system other with
  | nil => exact ⟨rfl, rfl, agree⟩
  | cons operation rest ih =>
      obtain ⟨answer, event, next⟩ := agree.perform_timed ⟨trivial, trivial⟩
        (InStep.same system other System.acrossSounds trivial operation) fun _ _ => trivial
      obtain ⟨answers, events, last⟩ := ih next
      simp only [System.answers, System.events, answer, event, answers, events, replay_cons]
      exact ⟨trivial, trivial, last⟩

/-- Time and timers show in a run only through an instruction that reads the delay timer: while none
is executed, runs with other timers, another rate and other times give the same answers and events,
and the systems differ in the timers and the accumulated time only. The sound timer never shows. -/
theorem timers_show_through_readDelay_only (config : Config) :
    (∀ (other : Config) (history otherHistory : List Operation),
      config.SameButTimers other → List.Forall₂ Operation.Matches history otherHistory →
      (powerOn config).Accounted history → (powerOn other).Accounted otherHistory →
      (∀ x, ¬ (powerOn config).Performs history (.readDelay x)) →
      (∀ x, ¬ (powerOn other).Performs otherHistory (.readDelay x)) ∧
      (powerOn other).answers otherHistory = (powerOn config).answers history ∧
      (powerOn other).events otherHistory = (powerOn config).events history ∧
      ∀ count,
        let now := (powerOn config).replay (history.take count)
        let otherNow := (powerOn other).replay (otherHistory.take count)
        otherNow =
          { now with
            config := other
            machine :=
              { now.machine with
                delayTimer := otherNow.machine.delayTimer
                soundTimer := otherNow.machine.soundTimer }
            timing := otherNow.timing }) ∧
    ∀ (soundTimer : UInt8) (history : List Operation),
      (powerOn { config with soundTimer }).answers history = (powerOn config).answers history ∧
      (powerOn { config with soundTimer }).events history = (powerOn config).events history ∧
      ∀ count,
        let now := (powerOn config).replay (history.take count)
        let otherNow := (powerOn { config with soundTimer }).replay (history.take count)
        otherNow =
          { now with
            config := { config with soundTimer }
            machine := { now.machine with soundTimer := otherNow.machine.soundTimer } } := by
  constructor
  · intro other history otherHistory same matched accounted accountedOther blind
    have configs : config.Agree other System.acrossTimers := by
      rw [same]
      exact ⟨rfl, rfl, fun _ => rfl, nofun, nofun, nofun⟩
    have agree : (powerOn config).Agree (powerOn other) System.acrossTimers := powerOn_agree configs
    obtain ⟨answers, events, _⟩ := agree.acrossTimers matched accounted accountedOther blind
    refine ⟨?_, answers, events, ?_⟩
    · rintro x ⟨event, member, executes⟩
      rw [events] at member
      exact blind x ⟨event, member, executes⟩
    · intro count now otherNow
      obtain ⟨_, _, alike⟩ := agree.acrossTimers (List.forall₂_take count matched)
        (accounted.take count) (accountedOther.take count)
        fun x performs => blind x performs.of_take
      have kept : otherNow.config = other := replay_config _ _
      have machines := alike.machine.rest
      rw [alike.machine.index trivial, alike.machine.modern trivial] at machines
      have equal := alike.rest
      rw [kept, machines] at equal
      exact equal
  · intro soundTimer history
    have configs : config.Agree { config with soundTimer } System.acrossSounds :=
      ⟨rfl, rfl, fun _ => rfl, fun _ => rfl, fun _ => rfl, nofun⟩
    have agree : (powerOn config).Agree (powerOn { config with soundTimer }) System.acrossSounds :=
      powerOn_agree configs
    obtain ⟨answers, events, _⟩ := agree.acrossSounds history
    refine ⟨answers, events, ?_⟩
    intro count now otherNow
    obtain ⟨_, _, alike⟩ := agree.acrossSounds (history.take count)
    have kept : otherNow.config = { config with soundTimer } := replay_config _ _
    have machines := alike.machine.rest
    rw [alike.machine.index trivial, alike.machine.modern trivial,
      alike.machine.delayTimer trivial] at machines
    have equal := alike.rest
    rw [kept, machines, alike.timing trivial] at equal
    exact equal

/-- A load of a register does not show the timers, which start and count down differently. -/
theorem timers_hidden_from_loadByte :
    let config : Config := {}
    let other : Config :=
      { delayTimer := 7, soundTimer := 9, timerRate := 50, ratePositive := by decide }
    let loading : Operation := .load [0x60, 0x05]
    (powerOn other).answers [loading, .tick (.finite 40)] =
        (powerOn config).answers [loading, .tick (.finite 17)] ∧
      (powerOn { config with soundTimer := 9 }).answers [loading, .tick (.finite 17)] =
        (powerOn config).answers [loading, .tick (.finite 17)] := by
  intro config other loading
  have accounted (config : Config) (elapsed : Binary64) (timing : Timing) (count : Int)
      (advanced : (powerOn config).timing.advance elapsed = (timing, .ok count)) :
      (powerOn config).Accounted [loading, .tick elapsed] := by
    refine ⟨nofun, ?_, trivial⟩
    rintro _ ⟨⟩
    rw [after, perform_load]
    exact ⟨timing, count, advanced⟩
  have first := Timing.advance_first
  have second : ({ rate := 50, accumulated := .finite 0 } : Timing).advance (.finite 40) =
      ({ rate := 50, accumulated := .finite 0 }, .ok 2) := by decide +kernel
  let decoded : Decoded := { word := 0x6005, instruction := .loadByte (.ofNat 0) 5 }
  have meets : ((powerOn config).after loading).machine.Meets decoded :=
    powerOn_meets _ (by decide) (by decide) (by decide) (by decide)
  have stepped : ((powerOn config).after loading).stepEvent? (.tick (.finite 17)) =
      some { pc := ((powerOn config).after loading).machine.pc, instruction := some decoded,
             outcome := .executed } := by
    have idle : ((powerOn config).after loading).pending = none := by
      rw [after, perform_load]
      rfl
    exact stepEvent_executes idle meets rfl rfl (by decide)
  have blind (x : Register) :
      ¬ (powerOn config).Performs [loading, .tick (.finite 17)] (.readDelay x) := by
    rw [performs_cons_iff, performs_cons_iff]
    rintro (executes | executes | ⟨event, member, _⟩)
    · exact absurd executes.attempts.timed (by simp)
    · exact absurd (executes.attempts.eq_of_stepped stepped rfl) (by simp)
    · contradiction
  obtain ⟨unseen, silent⟩ := timers_show_through_readDelay_only config
  obtain ⟨_, answers, _⟩ := unseen other _ _ rfl
    (.cons (.same loading) (.cons (.tick (.finite 17) (.finite 40)) .nil))
    (accounted config _ _ _ first) (accounted other _ _ _ second) blind
  exact ⟨answers, (silent 9 _).1⟩

end System

end Chip8
