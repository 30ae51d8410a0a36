import Chip8.Session
import Chip8.Proofs.System.Tick

namespace Chip8

/-- This says that a tick failed and left the system as it was, up to the timers and the policy. -/
structure System.FailedTick (system ticked : System) (event : StepEvent) (fault : Fault)
    (count : Int) : Prop where
  place : event.pc = system.machine.pc
  located : event.fault? = some { fault, address := some system.machine.pc }
  pending : ticked.pending = system.pending
  dirty : ticked.dirty = system.dirty
  halted : system.config.errorPolicy = .halt →
    ticked.machine = { system.machine with halted := true }.decay count
  skipped : system.config.errorPolicy = .skip →
    ticked.machine =
      { system.machine with
        pc := UInt16.ofNat ((system.machine.pc.toNat + 2) % 65536) }.decay count
  raised : system.config.errorPolicy = .raise → ticked.machine = system.machine.decay count

/-- A step is reported at the address in front of it. -/
theorem System.stepOrPoll_pc (system : System) :
    system.stepOrPoll.2.pc = system.machine.pc := by
  have advances := system.stepOrPoll_advances
  generalize system.stepOrPoll = advanced at advances ⊢
  cases advances <;> rfl

/-- A step fails exactly when an idle system stands in front of a fault. -/
theorem System.stepOrPoll_failed_iff (system : System) (fault : Fault) :
    system.stepOrPoll.2.outcome = .failed fault ↔
      system.pending = none ∧ ∃ instruction, system.machine.Faults instruction fault := by
  constructor
  · have advances := system.stepOrPoll_advances
    generalize system.stepOrPoll = advanced at advances
    intro failed
    cases advances with
    | failed idle instruction met faults =>
        cases failed
        exact ⟨idle, instruction, faults⟩
    | parked => contradiction
    | executed => contradiction
    | waiting => contradiction
    | resumed => contradiction
  · rintro ⟨idle, instruction, faults⟩
    rw [stepOrPoll_idle idle, step_faults faults]
    rfl

theorem UInt16.add_two_wraps (word : UInt16) :
    word + 2 = UInt16.ofNat ((word.toNat + 2) % 65536) := by
  apply UInt16.toNat_inj.mp
  rw [UInt16.toNat_add, UInt16.toNat_ofNat']
  exact (Nat.mod_mod _ _).symm

/-- A failed step leaves the system alone up to the policy. -/
theorem System.tick_failedTick {system : System} {elapsed : Binary64} {timing : Timing}
    {count : Int} (accounted : system.timing.advance elapsed = (timing, .ok count)) {fault : Fault}
    (failed : system.stepOrPoll.2.outcome = .failed fault) :
    system.FailedTick (system.tick elapsed).1 system.stepOrPoll.2 fault count := by
  obtain ⟨idle, instruction, faults⟩ := (system.stepOrPoll_failed_iff fault).mp failed
  rw [tick_observed accounted, stepOrPoll_idle idle, step_faults faults]
  constructor
  · rfl
  · rfl
  · rfl
  · rfl
  · intro policy
    simp only [fail, applyPolicy, policy]
  · intro policy
    simp only [fail, applyPolicy, policy, Machine.skip, UInt16.add_two_wraps]
  · intro policy
    simp only [fail, applyPolicy, policy]

/-- A failed event has its fault at its address, and no other event has one. -/
theorem StepEvent.fault_eq_some_iff (event : StepEvent) (located : LocatedFault) :
    event.fault? = some located ↔
      ∃ fault, event.outcome = .failed fault ∧ located = { fault, address := some event.pc } := by
  unfold StepEvent.fault? StepOutcome.fault?
  cases event.outcome <;> simp [eq_comm]

/-- An observed fault reaches the caller as an error under the raising policy only. -/
theorem System.TickResult.answer_error_iff (policy : ErrorPolicy) (event : StepEvent)
    (error : Error) :
    (TickResult.observed event).answer policy = .error error ↔
      policy = .raise ∧ ∃ located, event.fault? = some located ∧ error = .fault located := by
  unfold answer
  cases faulty : event.fault? <;> cases policy <;> simp [faulty, eq_comm]

/-- An observed event is the only one that its caller gets. -/
theorem System.TickResult.answer_ok {policy : ErrorPolicy} {event returned : StepEvent}
    (answered : (TickResult.observed event).answer policy = .ok returned) : returned = event := by
  unfold answer at answered
  cases faulty : event.fault? <;> cases policy <;> simp_all

/-- A session whose time is accounted for steps, counts the timers down, warns, tells the observers
and only then answers. -/
theorem Session.tick_observed {session : Session} (clock : Binary64) {elapsed : Binary64}
    {timing : Timing} {count : Int}
    (accounted : session.system.timing.advance elapsed = (timing, .ok count)) :
    session.tick clock elapsed =
      (({ session with system := (session.system.tick elapsed).1 }.warn clock
          session.system.stepOrPoll.2).observe clock session.system.stepOrPoll.2,
        (System.TickResult.observed session.system.stepOrPoll.2).answer
          session.system.config.errorPolicy) := by
  unfold tick
  simp only [System.tick_observed accounted, System.stepOrPoll_timing]
  rfl

/-- A tick fails exactly in front of a fault. A failed tick leaves the system alone up to the timers
and the policy, and its error reaches the caller only under the raising policy and after the timers
and the observers. -/
theorem Session.tick_fails_iff_faults (session : Session) (clock elapsed : Binary64)
    (timing : Timing) (count : Int)
    (accounted : session.system.timing.advance elapsed = (timing, .ok count)) :
    ∃ event : StepEvent,
      (session.system.tick elapsed).2 = .observed event ∧
      (∀ fault, event.outcome = .failed fault ↔
        session.system.pending = none ∧
          ∃ instruction, session.system.machine.Faults instruction fault) ∧
      (∀ fault, event.outcome = .failed fault →
        session.system.FailedTick (session.system.tick elapsed).1 event fault count) ∧
      (session.tick clock elapsed).1 =
        ({ session with system := (session.system.tick elapsed).1 }.warn clock event).observe
          clock event ∧
      (∀ error, (session.tick clock elapsed).2 = .error error ↔
        session.system.config.errorPolicy = .raise ∧
          ∃ fault, event.outcome = .failed fault ∧
            error = .fault { fault, address := some session.system.machine.pc }) ∧
      ∀ returned, (session.tick clock elapsed).2 = .ok returned → returned = event := by
  have ticked := Session.tick_observed clock accounted
  refine ⟨session.system.stepOrPoll.2, by rw [System.tick_observed accounted],
    session.system.stepOrPoll_failed_iff,
    fun fault failed => System.tick_failedTick accounted failed, by rw [ticked], ?_, ?_⟩
  · intro error
    rw [ticked, System.TickResult.answer_error_iff]
    simp only [StepEvent.fault_eq_some_iff, System.stepOrPoll_pc]
    apply and_congr_right
    intro _
    constructor
    · rintro ⟨_, ⟨fault, failed, rfl⟩, rfl⟩
      exact ⟨fault, failed, rfl⟩
    · rintro ⟨fault, failed, rfl⟩
      exact ⟨_, ⟨fault, failed, rfl⟩, rfl⟩
  · intro returned answered
    rw [ticked] at answered
    exact System.TickResult.answer_ok answered

/-- Seventeen milliseconds from the start complete one step of sixty a second. -/
theorem Timing.advance_first :
    ({ rate := 60, accumulated := .finite 0 } : Timing).advance (.finite 17) =
      ({ rate := 60, accumulated := .finite 20 }, .ok 1) := by decide +kernel

/-- A system without a program stands in front of the empty word, which matches no instruction. -/
theorem System.powerOn_faults (config : Config) :
    (powerOn config).machine.Faults none (.unsupportedOpcode 0) := by
  have holds : (powerOn config).machine.HoldsWord 0 := by
    have inside : (powerOn config).machine.pc.toNat + 1 < 4096 := by
      change (0x200 : UInt16).toNat + 1 < 4096
      decide
    refine ⟨Nat.lt_of_succ_lt inside, inside, ?_⟩
    simp only [powerOn, Config.machine, Machine.powerOn, Machine.initialMemory,
      Vector.getElem_ofFn]
    decide
  exact .decode 0 holds ((Instruction.ofWord_eq_none_iff 0).mp (by decide))

/-- A session without a program raises the fault of the empty word at the program start. -/
theorem Session.tick_raises_emptyWord :
    let system := System.powerOn { errorPolicy := .raise }
    let session : Session :=
      { system, statistics := .empty, started := .finite 0, printed := #[] }
    system.timing.advance (.finite 17) = ({ rate := 60, accumulated := .finite 20 }, .ok 1) ∧
      (session.tick (.finite 0) (.finite 17)).2 =
        .error (.fault { fault := .unsupportedOpcode 0, address := some 0x200 }) := by
  intro system session
  have accounted : system.timing.advance (.finite 17) =
      ({ rate := 60, accumulated := .finite 20 }, .ok 1) := Timing.advance_first
  obtain ⟨event, _, fails, _, _, raises, _⟩ :=
    tick_fails_iff_faults session (.finite 0) (.finite 17) _ 1 accounted
  have faults : system.machine.Faults none (.unsupportedOpcode 0) := System.powerOn_faults _
  exact ⟨accounted, (raises _).mpr ⟨rfl, _, (fails _).mpr ⟨rfl, none, faults⟩, rfl⟩⟩

end Chip8
