import Chip8.Proofs.Machine.Sources
import Chip8.Proofs.System.Events
import Chip8.Proofs.System.Failures
import Chip8.Proofs.System.Histories
import Mathlib.Logic.Function.Iterate

namespace Chip8

/-- This is the random byte at a position of the stream of a seed: the key was split as many times
and the byte is that of the half that is spent next. -/
def Random.stream (seed : Int) (position : Nat) : UInt8 :=
  Random.byte (Random.next^[position] (Random.ofSeed seed))

namespace System

/-- This is the number of random bytes that a history draws. -/
def rollsIn (system : System) (history : List Operation) : Nat :=
  (system.events history).countP fun event => event.any fun event =>
    event.executesKind Instruction.rolls

theorem rollsIn_concat (system : System) (history : List Operation) (operation : Operation) :
    system.rollsIn (history ++ [operation]) =
      system.rollsIn history +
        if (system.replay history).executesKind operation Instruction.rolls then 1 else 0 := by
  rw [rollsIn, events_concat, List.countP_append, List.countP_singleton]
  rfl

/-- A step splits the key exactly when it draws a random byte. -/
theorem stepOrPoll_random (system : System) :
    system.stepOrPoll.1.machine.random =
      if system.stepOrPoll.2.executesKind Instruction.rolls then Random.next system.machine.random
      else system.machine.random := by
  have advances := system.stepOrPoll_advances
  generalize system.stepOrPoll = advanced at advances ⊢
  cases advances with
  | failed idle instruction fault faults =>
      simp only [fail]
      cases system.config.errorPolicy <;> rfl
  | parked => rfl
  | executed idle decoded machine meets moves executed =>
      obtain ⟨word, instruction⟩ := decoded
      cases rolls : instruction.rolls with
      | false =>
          have kept := Machine.execute_keeps_random executed rolls
          simp [StepEvent.executesKind, rolls, kept, Machine.skip]
      | true =>
          cases instruction
          case random x byte =>
            have next := (Machine.execute_random executed).1
            simp [StepEvent.executesKind, rolls, next, Machine.skip]
          all_goals contradiction
  | waiting => rfl
  | resumed => rfl

/-- An operation other than a reset splits the key exactly when it draws a random byte. -/
theorem after_random (system : System) {operation : Operation} (unreset : operation ≠ .reset) :
    (system.after operation).machine.random =
      if system.executesKind operation Instruction.rolls then Random.next system.machine.random
      else system.machine.random := by
  have proceeds := system.after_proceeds unreset
  unfold executesKind
  generalize system.stepEvent? operation = event, system.after operation = next at proceeds ⊢
  cases proceeds with
  | stepped => exact system.stepOrPoll_random
  | still => rfl

/-- A random instruction stores the byte of the key under its mask. -/
theorem after_register_of_random {system : System} {operation : Operation} {x : Register}
    {byte : UInt8} (executes : system.Executes operation (.random x byte)) :
    (system.after operation).machine.register x = Random.byte system.machine.random &&& byte := by
  obtain ⟨elapsed, rfl⟩ := executes.attempts.timed
  obtain ⟨nonnegative, stepped⟩ := (system.executes_tick_iff elapsed _).mp executes
  obtain ⟨machine, executed, next⟩ := stepOrPoll_of_executes stepped
  obtain ⟨_, _, _, same⟩ := system.after_tick_steps nonnegative
  rw [same, next]
  exact (Machine.execute_random executed).2

/-- After every history the key of the seed was split once for every random byte since the last
reset. -/
theorem replay_random (config : Config) (history : List Operation) :
    ((powerOn config).replay history).machine.random =
      Random.next^[(powerOn config).rollsIn (sinceReset history)] (Random.ofSeed config.seed) := by
  -- A reset restores the key of the seed, and any other last operation splits it at most once.
  induction history using List.reverseRec with
  | nil => rfl
  | append_singleton history last ih =>
      by_cases reset : last = .reset
      · rw [reset, replay_concat_reset, sinceReset_concat_reset]
        rfl
      · rw [sinceReset_concat history reset, rollsIn_concat, replay_sinceReset, replay_concat,
          after_random _ reset, ih]
        split
        · rw [Function.iterate_succ_apply']
        · rfl

/-- This is the same system under another seed that has drawn no random byte. -/
def reseeded (system : System) (seed : Int) : System :=
  { system with
    config := { system.config with seed }
    machine := system.machine.withRandom (Random.ofSeed seed) }

theorem machine_reseeded (config : Config) (seed : Int) :
    config.machine.withRandom (Random.ofSeed seed) = { config with seed }.machine := rfl

theorem powerOn_reseeded (config : Config) (seed : Int) :
    (powerOn config).reseeded seed = powerOn { config with seed } := rfl

/-- A step that draws no random byte does not look at the key. -/
theorem stepOrPoll_reseeded {system : System}
    (silent : system.stepOrPoll.2.executesKind Instruction.rolls = false) (seed : Int) :
    (system.reseeded seed).stepOrPoll =
      (system.stepOrPoll.1.reseeded seed, system.stepOrPoll.2) := by
  have transfers {decoded : Decoded} (meets : system.machine.Meets decoded) :
      (system.reseeded seed).machine.Meets decoded := ⟨meets.1.transfer rfl rfl, meets.2⟩
  have advances := system.stepOrPoll_advances
  generalize system.stepOrPoll = advanced at advances silent ⊢
  cases advances with
  | failed idle instruction fault faults =>
      rw [(@Advances.failed (system.reseeded seed) idle instruction fault
        (faults.transfer rfl rfl rfl rfl)).stepOrPoll_eq]
      simp only [fail, reseeded]
      cases system.config.errorPolicy <;> rfl
  | parked idle decoded meets blocks =>
      exact (@Advances.parked (system.reseeded seed) idle decoded (transfers meets)
        blocks).stepOrPoll_eq
  | executed idle decoded machine meets moves executed =>
      have executedOther := system.machine.skip.execute_withRandom (Random.ofSeed seed) silent
      rw [executed] at executedOther
      exact (@Advances.executed (system.reseeded seed) idle decoded _ (transfers meets) moves
        executedOther).stepOrPoll_eq
  | waiting decoded parked up =>
      exact (@Advances.waiting (system.reseeded seed) decoded parked up).stepOrPoll_eq
  | resumed decoded parked key down =>
      exact (@Advances.resumed (system.reseeded seed) decoded parked key down).stepOrPoll_eq

/-- A tick that draws no random byte does not look at the key. -/
theorem tick_reseeded {system : System} {elapsed : Binary64}
    (silent : system.executesKind (.tick elapsed) Instruction.rolls = false) (seed : Int) :
    (system.reseeded seed).tick elapsed =
      ((system.tick elapsed).1.reseeded seed, (system.tick elapsed).2) := by
  apply tick_transfer (fun system => system.reseeded seed) (fun _ _ => rfl) (fun _ _ _ => rfl) rfl
  intro nonnegative
  rw [executesKind, stepEvent_tick nonnegative] at silent
  exact stepOrPoll_reseeded silent seed

/-- An operation that draws no random byte does not look at the key. -/
theorem perform_reseeded {system : System} {operation : Operation}
    (silent : system.executesKind operation Instruction.rolls = false) (seed : Int) :
    (system.reseeded seed).perform operation =
        ((system.after operation).reseeded seed, (system.perform operation).2) ∧
      (system.reseeded seed).stepEvent? operation = system.stepEvent? operation := by
  cases operation with
  | tick elapsed =>
      have ticked := tick_reseeded silent seed
      have policy : (system.reseeded seed).config.errorPolicy = system.config.errorPolicy := rfl
      simp only [perform, after, stepEvent?, ticked, policy, and_self]
  | setKey key pressed =>
      rw [after, perform_setKey, perform_setKey]
      exact ⟨rfl, rfl⟩
  | load program =>
      rw [after, perform_load, perform_load]
      exact ⟨rfl, rfl⟩
  | consumeFrame => exact ⟨rfl, rfl⟩
  | reset =>
      have reset : (system.reseeded seed).after .reset = (system.after .reset).reseeded seed := by
        rw [after_reset, after_reset, reseeded, reseeded, machine_reseeded]
      exact ⟨Prod.ext reset rfl, rfl⟩

/-- A history that draws no random byte does not look at the key. -/
theorem replay_reseeded {system : System} {history : List Operation}
    (silent : system.rollsIn history = 0) (seed : Int) :
    (system.reseeded seed).answers history = system.answers history ∧
      (system.reseeded seed).events history = system.events history ∧
      (system.reseeded seed).replay history = (system.replay history).reseeded seed := by
  induction history generalizing system with
  | nil => exact ⟨rfl, rfl, rfl⟩
  | cons operation rest ih =>
      rw [rollsIn, events, List.countP_cons, Nat.add_eq_zero_iff] at silent
      have quiet : system.executesKind operation Instruction.rolls = false := by
        simpa [executesKind] using silent.2
      obtain ⟨performed, event⟩ := perform_reseeded quiet seed
      have next : (system.reseeded seed).after operation =
          (system.after operation).reseeded seed := by rw [after, performed]
      obtain ⟨answers, events, last⟩ := ih silent.1
      simp only [System.answers, System.events, replay_cons, performed, event, next, answers,
        events, last, and_self]

/-- The random numbers of a run are those of its seed, one for every random instruction that was
executed since the last reset, whatever else the run does. The seed shows in the key only until the
first of them. -/
theorem random_stream_of_seed (config : Config) (history : List Operation) :
    let now := (powerOn config).replay history
    let rolled := (powerOn config).rollsIn (sinceReset history)
    now.machine.random = Random.next^[rolled] (Random.ofSeed config.seed) ∧
      (∀ operation x byte, now.Executes operation (.random x byte) →
        (now.after operation).machine.register x = Random.stream config.seed rolled &&& byte ∧
          (powerOn config).rollsIn (sinceReset (history ++ [operation])) = rolled + 1) ∧
      (∀ (other : Config) (otherHistory : List Operation), other.seed = config.seed →
        (powerOn other).rollsIn (sinceReset otherHistory) = rolled →
        let otherNow := (powerOn other).replay otherHistory
        ∀ operation x byte, otherNow.Executes operation (.random x byte) →
          (otherNow.after operation).machine.register x =
            Random.stream config.seed rolled &&& byte) ∧
      ∀ seed, (powerOn config).rollsIn history = 0 →
        (powerOn { config with seed }).answers history = (powerOn config).answers history ∧
        (powerOn { config with seed }).events history = (powerOn config).events history ∧
        (powerOn { config with seed }).replay history =
          { now with
            config := { config with seed }
            machine := { now.machine with random := Random.ofSeed seed } } := by
  have stores (config : Config) (history : List Operation) {operation : Operation} {x : Register}
      {byte : UInt8} (executes : ((powerOn config).replay history).Executes operation
        (.random x byte)) :
      (((powerOn config).replay history).after operation).machine.register x =
        Random.stream config.seed ((powerOn config).rollsIn (sinceReset history)) &&& byte := by
    rw [after_register_of_random executes, replay_random, Random.stream]
  intro now rolled
  refine ⟨replay_random config history, ?_, ?_, ?_⟩
  · intro operation x byte executes
    refine ⟨stores config history executes, ?_⟩
    obtain ⟨elapsed, rfl⟩ := executes.attempts.timed
    have rolls := (now.executesKind_iff _ Instruction.rolls).mpr ⟨_, executes, rfl⟩
    rw [sinceReset_concat history (by simp), rollsIn_concat, replay_sinceReset, if_pos rolls]
  · intro other otherHistory seeds counts otherNow operation x byte executes
    rw [← seeds, ← counts]
    exact stores other otherHistory executes
  · intro seed silent
    have kept : now.config = config := replay_config _ history
    obtain ⟨answers, events, last⟩ := replay_reseeded silent seed
    rw [powerOn_reseeded] at answers events last
    refine ⟨answers, events, last.trans ?_⟩
    rw [reseeded, kept]
    rfl

/-- The first random byte of the zero seed is fourteen, also in another mode and under another
policy. -/
theorem first_random_of_zero_seed :
    let config : Config := {}
    let other : Config := { errorPolicy := .raise, modern := false }
    let drawing : Operation := .load [0xC0, 0xFF]
    let drawingOther : Operation := .load [0xC1, 0x06]
    (((powerOn config).replay [drawing]).after (.tick (.finite 17))).machine.register (.ofNat 0) =
        14 ∧
      (((powerOn other).replay [drawingOther]).after (.tick (.finite 40))).machine.register
        (.ofNat 1) = 6 ∧
      (powerOn { config with seed := 7 }).answers [drawing] =
        (powerOn config).answers [drawing] := by
  intro config other drawing drawingOther
  have executes : ((powerOn config).replay [drawing]).Executes (.tick (.finite 17))
      (.random (.ofNat 0) 0xFF) :=
    executes_first config ⟨0xC0FF, .random (.ofNat 0) 0xFF⟩ (by decide) (by decide) (by decide) rfl
      rfl (by decide)
  have executesOther : ((powerOn other).replay [drawingOther]).Executes (.tick (.finite 40))
      (.random (.ofNat 1) 0x06) :=
    executes_first other ⟨0xC106, .random (.ofNat 1) 0x06⟩ (by decide) (by decide) (by decide) rfl
      rfl (by decide)
  have first : Random.stream 0 0 = 14 := by decide +kernel
  obtain ⟨_, stores, agrees, blind⟩ := random_stream_of_seed config [drawing]
  refine ⟨?_, ?_, (blind 7 rfl).1⟩
  · rw [(stores _ _ _ executes).1]
    exact congrArg (· &&& 0xFF) first
  · rw [agrees other [drawingOther] rfl rfl _ _ _ executesOther]
    exact congrArg (· &&& 0x06) first

end System

end Chip8
