import Chip8.Proofs.System.Bounds
import Chip8.Proofs.System.Interference

namespace Chip8

namespace Operation

def isTick : Operation → Bool
  | .tick _ => true
  | _ => false

/-- This says that an operation is a tick or an event of a key. -/
def isTickOrKey : Operation → Bool
  | .tick _ => true
  | .setKey _ _ => true
  | _ => false

/-- This counts the ticks of a history. -/
def ticksIn (history : List Operation) : Nat :=
  history.countP isTick

theorem ticksIn_concat_tick (history : List Operation) (elapsed : Binary64) :
    ticksIn (history ++ [.tick elapsed]) = ticksIn history + 1 := by
  simp [ticksIn, isTick]

theorem ticksIn_replicate_tick (times : Nat) (elapsed : Binary64) :
    ticksIn (List.replicate times (.tick elapsed)) = times :=
  List.countP_replicate

theorem ticksIn_concat_setKey (history : List Operation) (key : Int) (pressed : Bool) :
    ticksIn (history ++ [.setKey key pressed]) = ticksIn history := by
  simp [ticksIn, isTick]

end Operation

/-- This is the number of ticks, each of which moves on by two, from an address to the end of all
addresses. -/
def Machine.ticksToWrap (machine : Machine) : Nat :=
  (65536 - machine.pc.toNat + 1) / 2

/-- A machine stands in front of one word only. -/
theorem Machine.HoldsWord.unique {machine : Machine} {word other : UInt16}
    (holds : machine.HoldsWord word) (holdsOther : machine.HoldsWord other) : word = other := by
  obtain ⟨_, _, value⟩ := holds
  obtain ⟨_, _, valueOther⟩ := holdsOther
  exact UInt16.toNat_inj.mp (value.trans valueOther.symm)

namespace System

/-- This says that a system has only moved to an address since, while keys and time went on. -/
def MovedTo (system later : System) (address : Nat) : Prop :=
  later =
    { system with
      machine :=
        { system.machine with
          pc := UInt16.ofNat address
          keypad := later.machine.keypad
          delayTimer := later.machine.delayTimer
          soundTimer := later.machine.soundTimer }
      timing := later.timing }

/-- A reachable system behind the last word of memory waits for no key. -/
theorem Reachable.idle {system : System} (reachable : system.Reachable)
    (outside : 4095 ≤ system.machine.pc.toNat) : system.pending = none := by
  obtain ⟨operations, replayed⟩ := reachable
  have bounded := replay_bounded system.config operations
  rw [replayed] at bounded
  cases parked : system.pending with
  | none => rfl
  | some decoded =>
      have inside := (bounded.parked decoded parked).2
      omega

/-- Behind the last word of memory a tick fails to fetch and moves on by two, modulo `2 ^ 16`. -/
theorem tick_outside {system : System} (idle : system.pending = none)
    (policy : system.config.errorPolicy = .skip) (outside : 4095 ≤ system.machine.pc.toNat)
    {elapsed : Binary64} {timing : Timing} {count : Int}
    (accounted : system.timing.advance elapsed = (timing, .ok count)) :
    system.tick elapsed =
      ({ system with
          machine :=
            { system.machine with
              pc := UInt16.ofNat ((system.machine.pc.toNat + 2) % 65536) }.decay count
          timing },
        .observed
          { pc := system.machine.pc
            instruction := none
            outcome := .failed (.outOfRange system.machine.pc.toNat 2) }) := by
  rw [tick_observed accounted, stepOrPoll_idle idle, step_faults (.fetch outside)]
  simp only [fail, applyPolicy, policy, Machine.skip, UInt16.add_two_wraps]

/-- A history is accounted for when it is so before its last operation, and that is no tick or its
time is accounted for too. -/
theorem accounted_concat_iff (system : System) (history : List Operation) (last : Operation) :
    system.Accounted (history ++ [last]) ↔
      system.Accounted history ∧
        ∀ elapsed, last = .tick elapsed →
          ∃ timing count, (system.replay history).timing.advance elapsed = (timing, .ok count) := by
  induction history generalizing system with
  | nil => simp [Accounted]
  | cons operation rest ih =>
      rw [List.cons_append, Accounted, ih, Accounted, replay_cons, and_assoc]

variable {system : System}

/-- Every tick moves a system behind memory on by two, until the addresses end. -/
theorem movedTo_replay (idle : system.pending = none) (policy : system.config.errorPolicy = .skip)
    (outside : 4095 ≤ system.machine.pc.toNat) {later : List Operation}
    (plays : ∀ operation ∈ later, operation.isTickOrKey = true) (accounted : system.Accounted later)
    (within : Operation.ticksIn later ≤ system.machine.ticksToWrap) :
    system.MovedTo (system.replay later)
      ((system.machine.pc.toNat + 2 * Operation.ticksIn later) % 65536) := by
  have bound := system.machine.pc.toNat_lt
  unfold Machine.ticksToWrap at within
  induction later using List.reverseRec with
  | nil =>
      have place : UInt16.ofNat (system.machine.pc.toNat % 65536) = system.machine.pc := by
        rw [Nat.mod_eq_of_lt bound, UInt16.ofNat_toNat]
      simp only [MovedTo, replay_nil, Operation.ticksIn, List.countP_nil, Nat.mul_zero,
        Nat.add_zero, place]
  | append_singleton later last ih =>
      obtain ⟨accountedBefore, accountedLast⟩ :=
        (system.accounted_concat_iff later last).mp accounted
      simp only [List.forall_mem_append, List.forall_mem_singleton] at plays
      cases last with
      | tick elapsed =>
          rw [Operation.ticksIn_concat_tick] at within ⊢
          have moved := ih plays.1 accountedBefore (by omega)
          obtain ⟨timing, count, advanced⟩ := accountedLast elapsed rfl
          rw [replay_concat, after_tick]
          generalize system.replay later = now at moved advanced ⊢
          have place : now.machine.pc.toNat =
              system.machine.pc.toNat + 2 * Operation.ticksIn later := by
            rw [moved]
            simp only [UInt16.toNat_ofNat']
            omega
          have idleNow : now.pending = none := by rw [moved, idle]
          have policyNow : now.config.errorPolicy = .skip := by rw [moved, policy]
          rw [tick_outside idleNow policyNow (by omega) advanced, place]
          unfold MovedTo
          rw [moved]
          rfl
      | setKey key pressed =>
          rw [Operation.ticksIn_concat_setKey] at within ⊢
          have moved := ih plays.1 accountedBefore within
          rw [replay_concat, after, perform_setKey]
          generalize system.replay later = now at moved ⊢
          unfold MovedTo
          rw [moved]
      | load program => exact absurd plays.2 Bool.false_ne_true
      | consumeFrame => exact absurd plays.2 Bool.false_ne_true
      | reset => exact absurd plays.2 Bool.false_ne_true

/-- The step of an idle system in front of a word is about that word. -/
theorem stepOrPoll_reads (idle : system.pending = none) {word : UInt16}
    (holds : system.machine.HoldsWord word) :
    system.stepOrPoll.2.outcome = .failed (.unsupportedOpcode word) ∨
      ∃ decoded, decoded.word = word ∧ system.stepOrPoll.2.instruction = some decoded := by
  have advances := system.stepOrPoll_advances
  generalize system.stepOrPoll = advanced at advances ⊢
  cases advances with
  | failed _ instruction fault faults =>
      cases faults with
      | fetch outside =>
          obtain ⟨_, inside, _⟩ := holds
          omega
      | decode other holdsOther =>
          rw [holds.unique holdsOther]
          exact .inl rfl
      | execute decoded fault meets => exact .inr ⟨decoded, meets.1.unique holds, rfl⟩
  | parked _ decoded meets => exact .inr ⟨decoded, meets.1.unique holds, rfl⟩
  | executed _ decoded machine meets => exact .inr ⟨decoded, meets.1.unique holds, rfl⟩
  | waiting decoded parked =>
      rw [idle] at parked
      contradiction
  | resumed decoded parked =>
      rw [idle] at parked
      contradiction

/-- Under the skipping policy a machine behind the last word of memory comes back into it. Until
then every tick fails to fetch, at the next but one address each time, and changes nothing but `pc`
and the timers. Then `pc` is zero or one and the next tick takes the word from there. -/
theorem fails_until_wrapped (reachable : system.Reachable)
    (policy : system.config.errorPolicy = .skip) (outside : 4095 ≤ system.machine.pc.toNat)
    (later : List Operation) (plays : ∀ operation ∈ later, operation.isTickOrKey = true)
    (accounted : system.Accounted later) :
    let now := system.replay later
    let address := system.machine.pc.toNat + 2 * Operation.ticksIn later
    (Operation.ticksIn later < system.machine.ticksToWrap →
      address < 65536 ∧ system.MovedTo now address ∧
        ∀ elapsed timing count, now.timing.advance elapsed = (timing, .ok count) →
          now.tick elapsed =
            ({ now with
                machine :=
                  { now.machine with pc := UInt16.ofNat ((address + 2) % 65536) }.decay count
                timing },
              .observed
                { pc := UInt16.ofNat address
                  instruction := none
                  outcome := .failed (.outOfRange address 2) })) ∧
      (Operation.ticksIn later = system.machine.ticksToWrap →
        system.MovedTo now (system.machine.pc.toNat % 2) ∧
          ∃ word, now.machine.HoldsWord word ∧
            now.machine.fetch = .ok (now.machine.skip, word) ∧
            ∀ elapsed timing count, now.timing.advance elapsed = (timing, .ok count) →
              ∃ event, (now.tick elapsed).2 = .observed event ∧
                event.pc.toNat = system.machine.pc.toNat % 2 ∧
                (event.outcome = .failed (.unsupportedOpcode word) ∨
                  ∃ decoded, decoded.word = word ∧ event.instruction = some decoded)) := by
  intro now address
  have bound := system.machine.pc.toNat_lt
  have idle := reachable.idle outside
  have moves : Operation.ticksIn later ≤ system.machine.ticksToWrap →
      system.MovedTo now (address % 65536) :=
    movedTo_replay idle policy outside plays accounted
  have idleAt {place : Nat} (moved : system.MovedTo now place) : now.pending = none := by
    rw [moved, idle]
  have place {place : Nat} (moved : system.MovedTo now place) :
      now.machine.pc = UInt16.ofNat place := by rw [moved]
  constructor
  · intro before
    have inside : address < 65536 := by
      simp only [Machine.ticksToWrap] at before
      omega
    have moved := moves (Nat.le_of_lt before)
    rw [Nat.mod_eq_of_lt inside] at moved
    refine ⟨inside, moved, ?_⟩
    intro elapsed timing count advanced
    have pc : now.machine.pc.toNat = address := by
      rw [place moved, UInt16.toNat_ofNat_of_lt' inside]
    have policyNow : now.config.errorPolicy = .skip := by rw [moved, policy]
    rw [tick_outside (idleAt moved) policyNow (by omega) advanced, pc, place moved]
  · intro wrapped
    have moved := moves (Nat.le_of_eq wrapped)
    have start : address % 65536 = system.machine.pc.toNat % 2 := by
      simp only [Machine.ticksToWrap] at wrapped
      omega
    rw [start] at moved
    have small : system.machine.pc.toNat % 2 < UInt16.size :=
      Nat.lt_trans (Nat.mod_lt _ Nat.two_pos) (by decide)
    have pc : now.machine.pc.toNat = system.machine.pc.toNat % 2 := by
      rw [place moved, UInt16.toNat_ofNat_of_lt' small]
    have inside : now.machine.pc.toNat < 4095 := by omega
    obtain ⟨word, holds⟩ := Machine.exists_holdsWord inside
    refine ⟨moved, word, holds, Machine.fetch_holds holds, ?_⟩
    intro elapsed timing count advanced
    refine ⟨now.stepOrPoll.2, by rw [tick_observed advanced], ?_,
      stepOrPoll_reads (idleAt moved) holds⟩
    rw [stepOrPoll_pc, pc]

/-- A tick that leaves the time as it is can be repeated. -/
theorem accounted_replicate {elapsed : Binary64} {count : Int}
    (steady : system.timing.advance elapsed = (system.timing, .ok count)) (times : Nat) :
    system.Accounted (List.replicate times (.tick elapsed)) := by
  induction times generalizing system with
  | zero => trivial
  | succ times ih =>
      have kept : (system.after (.tick elapsed)).timing = system.timing := by
        rw [after_tick, tick_observed steady]
      refine ⟨?_, ih (by rw [kept, steady])⟩
      rintro _ ⟨⟩
      exact ⟨_, count, steady⟩

theorem reachable_replay (config : Config) (operations : List Operation) :
    ((powerOn config).replay operations).Reachable :=
  ⟨operations, congrArg (fun config => (powerOn config).replay operations) (replay_config _ _)⟩

/-- A tick of a system that meets a jump leads to its target. -/
theorem after_tick_jump (idle : system.pending = none) {word : UInt16} {target : Address}
    (meets : system.machine.Meets { word, instruction := .jump target }) {elapsed : Binary64}
    {timing : Timing} {count : Int}
    (accounted : system.timing.advance elapsed = (timing, .ok count)) :
    (system.after (.tick elapsed)).machine.pc = UInt16.ofNat target.val ∧
      (system.after (.tick elapsed)).timing = timing := by
  rw [after_tick, tick_observed accounted, stepOrPoll_idle idle, step_executes meets rfl rfl]
  exact ⟨rfl, rfl⟩

/-- A jump to the last byte of memory is followed by 30721 faults, behind which `pc` is one. -/
theorem jump_to_last_byte_wraps :
    let system := (powerOn { errorPolicy := .skip }).replay
      [.load [0x1F, 0xFF], .tick (.finite 17)]
    (system.tick (.finite 0)).2 =
        .observed { pc := 4095, instruction := none, outcome := .failed (.outOfRange 4095 2) } ∧
      (system.replay (List.replicate 30721 (.tick (.finite 0)))).machine.pc = 1 := by
  intro system
  have reachable : system.Reachable := reachable_replay _ _
  have config : system.config = { errorPolicy := .skip } := replay_config _ _
  have same : system = ((powerOn { errorPolicy := .skip }).after (.load [0x1F, 0xFF])).after
      (.tick (.finite 17)) := by rw [← replay_nil (after _ _), ← replay_cons, ← replay_cons]
  clear_value system
  have policy : system.config.errorPolicy = .skip := by rw [config]
  have meets : ((powerOn { errorPolicy := .skip }).after (.load [0x1F, 0xFF])).machine.Meets
      { word := 0x1FFF, instruction := .jump (.ofNat 0xFFF) } :=
    powerOn_meets _ (by decide) (by decide) (by decide) (by decide)
  obtain ⟨idle, _, _, timing⟩ := powerOn_loaded { errorPolicy := .skip } [0x1F, 0xFF]
  -- The contents of the memory play no part from here on.
  generalize (powerOn { errorPolicy := .skip }).after (.load [0x1F, 0xFF]) = loaded at *
  have started : loaded.timing = { rate := 60, accumulated := .finite 0 } := timing
  have first := Timing.advance_first
  rw [← started] at first
  obtain ⟨place, timed⟩ := after_tick_jump idle meets first
  rw [← same] at place timed
  have steady : system.timing.advance (.finite 0) = (system.timing, .ok 0) := by
    rw [timed]
    decide +kernel
  have pc : system.machine.pc.toNat = 4095 := by
    rw [place]
    decide
  have outside : 4095 ≤ system.machine.pc.toNat := Nat.le_of_eq pc.symm
  have wraps : system.machine.ticksToWrap = 30721 := by rw [Machine.ticksToWrap, pc]
  obtain ⟨fails, _⟩ := fails_until_wrapped reachable policy outside []
    (List.forall_mem_nil _) trivial
  obtain ⟨_, wrapped⟩ := fails_until_wrapped reachable policy outside
    (List.replicate 30721 (.tick (.finite 0)))
    (fun operation member => by rw [List.eq_of_mem_replicate member]; rfl)
    (accounted_replicate steady 30721)
  constructor
  · obtain ⟨_, _, ticks⟩ := fails (by rw [wraps, Operation.ticksIn, List.countP_nil]; decide)
    rw [replay_nil, pc, Operation.ticksIn, List.countP_nil] at ticks
    exact congrArg Prod.snd (ticks _ _ _ steady)
  · obtain ⟨moved, _⟩ := wrapped ((Operation.ticksIn_replicate_tick _ _).trans wraps.symm)
    rw [moved, pc]
    rfl

end System

end Chip8
