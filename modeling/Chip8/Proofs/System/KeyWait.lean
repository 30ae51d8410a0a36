import Chip8.Proofs.System.Bounds
import Chip8.Proofs.System.Failures

namespace Chip8

namespace Machine

/-- This says that no key is down. -/
def KeysUp (machine : Machine) : Prop :=
  ∀ key : Digit, machine.keypad.get key = false

/-- This says that a key is down and no lower one is. -/
def LowestDown (machine : Machine) (key : Digit) : Prop :=
  machine.keypad.get key = true ∧ ∀ lower < key, machine.keypad.get lower = false

theorem lowestKey_eq_find (machine : Machine) :
    machine.lowestKey? = (List.finRange 16).find? machine.keypad.get := rfl

theorem lowestKey_eq_none_iff (machine : Machine) :
    machine.lowestKey? = none ↔ machine.KeysUp := by
  rw [lowestKey_eq_find]
  simp [KeysUp, List.find?_eq_none]

theorem lowestKey_eq_some_iff (machine : Machine) (key : Digit) :
    machine.lowestKey? = some key ↔ machine.LowestDown key := by
  unfold LowestDown
  rw [lowestKey_eq_find, List.find?_eq_some_iff_getElem]
  apply and_congr_right
  intro _
  constructor
  · rintro ⟨position, inside, rfl, above⟩ lower less
    have up := above lower.val (by simpa [Fin.lt_def] using less)
    simpa using up
  · intro above
    refine ⟨key.val, by simp, by simp, ?_⟩
    intro lower less
    have up := above ⟨lower, by omega⟩ less
    simpa using up

/-- Among the keys that are down there is a lowest one. -/
theorem exists_lowestDown {machine : Machine} (down : ¬ machine.KeysUp) :
    ∃ key, machine.LowestDown key := by
  rw [← lowestKey_eq_none_iff] at down
  obtain ⟨key, lowest⟩ := Option.ne_none_iff_exists'.mp down
  exact ⟨key, (machine.lowestKey_eq_some_iff key).mp lowest⟩

end Machine

/-- This says that an operation presses or releases a key. -/
def Operation.concerns (key : Digit) : Operation → Bool
  | .setKey other _ => other = (key.val : Int)
  | _ => false

namespace System

/-- This says that every tick of a history starts while no key is down. -/
def Unheard (system : System) (later : List Operation) : Prop :=
  ∀ before elapsed after, later = before ++ .tick elapsed :: after →
    (system.replay before).machine.KeysUp

/-- This says that an instruction waits for a key at an address. -/
structure Waits (system : System) (decoded : Decoded) (address : UInt16) : Prop where
  parked : system.pending = some decoded
  place : system.machine.pc = address

/-- A waiting system does nothing while no key is down. -/
theorem Waits.stepOrPoll_silent {system : System} {decoded : Decoded} {address : UInt16}
    (waits : system.Waits decoded address) (silent : system.machine.KeysUp) :
    system.stepOrPoll =
      (system, { pc := address, instruction := some decoded, outcome := .waiting }) := by
  have none := (system.machine.lowestKey_eq_none_iff).mpr silent
  simp only [stepOrPoll, waits.parked, poll, Machine.receiveKey?, none, Option.map_none,
    waits.place]

/-- A waiting system takes the lowest key that is down and passes the instruction. -/
theorem Waits.stepOrPoll_heard {system : System} {decoded : Decoded} {address : UInt16}
    (waits : system.Waits decoded address) {key : Digit}
    (lowest : system.machine.LowestDown key) :
    system.stepOrPoll =
      ({ system with
          machine := (system.machine.setRegister decoded.instruction.fields.x
            (UInt8.ofNat key.val)).skip
          pending := none },
        { pc := address, instruction := some decoded, outcome := .resumed }) := by
  have some := (system.machine.lowestKey_eq_some_iff key).mpr lowest
  simp only [stepOrPoll, waits.parked, poll, Machine.receiveKey?, some, Option.map_some,
    waits.place]

/-- A waiting system waits on in every operation but a reset and a tick that finds a key down. -/
theorem Waits.after {system : System} {decoded : Decoded} {address : UInt16}
    (waits : system.Waits decoded address) {operation : Operation} (powered : operation ≠ .reset)
    (silent : ∀ elapsed, operation = .tick elapsed → system.machine.KeysUp) :
    (system.after operation).Waits decoded address := by
  cases operation with
  | tick elapsed =>
      have stays := waits.stepOrPoll_silent (silent elapsed rfl)
      have ticks := system.tick_ticks elapsed
      rw [after_tick]
      generalize system.tick elapsed = ticked at ticks ⊢
      cases ticks with
      | rejected => exact waits
      | untimed =>
          rw [stays]
          exact ⟨waits.parked, waits.place⟩
      | observed =>
          rw [stays]
          exact ⟨waits.parked, waits.place⟩
  | setKey key pressed =>
      rw [System.after, perform_setKey]
      exact ⟨waits.parked, waits.place⟩
  | load program =>
      rw [System.after, perform_load]
      exact ⟨waits.parked, waits.place⟩
  | consumeFrame => exact ⟨waits.parked, waits.place⟩
  | reset => exact absurd rfl powered

/-- A history without ticks is unheard. -/
theorem unheard_of_untimed {system : System} {later : List Operation}
    (untimed : ∀ elapsed, Operation.tick elapsed ∉ later) : system.Unheard later := by
  rintro before elapsed after rfl
  exact absurd (by simp) (untimed elapsed)

/-- A history is unheard when it is so before its last operation, and that operation is no tick or
finds no key down. -/
theorem unheard_concat_iff (system : System) (later : List Operation) (last : Operation) :
    system.Unheard (later ++ [last]) ↔
      system.Unheard later ∧
        ∀ elapsed, last = .tick elapsed → (system.replay later).machine.KeysUp := by
  constructor
  · intro unheard
    constructor
    · rintro before elapsed after rfl
      exact unheard before elapsed (after ++ [last]) (by simp)
    · rintro elapsed rfl
      exact unheard later elapsed [] rfl
  · rintro ⟨unheard, silent⟩ before elapsed after split
    rcases concat_split split with ⟨_, rfl, same⟩ | ⟨init, _, rfl⟩
    · exact silent elapsed same
    · exact unheard before elapsed init rfl

/-- A waiting system waits while it is not reset and no tick finds a key down. -/
theorem Waits.replay {system : System} {decoded : Decoded} {address : UInt16}
    (waits : system.Waits decoded address) {later : List Operation}
    (powered : Operation.reset ∉ later) (unheard : system.Unheard later) :
    (system.replay later).Waits decoded address := by
  induction later using List.reverseRec with
  | nil => exact waits
  | append_singleton later last ih =>
      obtain ⟨unheardBefore, silent⟩ := (system.unheard_concat_iff later last).mp unheard
      simp only [List.mem_append, List.mem_singleton, not_or] at powered
      rw [replay_concat]
      exact (ih powered.1 unheardBefore).after (Ne.symm powered.2) silent

/-- The last event of a key decides what becomes of it. -/
theorem keyed_again (keypad : Vector Bool 16) (key : Int) (first last : Bool) :
    keyed (keyed keypad key first) key last = keyed keypad key last := by
  unfold keyed
  by_cases inside : 0 ≤ key ∧ key < 16
  · simp only [if_pos inside]
    exact Vector.set_set first (Digit.ofNat key.toNat).isLt
  · simp only [if_neg inside]

/-- Events of different keys can be exchanged. -/
theorem keyed_comm (keypad : Vector Bool 16) {key other : Int} (different : key ≠ other)
    (first second : Bool) :
    keyed (keyed keypad key first) other second = keyed (keyed keypad other second) key first := by
  unfold keyed
  by_cases inside : 0 ≤ key ∧ key < 16
  · by_cases otherInside : 0 ≤ other ∧ other < 16
    · simp only [if_pos inside, if_pos otherInside]
      apply Vector.set_comm
      simp only [Digit.ofNat]
      omega
    · simp only [if_neg otherInside]
  · simp only [if_neg inside]

/-- The release of a key that is up changes nothing. -/
theorem after_release_up {system : System} {key : Digit} (up : system.machine.keypad.get key = false) :
    system.after (.setKey key.val false) = system := by
  have same : keyed system.machine.keypad key.val false = system.machine.keypad := by
    have inside := key.isLt
    have number : Digit.ofNat (key.val : Int).toNat = key := by
      apply Fin.ext
      simp only [Digit.ofNat, Int.toNat_natCast]
      omega
    have kept : system.machine.keypad.set key (system.machine.keypad.get key) =
        system.machine.keypad :=
      Vector.set_getElem_self key.isLt
    rw [up] at kept
    simp only [keyed, number]
    rw [if_pos (by omega), kept]
  rw [after, perform_setKey, same]

/-- The release of a key undoes its events and can be exchanged with every other operation but a
tick and a reset. -/
theorem after_release (system : System) (key : Digit) {operation : Operation}
    (powered : operation ≠ .reset) (untimed : ∀ elapsed, operation ≠ .tick elapsed) :
    (system.after operation).after (.setKey key.val false) =
      if operation.concerns key then system.after (.setKey key.val false)
      else (system.after (.setKey key.val false)).after operation := by
  cases operation with
  | tick elapsed => exact absurd rfl (untimed elapsed)
  | reset => exact absurd rfl powered
  | consumeFrame => simp only [Operation.concerns, after, perform_setKey]; rfl
  | load program => simp only [Operation.concerns, after, perform_setKey, perform_load]; rfl
  | setKey other pressed =>
      by_cases same : other = (key.val : Int)
      · simp only [Operation.concerns, same, decide_true, if_true, after, perform_setKey,
          keyed_again]
      · simp only [Operation.concerns, same, decide_false, Bool.false_eq_true, if_false, after,
          perform_setKey, keyed_comm _ same]

/-- A history without ticks and resets that ends with the release of a key, which was up before it,
leaves the same system as its other operations. -/
theorem replay_released (system : System) {key : Digit} (up : system.machine.keypad.get key = false)
    {pause : List Operation} (powered : Operation.reset ∉ pause)
    (untimed : ∀ elapsed, Operation.tick elapsed ∉ pause) :
    system.replay (pause ++ [.setKey key.val false]) =
      system.replay (pause.filter fun operation => !operation.concerns key) := by
  rw [replay_concat]
  -- The release moves to the front of the history, where it finds the key up.
  suffices moved : ∀ system : System,
      (system.replay pause).after (.setKey key.val false) =
        (system.after (.setKey key.val false)).replay
          (pause.filter fun operation => !operation.concerns key) by
    rw [moved, after_release_up up]
  induction pause with
  | nil => exact fun _ => rfl
  | cons operation rest ih =>
      intro system
      simp only [List.mem_cons, not_or] at powered untimed
      have exchanged := system.after_release key (Ne.symm powered.1)
        fun elapsed => Ne.symm (untimed elapsed).1
      change ((system.after operation).replay rest).after (.setKey key.val false) = _
      rw [ih powered.2 (fun elapsed => (untimed elapsed).2), exchanged, List.filter_cons]
      cases operation.concerns key <;> rfl

/-- A key wait parks without a look at the keypad. After it, whatever keys are pressed and released
and whatever is loaded, every tick that finds no key down only counts time, and the first that finds
one stores the lowest and passes the instruction. A key that is up again leaves no trace. -/
theorem waitKey_resumes_at_first_key {system : System} {decoded : Decoded} {x : Register}
    (idle : system.pending = none) (meets : system.machine.Meets decoded)
    (waits : decoded.instruction = .waitKey x) {elapsed : Binary64} {timing : Timing} {count : Int}
    (accounted : system.timing.advance elapsed = (timing, .ok count)) :
    system.tick elapsed =
      ({ system with
          machine := system.machine.decay count
          pending := some decoded
          timing := { system.timing with accumulated := timing.accumulated } },
        .observed
          { pc := system.machine.pc, instruction := some decoded, outcome := .waiting }) ∧
    (system.machine.pc + 2).toNat = system.machine.pc.toNat + 2 ∧
    ∀ later, Operation.reset ∉ later → (system.after (.tick elapsed)).Unheard later →
      let now := (system.after (.tick elapsed)).replay later
      (∀ elapsed timing count, now.timing.advance elapsed = (timing, .ok count) →
        (now.machine.KeysUp →
          now.tick elapsed =
            ({ now with
                machine := now.machine.decay count
                timing := { now.timing with accumulated := timing.accumulated } },
              .observed
                { pc := system.machine.pc, instruction := some decoded, outcome := .waiting })) ∧
        (¬ now.machine.KeysUp →
          ∃ key, now.machine.LowestDown key ∧
            now.tick elapsed =
              ({ now with
                  machine :=
                    { now.machine.setRegister x (UInt8.ofNat key.val) with
                      pc := system.machine.pc + 2 }.decay count
                  pending := none
                  timing := { now.timing with accumulated := timing.accumulated } },
                .observed
                  { pc := system.machine.pc, instruction := some decoded,
                    outcome := .resumed }))) ∧
      ∀ key pause, now.machine.keypad.get key = false → Operation.reset ∉ pause →
        (∀ elapsed, Operation.tick elapsed ∉ pause) →
        now.replay (pause ++ [.setKey key.val false]) =
          now.replay (pause.filter fun operation => !operation.concerns key) := by
  have blocks := (Instruction.blocks_iff decoded.instruction).mpr ⟨x, waits⟩
  have parks : system.tick elapsed =
      ({ system with machine := system.machine.decay count, pending := some decoded, timing },
        .observed
          { pc := system.machine.pc, instruction := some decoded, outcome := .waiting }) := by
    rw [tick_observed accounted, stepOrPoll_idle idle, step_parks meets blocks]
  have waiting : (system.after (.tick elapsed)).Waits decoded system.machine.pc := by
    rw [after_tick, parks]
    exact ⟨rfl, rfl⟩
  obtain ⟨_, inside, _⟩ := meets.1
  refine ⟨by rw [parks, ← Timing.advance_rate accounted], skip_inside inside, ?_⟩
  intro later powered unheard now
  have waitingNow : now.Waits decoded system.machine.pc := waiting.replay powered unheard
  refine ⟨?_, fun key pause up => now.replay_released up⟩
  intro elapsed timing count accountedNow
  rw [tick_observed accountedNow, ← Timing.advance_rate accountedNow]
  constructor
  · intro silent
    rw [waitingNow.stepOrPoll_silent silent]
  · intro heard
    obtain ⟨key, lowest⟩ := Machine.exists_lowestDown heard
    refine ⟨key, lowest, ?_⟩
    rw [waitingNow.stepOrPoll_heard lowest, ← waitingNow.place, waits]
    rfl

/-- A key wait at the program start waits on while no key is down, and takes the lower of two keys
although its bytes were overwritten. -/
theorem waitKey_takes_lower_key :
    let system := (powerOn {}).after (.load [0xF3, 0x0A])
    let decoded : Decoded := { word := 0xF30A, instruction := .waitKey (.ofNat 3) }
    let parked := system.after (.tick (.finite 17))
    let pressed := parked.replay [.setKey 5 true, .setKey 2 true, .load [0, 0]]
    (system.tick (.finite 17)).2 =
        .observed { pc := 0x200, instruction := some decoded, outcome := .waiting } ∧
      (parked.tick (.finite 17)).2 =
        .observed { pc := 0x200, instruction := some decoded, outcome := .waiting } ∧
      (pressed.tick (.finite 17)).2 =
        .observed { pc := 0x200, instruction := some decoded, outcome := .resumed } ∧
      (pressed.after (.tick (.finite 17))).machine.register (.ofNat 3) = 2 ∧
      (pressed.after (.tick (.finite 17))).machine.pc = 0x202 := by
  intro system decoded parked pressed
  have meets : system.machine.Meets decoded :=
    powerOn_meets {} (by decide) (by decide) (by decide) (by decide)
  obtain ⟨memory, loads⟩ := (powerOn {}).after_load [0xF3, 0x0A]
  change system = _ at loads
  have idle : system.pending = none := by rw [loads]; rfl
  have place : system.machine.pc = 0x200 := by rw [loads]; rfl
  have up : system.machine.keypad = Vector.replicate 16 false := by rw [loads]; rfl
  have timing : system.timing = { rate := 60, accumulated := .finite 0 } := by rw [loads]; rfl
  have parkedIs : parked = system.after (.tick (.finite 17)) := rfl
  have pressedIs : pressed = parked.replay [.setKey 5 true, .setKey 2 true, .load [0, 0]] := rfl
  have first := Timing.advance_first
  have second : ({ rate := 60, accumulated := .finite 20 } : Timing).advance (.finite 17) =
      ({ rate := 60, accumulated := .finite 40 }, .ok 1) := by decide +kernel
  -- The contents of the memory play no part from here on.
  clear loads
  clear_value pressed parked system
  rw [← timing] at first
  obtain ⟨parks, _, waits⟩ := waitKey_resumes_at_first_key idle meets rfl first
  obtain ⟨ticks, _⟩ := waits [] (by simp) (unheard_of_untimed (by simp))
  obtain ⟨ticksPressed, _⟩ := waits [.setKey 5 true, .setKey 2 true, .load [0, 0]] (by simp)
    (unheard_of_untimed (by simp))
  rw [← parkedIs, ← pressedIs] at ticksPressed
  rw [← parkedIs, replay_nil] at ticks
  rw [after_tick, parks, timing] at parkedIs
  simp only [replay_cons, replay_nil, System.after, perform_setKey, perform_load, parkedIs,
    Machine.decay, up] at pressedIs
  have timed : parked.timing = { rate := 60, accumulated := .finite 20 } := by rw [parkedIs]
  have upParked : parked.machine.keypad = Vector.replicate 16 false := by
    rw [parkedIs]
    exact up
  have silent : parked.machine.KeysUp := by
    unfold Machine.KeysUp
    rw [upParked]
    decide
  have timedPressed : pressed.timing = { rate := 60, accumulated := .finite 20 } := by
    rw [pressedIs]
  have keys : pressed.machine.keypad =
      keyed (keyed (Vector.replicate 16 false) 5 true) 2 true := by
    rw [pressedIs]
  have lowest (key : Digit) : pressed.machine.LowestDown key → key = .ofNat 2 := by
    unfold Machine.LowestDown
    rw [keys]
    revert key
    decide
  have heard : ¬ pressed.machine.KeysUp := by
    unfold Machine.KeysUp
    rw [keys]
    decide
  have waited := (ticks _ _ _ (timed ▸ second)).1 silent
  obtain ⟨key, down, resumes⟩ := (ticksPressed _ _ _ (timedPressed ▸ second)).2 heard
  rw [lowest key down, place] at resumes
  refine ⟨by rw [parks, place], by rw [waited, place], by rw [resumes], ?_, ?_⟩
  · rw [after_tick, resumes]
    exact Vector.getElem_set_self _
  · rw [after_tick, resumes]
    rfl

end System

end Chip8
