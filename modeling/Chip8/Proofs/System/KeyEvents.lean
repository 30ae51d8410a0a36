import Chip8.Proofs.Machine.Sources
import Chip8.Proofs.System.Events
import Chip8.Proofs.System.KeyWait
import Chip8.Proofs.System.Histories

namespace Chip8

/-- This is what an operation makes of a key that it presses or releases. -/
def Operation.sets? (key : Digit) : Operation → Option Bool
  | .setKey other pressed => if other = (key.val : Int) then some pressed else none
  | _ => none

namespace System

/-- This is what the last press or release of a key in a history made of it. -/
def lastSet? (key : Digit) (history : List Operation) : Option Bool :=
  history.reverse.findSome? (Operation.sets? key)

theorem lastSet_concat (key : Digit) (history : List Operation) (operation : Operation) :
    lastSet? key (history ++ [operation]) = (operation.sets? key).or (lastSet? key history) := by
  rw [lastSet?, List.reverse_append, List.reverse_singleton, List.singleton_append,
    List.findSome?_cons]
  cases operation.sets? key <;> rfl

/-- A key event changes its own key only. -/
theorem get_keyed (keypad : Vector Bool 16) (key : Int) (pressed : Bool) (other : Digit) :
    (keyed keypad key pressed).get other =
      if key = (other.val : Int) then pressed else keypad.get other := by
  have inside := other.isLt
  change (keyed keypad key pressed)[other.val] = if _ then _ else keypad[other.val]
  unfold keyed
  by_cases isKey : 0 ≤ key ∧ key < 16
  · rw [if_pos isKey, Vector.getElem_set]
    have number : (Digit.ofNat key.toNat).val = other.val ↔ key = (other.val : Int) := by
      simp only [Digit.ofNat]
      omega
    simp only [number]
  · rw [if_neg isKey, if_neg (by omega)]

/-- This is the same system with another keypad. -/
def withKeypad (keypad : Vector Bool 16) (system : System) : System :=
  { system with machine := system.machine.withKeypad keypad }

theorem after_setKey_withKeypad (system : System) (key : Int) (pressed : Bool) :
    system.after (.setKey key pressed) =
      system.withKeypad (keyed system.machine.keypad key pressed) := by
  rw [after, perform_setKey]
  rfl

/-- A step does not press or release keys. -/
theorem stepOrPoll_keypad (system : System) :
    system.stepOrPoll.1.machine.keypad = system.machine.keypad := by
  have advances := system.stepOrPoll_advances
  generalize system.stepOrPoll = advanced at advances ⊢
  cases advances with
  | failed idle instruction fault faults =>
      simp only [fail]
      cases system.config.errorPolicy <;> rfl
  | parked => rfl
  | executed idle decoded machine meets moves executed =>
      change machine.keypad = system.machine.skip.keypad
      exact Machine.execute_keeps_keypad executed
  | waiting => rfl
  | resumed => rfl

/-- A tick does not press or release keys. -/
theorem after_tick_keypad (system : System) (elapsed : Binary64) :
    (system.after (.tick elapsed)).machine.keypad = system.machine.keypad := by
  have ticks := system.tick_ticks elapsed
  rw [after_tick]
  generalize system.tick elapsed = ticked at ticks ⊢
  cases ticks with
  | rejected => rfl
  | untimed => exact system.stepOrPoll_keypad
  | observed => exact system.stepOrPoll_keypad

/-- An operation other than a reset changes the keys that it presses or releases only. -/
theorem get_keypad_after (system : System) {operation : Operation} (unreset : operation ≠ .reset)
    (key : Digit) :
    (system.after operation).machine.keypad.get key =
      (operation.sets? key).getD (system.machine.keypad.get key) := by
  cases operation with
  | tick elapsed => exact congrArg (Vector.get · key) (system.after_tick_keypad elapsed)
  | setKey other pressed =>
      rw [after, perform_setKey, get_keyed, Operation.sets?]
      split <;> rfl
  | load program =>
      rw [after, perform_load]
      rfl
  | consumeFrame => rfl
  | reset => exact absurd rfl unreset

/-- After every history a key is as its last press or release since the last reset left it. -/
theorem get_keypad_replay (config : Config) (history : List Operation) (key : Digit) :
    ((powerOn config).replay history).machine.keypad.get key =
      (lastSet? key (sinceReset history)).getD false := by
  -- A reset releases every key, and any other last operation has the last word on its own key.
  induction history using List.reverseRec with
  | nil => exact Vector.getElem_replicate key.isLt
  | append_singleton history last ih =>
      by_cases reset : last = .reset
      · rw [reset, replay_concat_reset, sinceReset_concat_reset]
        exact Vector.getElem_replicate key.isLt
      · rw [sinceReset_concat history reset, lastSet_concat, replay_concat,
          get_keypad_after _ reset, ih]
        cases last.sets? key <;> rfl

/-- The step of an idle system looks at no more of the keypad than the key that it tests. -/
theorem stepOrPoll_withKeypad {system : System} (idle : system.pending = none)
    {keypad : Vector Bool 16}
    (unseen : ∀ x, system.stepOrPoll.2.Executes (.skipPressed x) ∨
        system.stepOrPoll.2.Executes (.skipReleased x) →
      (system.machine.withKeypad keypad).keyDown x = system.machine.keyDown x) :
    (system.withKeypad keypad).stepOrPoll =
      (system.stepOrPoll.1.withKeypad keypad, system.stepOrPoll.2) := by
  have transfers {decoded : Decoded} (meets : system.machine.Meets decoded) :
      (system.withKeypad keypad).machine.Meets decoded := ⟨meets.1.transfer rfl rfl, meets.2⟩
  have idleOther : (system.withKeypad keypad).pending = none := idle
  rw [stepOrPoll_idle idleOther]
  have advances := system.stepOrPoll_advances
  generalize system.stepOrPoll = advanced at advances unseen ⊢
  cases advances with
  | failed idle instruction fault faults =>
      have faultsOther : (system.withKeypad keypad).machine.Faults instruction fault :=
        faults.transfer rfl rfl rfl rfl
      rw [step_faults faultsOther]
      simp only [fail, withKeypad]
      cases system.config.errorPolicy <;> rfl
  | parked idle decoded meets blocks => exact step_parks (transfers meets) blocks
  | executed idle decoded machine meets moves executed =>
      obtain ⟨word, instruction⟩ := decoded
      have executedOther := system.machine.skip.execute_withKeypad keypad fun x tests =>
        unseen x (tests.imp (fun tested => ⟨rfl, word, by rw [← tested]⟩)
          fun tested => ⟨rfl, word, by rw [← tested]⟩)
      rw [executed] at executedOther
      exact step_executes (transfers meets) moves executedOther
  | waiting decoded parked silent =>
      rw [idle] at parked
      contradiction
  | resumed decoded parked key down =>
      rw [idle] at parked
      contradiction

/-- A tick of an idle system looks at no more of the keypad than the key that it tests. -/
theorem tick_withKeypad {system : System} (idle : system.pending = none)
    {keypad : Vector Bool 16} {elapsed : Binary64}
    (unseen : ∀ x, system.Executes (.tick elapsed) (.skipPressed x) ∨
        system.Executes (.tick elapsed) (.skipReleased x) →
      (system.machine.withKeypad keypad).keyDown x = system.machine.keyDown x) :
    (system.withKeypad keypad).tick elapsed =
      ((system.tick elapsed).1.withKeypad keypad, (system.tick elapsed).2) := by
  apply tick_transfer (withKeypad keypad) (fun _ _ => rfl) (fun _ _ _ => rfl) rfl
  intro nonnegative
  apply stepOrPoll_withKeypad idle
  intro x tests
  simp only [executes_tick_iff, nonnegative, true_and] at unseen
  exact unseen x tests

/-- An instruction that tests another key does not see a key event. -/
theorem keyDown_keyed {machine : Machine} {key : Digit} {x : Register}
    (other : (machine.register x).toNat % 16 ≠ key.val) (pressed : Bool) :
    (machine.withKeypad (keyed machine.keypad key.val pressed)).keyDown x = machine.keyDown x := by
  change (keyed machine.keypad key.val pressed).get (Digit.ofNat (machine.register x).toNat) = _
  rw [get_keyed, if_neg]
  · rfl
  · simp only [Digit.ofNat]
    omega

/-- A key event can be exchanged with every tick of an idle system that does not test its key, and
with the events of other keys. So a key is as its last event since the last reset left it, as no
tick presses or releases keys. -/
theorem keyEvents_commute (config : Config) (history : List Operation) :
    let now := (powerOn config).replay history
    (∀ (key : Digit) (pressed : Bool) (elapsed : Binary64), now.pending = none →
      (∀ x, now.Executes (.tick elapsed) (.skipPressed x) ∨
          now.Executes (.tick elapsed) (.skipReleased x) →
        (now.machine.register x).toNat % 16 ≠ key.val) →
      ((now.after (.setKey key.val pressed)).tick elapsed).2 = (now.tick elapsed).2 ∧
        ((now.after (.setKey key.val pressed)).perform (.tick elapsed)).2 =
          (now.perform (.tick elapsed)).2 ∧
        now.replay [.setKey key.val pressed, .tick elapsed] =
          now.replay [.tick elapsed, .setKey key.val pressed]) ∧
      (∀ (key other : Digit) (first second : Bool), key ≠ other →
        now.replay [.setKey key.val first, .setKey other.val second] =
          now.replay [.setKey other.val second, .setKey key.val first]) ∧
      (∀ (key : Digit) (first last : Bool),
        now.replay [.setKey key.val first, .setKey key.val last] =
          now.after (.setKey key.val last)) ∧
      (∀ key, now.machine.keypad.get key = (lastSet? key (sinceReset history)).getD false) ∧
      ∀ elapsed, (now.after (.tick elapsed)).machine.keypad = now.machine.keypad := by
  intro now
  refine ⟨?_, ?_, ?_, get_keypad_replay config history, now.after_tick_keypad⟩
  · intro key pressed elapsed idle untested
    have ticked := tick_withKeypad idle fun x tests => keyDown_keyed (untested x tests) pressed
    rw [← after_setKey_withKeypad] at ticked
    have kept := now.after_tick_keypad elapsed
    refine ⟨by rw [ticked], ?_, ?_⟩
    · have policy : (now.after (.setKey key.val pressed)).config = now.config :=
        now.after_config _
      simp only [perform, ticked, policy]
    · rw [replay_cons, replay_cons, replay_cons, replay_cons, replay_nil, replay_nil,
        after_setKey_withKeypad (now.after (.tick elapsed)), kept, after_tick, ticked, after_tick]
  · intro key other first second different
    have numbers : (key.val : Int) ≠ other.val := fun same => different (Fin.ext (by omega))
    simp only [replay_cons, replay_nil, after, perform_setKey, keyed_comm _ numbers]
  · intro key first last
    simp only [replay_cons, replay_nil, after, perform_setKey, keyed_again]

/-- The press of a key can be exchanged with a tick that tests another one. -/
theorem press_commutes_with_test_of_other_key :
    let now := (powerOn {}).after (.load [0xE1, 0x9E])
    now.Executes (.tick (.finite 17)) (.skipPressed (.ofNat 1)) ∧
      now.replay [.setKey 5 true, .tick (.finite 17)] =
        now.replay [.tick (.finite 17), .setKey 5 true] := by
  intro now
  have executes : now.Executes (.tick (.finite 17)) (.skipPressed (.ofNat 1)) :=
    executes_first {} ⟨0xE19E, .skipPressed (.ofNat 1)⟩ (by decide) (by decide) (by decide) rfl
      rfl (by decide)
  obtain ⟨memory, loads⟩ := (powerOn {}).after_load [0xE1, 0x9E]
  have idle : now.pending = none := congrArg System.pending loads
  have zero (x : Register) : now.machine.register x = 0 := by
    change now.machine.registers[x.val] = 0
    rw [congrArg (fun system => system.machine.registers) loads]
    exact Vector.getElem_replicate x.isLt
  obtain ⟨commutes, _⟩ := keyEvents_commute {} [.load [0xE1, 0x9E]]
  refine ⟨executes, (commutes 5 true _ idle ?_).2.2⟩
  intro x _
  change (now.machine.register x).toNat % 16 ≠ 5
  rw [zero]
  decide

end System

end Chip8
