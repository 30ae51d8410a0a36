import Chip8.Proofs.Machine.Footprint

namespace Chip8

/-- This says that an instruction draws a random byte. -/
def Instruction.rolls : Instruction → Bool
  | .random _ _ => true
  | _ => false

namespace Machine

/-- This gives a machine another keypad and another key of its random numbers. -/
def withSources (keypad : Vector Bool 16) (random : Random.Pair) (machine : Machine) : Machine :=
  { machine with keypad, random }

theorem skipIf_withSources (machine : Machine) (keypad : Vector Bool 16) (random : Random.Pair)
    (condition : Bool) :
    (machine.withSources keypad random).skipIf condition =
      (machine.skipIf condition).withSources keypad random := by
  cases condition <;> rfl

theorem passBlock_withSources (machine : Machine) (keypad : Vector Bool 16) (random : Random.Pair)
    (x : Register) :
    (machine.withSources keypad random).passBlock x =
      (machine.passBlock x).withSources keypad random := by
  unfold passBlock
  change (if machine.modern = true then _ else _) = _
  split <;> rfl

theorem calculate_withSources (machine : Machine) (keypad : Vector Bool 16) (random : Random.Pair)
    (operation : Arithmetic) (x y : Register) :
    (machine.withSources keypad random).calculate operation x y =
      (machine.calculate operation x y).withSources keypad random := by
  cases operation <;> rfl

theorem writeBlock_withSources (machine : Machine) (keypad : Vector Bool 16) (random : Random.Pair)
    (address : Int) (bytes : List UInt8) :
    (machine.withSources keypad random).writeBlock address bytes =
      (machine.writeBlock address bytes).map (withSources keypad random) := by
  unfold writeBlock
  cases checkRange address bytes.length <;> rfl

/-- An instruction that draws no random byte looks at no more of the sources than the key that it
tests. -/
theorem execute_withSources (machine : Machine) (keypad : Vector Bool 16) (random : Random.Pair)
    {instruction : Instruction} (silent : instruction.rolls = false)
    (unseen : ∀ x, instruction = .skipPressed x ∨ instruction = .skipReleased x →
      (machine.withSources keypad random).keyDown x = machine.keyDown x) :
    (machine.withSources keypad random).execute instruction =
      (machine.execute instruction).map (withSources keypad random) := by
  cases instruction
  case random => contradiction
  case returnToCaller =>
    rw [execute_returnToCaller, execute_returnToCaller]
    change machine.stack.pop.map _ = _
    cases machine.stack.pop <;> rfl
  case call target =>
    rw [execute_call, execute_call]
    change (machine.stack.push machine.pc).map _ = _
    cases machine.stack.push machine.pc <;> rfl
  case skipEqualByte | skipUnequalByte | skipEqual | skipUnequal =>
    exact congrArg Except.ok (machine.skipIf_withSources keypad random _)
  case skipPressed x =>
    change Except.ok (skipIf _ ((machine.withSources keypad random).keyDown x)) = _
    rw [unseen x (.inl rfl), skipIf_withSources]
    rfl
  case skipReleased x =>
    change Except.ok (skipIf _ (!(machine.withSources keypad random).keyDown x)) = _
    rw [unseen x (.inr rfl), skipIf_withSources]
    rfl
  case arithmetic operation x y =>
    exact congrArg Except.ok (machine.calculate_withSources keypad random operation x y)
  case draw x y rows =>
    rw [execute_draw, execute_draw]
    change (machine.readBlock machine.index.toNat rows.val).map _ = _
    cases machine.readBlock machine.index.toNat rows.val <;> rfl
  case storeDecimal x =>
    rw [execute_storeDecimal, execute_storeDecimal]
    exact machine.writeBlock_withSources keypad random _ _
  case storeRegisters x =>
    rw [execute_storeRegisters, execute_storeRegisters]
    change ((machine.withSources keypad random).writeBlock machine.index.toNat
      (machine.registersThrough x)).map _ = _
    rw [writeBlock_withSources]
    cases machine.writeBlock machine.index.toNat (machine.registersThrough x) with
    | error fault => rfl
    | ok stored => exact congrArg Except.ok (stored.passBlock_withSources keypad random x)
  case loadRegisters x =>
    rw [execute_loadRegisters, execute_loadRegisters]
    change (machine.readBlock machine.index.toNat (x.val + 1)).map _ = _
    cases machine.readBlock machine.index.toNat (x.val + 1) with
    | error fault => rfl
    | ok bytes =>
        exact congrArg Except.ok
          ((machine.setRegisters bytes).passBlock_withSources keypad random x)
  all_goals rfl

/-- An instruction does not press or release keys. -/
theorem execute_keeps_keypad {machine next : Machine} {instruction : Instruction}
    (executed : machine.execute instruction = .ok next) : next.keypad = machine.keypad :=
  Vector.ext fun key inside =>
    execute_content executed (machine.key_not_mem_footprint instruction ⟨key, inside⟩)

/-- An instruction that draws no random byte keeps the key of the random numbers. -/
theorem execute_keeps_random {machine next : Machine} {instruction : Instruction}
    (executed : machine.execute instruction = .ok next) (silent : instruction.rolls = false) :
    next.random = machine.random := by
  have outside : Place.random ∉ machine.footprint instruction := by
    cases instruction
    case random => contradiction
    all_goals simp [footprint]
  exact execute_content executed outside

/-- This gives a machine another keypad. -/
def withKeypad (keypad : Vector Bool 16) (machine : Machine) : Machine :=
  { machine with keypad }

/-- An instruction looks at no more of the keypad than the key that it tests. -/
theorem execute_withKeypad (machine : Machine) (keypad : Vector Bool 16)
    {instruction : Instruction}
    (unseen : ∀ x, instruction = .skipPressed x ∨ instruction = .skipReleased x →
      (machine.withKeypad keypad).keyDown x = machine.keyDown x) :
    (machine.withKeypad keypad).execute instruction =
      (machine.execute instruction).map (withKeypad keypad) := by
  cases rolls : instruction.rolls with
  | true =>
      cases instruction
      case random => rfl
      all_goals contradiction
  | false =>
      have other := machine.execute_withSources keypad machine.random rolls unseen
      change (machine.withSources keypad machine.random).execute instruction = _
      rw [other]
      cases executed : machine.execute instruction with
      | error fault => rfl
      | ok next =>
          change Except.ok (next.withSources keypad machine.random) = _
          rw [← execute_keeps_random executed rolls]
          rfl

/-- A random instruction spends the key on its byte and keeps the next key. -/
theorem execute_random {machine next : Machine} {x : Register} {byte : UInt8}
    (executed : machine.execute (.random x byte) = .ok next) :
    next.random = Random.next machine.random ∧
      next.register x = Random.byte machine.random &&& byte := by
  cases executed
  exact ⟨rfl, Vector.getElem_set_self x.isLt⟩

/-- This gives a machine another key. -/
def withRandom (random : Random.Pair) (machine : Machine) : Machine :=
  { machine with random }

/-- An instruction that draws no random byte does not look at the key. -/
theorem execute_withRandom (machine : Machine) (random : Random.Pair) {instruction : Instruction}
    (silent : instruction.rolls = false) :
    (machine.withRandom random).execute instruction =
      (machine.execute instruction).map (withRandom random) := by
  have other := machine.execute_withSources machine.keypad random silent fun _ _ => rfl
  change (machine.withSources machine.keypad random).execute instruction = _
  rw [other]
  cases executed : machine.execute instruction with
  | error fault => rfl
  | ok next =>
      change Except.ok (next.withSources machine.keypad random) = _
      rw [← execute_keeps_keypad executed]
      rfl

end Machine

end Chip8
