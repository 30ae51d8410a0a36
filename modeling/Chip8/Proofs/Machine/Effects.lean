import Chip8.Machine.Execution
import Chip8.Proofs.Machine.Blocks

namespace Chip8.Machine

/-- A register holds what was stored in it last. -/
theorem register_setRegister (machine : Machine) (x z : Register) (value : UInt8) :
    (machine.setRegister x value).register z = if z = x then value else machine.register z := by
  change (machine.registers.set x.val value)[z.val] = _
  rw [Vector.getElem_set]
  simp only [eq_comm, Fin.ext_iff]
  rfl

/-- An operation on registers changes no other part of the machine. -/
theorem calculate_registers (machine : Machine) (operation : Arithmetic) (x y : Register) :
    machine.calculate operation x y =
      { machine with registers := (machine.calculate operation x y).registers } := by
  unfold calculate
  simp only
  split <;> rfl

/-- A list of bytes replaces registers only. -/
theorem setRegisters_registers (machine : Machine) (bytes : List UInt8) :
    machine.setRegisters bytes =
      { machine with registers := (machine.setRegisters bytes).registers } := rfl

/-- The end of a block transfer changes the index only. -/
theorem passBlock_index (machine : Machine) (x : Register) :
    machine.passBlock x = { machine with index := (machine.passBlock x).index } := by
  unfold passBlock
  split <;> rfl

/-- A block in memory is passed by its size in legacy mode and not at all in modern mode. -/
theorem passBlock_index_toNat (machine : Machine) (x : Register)
    (inside : machine.index.toNat + (x.val + 1) ≤ 4096) :
    (machine.passBlock x).index.toNat =
      machine.index.toNat + if machine.modern then 0 else x.val + 1 := by
  unfold passBlock
  split
  · rfl
  · rw [UInt16.toNat_add, UInt16.toNat_ofNat', Nat.mod_eq_of_lt (by omega),
      Nat.mod_eq_of_lt (by omega)]

/-- A return takes its address off the stack. -/
theorem execute_returnToCaller (machine : Machine) :
    machine.execute .returnToCaller =
      machine.stack.pop.map fun popped => { machine with stack := popped.1, pc := popped.2 } := rfl

/-- A call stores the address behind it and jumps. -/
theorem execute_call (machine : Machine) (target : Address) :
    machine.execute (.call target) =
      (machine.stack.push machine.pc).map fun stack =>
        { machine with stack, pc := UInt16.ofNat target.val } := rfl

/-- A sprite is read before it is drawn. -/
theorem execute_draw (machine : Machine) (x y : Register) (rows : Digit) :
    machine.execute (.draw x y rows) =
      (machine.readBlock machine.index.toNat rows.val).map fun sprite =>
        let column := (machine.register x).toNat
        let row := (machine.register y).toNat
        { machine with display := machine.display.draw column row sprite }.setFlag
          (machine.display.collides column row sprite) := rfl

theorem execute_storeDecimal (machine : Machine) (x : Register) :
    machine.execute (.storeDecimal x) =
      machine.writeBlock machine.index.toNat (decimalDigits (machine.register x)) := rfl

theorem execute_storeRegisters (machine : Machine) (x : Register) :
    machine.execute (.storeRegisters x) =
      (machine.writeBlock machine.index.toNat (machine.registersThrough x)).map fun stored =>
        stored.passBlock x := rfl

theorem execute_loadRegisters (machine : Machine) (x : Register) :
    machine.execute (.loadRegisters x) =
      (machine.readBlock machine.index.toNat (x.val + 1)).map fun bytes =>
        (machine.setRegisters bytes).passBlock x := rfl

end Chip8.Machine
