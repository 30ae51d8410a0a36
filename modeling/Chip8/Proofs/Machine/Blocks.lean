import Chip8.Machine.Memory

namespace Chip8

/-- A mapped result fails exactly with the errors of the original result. -/
theorem map_eq_error_iff {error value changed : Type} (result : Except error value)
    (change : value → changed) (reason : error) :
    result.map change = .error reason ↔ result = .error reason := by
  cases result <;> simp [Except.map]

/-- A mapped result comes from a value of the original result. -/
theorem map_eq_ok_iff {error value changed : Type} (result : Except error value)
    (change : value → changed) (final : changed) :
    result.map change = .ok final ↔ ∃ first, result = .ok first ∧ change first = final := by
  cases result <;> simp [Except.map]

namespace Machine

theorem checkRange_eq (address length : Int) :
    checkRange address length =
      if address < 0 ∨ 4096 < address + length then .error (.outOfRange address length)
      else .ok () := rfl

/-- The check refuses exactly the blocks that leave memory. -/
theorem checkRange_error_iff (address length : Int) (fault : Fault) :
    checkRange address length = .error fault ↔
      (address < 0 ∨ 4096 < address + length) ∧ fault = .outOfRange address length := by
  rw [checkRange_eq]
  split
  · simp [*, eq_comm]
  · simp [*]

/-- A read fails exactly on a block that leaves memory. -/
theorem readBlock_error_iff (machine : Machine) (address length : Int) (fault : Fault) :
    machine.readBlock address length = .error fault ↔
      (address < 0 ∨ 4096 < address + length) ∧ fault = .outOfRange address length := by
  rw [← checkRange_error_iff]
  unfold readBlock
  cases checkRange address length <;> simp [bind, Except.bind, pure, Except.pure]

/-- A write fails exactly on a block that leaves memory. -/
theorem writeBlock_error_iff (machine : Machine) (address : Int) (bytes : List UInt8)
    (fault : Fault) :
    machine.writeBlock address bytes = .error fault ↔
      (address < 0 ∨ 4096 < address + bytes.length) ∧
        fault = .outOfRange address bytes.length := by
  rw [← checkRange_error_iff]
  unfold writeBlock
  cases checkRange address bytes.length <;> simp [bind, Except.bind, pure, Except.pure]

/-- A successful check means that the block lies in memory. -/
theorem checkRange_ok {address length : Int} {passed : Unit}
    (checked : checkRange address length = .ok passed) :
    0 ≤ address ∧ address + length ≤ 4096 := by
  rw [checkRange_eq] at checked
  split at checked
  · contradiction
  · omega

/-- A read succeeds exactly on a block that lies in memory and gives its bytes. -/
theorem readBlock_ok_iff (machine : Machine) (address : Int) (length : Nat) (bytes : List UInt8) :
    machine.readBlock address length = .ok bytes ↔
      0 ≤ address ∧ address + length ≤ 4096 ∧
        bytes = (machine.memory.toList.drop address.toNat).take length := by
  unfold readBlock
  by_cases inside : 0 ≤ address ∧ address + length ≤ 4096
  · obtain ⟨start, stop⟩ := inside
    have passed : checkRange address length = .ok () :=
      (checkRange_eq address length).trans (if_neg (by omega))
    have first : position 4096 address = address.toNat := by
      rw [position, if_neg (by omega)]
      omega
    have last : position 4096 (address + length) = address.toNat + length := by
      rw [position, if_neg (by omega)]
      omega
    simp only [passed, first, last, bind, Except.bind, pure, Except.pure, Nat.add_sub_cancel_left,
      start, stop, true_and, Except.ok.injEq, eq_comm]
  · have refused : checkRange address length = .error (.outOfRange address length) :=
      (checkRange_eq address length).trans (if_pos (by omega))
    simp only [refused, bind, Except.bind, reduceCtorEq, false_iff]
    exact fun held => inside ⟨held.1, held.2.1⟩

/-- A successful read of a block gives as many bytes as were asked for. -/
theorem readBlock_length {machine : Machine} {address : Int} {length : Nat} {bytes : List UInt8}
    (read : machine.readBlock address length = .ok bytes) : bytes.length = length := by
  obtain ⟨start, stop, rfl⟩ := (machine.readBlock_ok_iff address length bytes).mp read
  have size : machine.memory.toList.length = 4096 := machine.memory.length_toList
  rw [List.length_take, List.length_drop, size]
  omega

/-- The bytes of a block are those of its cells. -/
theorem getElem?_of_readBlock {machine : Machine} {address : Int} {length : Nat}
    {bytes : List UInt8} (read : machine.readBlock address length = .ok bytes) {offset : Nat}
    (inside : offset < length) : bytes[offset]? = machine.memory[address.toNat + offset]? := by
  obtain ⟨start, stop, rfl⟩ := (machine.readBlock_ok_iff address length bytes).mp read
  rw [List.getElem?_take_of_lt inside, List.getElem?_drop, Vector.getElem?_toList]

/-- A successful write lies in memory. -/
theorem writeBlock_inside {machine next : Machine} {address : Int} {bytes : List UInt8}
    (written : machine.writeBlock address bytes = .ok next) :
    0 ≤ address ∧ address + bytes.length ≤ 4096 := by
  unfold writeBlock at written
  cases checked : checkRange address bytes.length with
  | error fault =>
      rw [checked] at written
      contradiction
  | ok passed => exact checkRange_ok checked

/-- An overlay leaves the cells before and behind its bytes alone. -/
theorem overlay_outside (memory : Vector UInt8 4096) {address : Nat} {bytes : Array UInt8}
    {cell : Nat} (inside : cell < 4096)
    (outside : ¬ (address ≤ cell ∧ cell < address + bytes.size)) :
    (overlay memory address bytes)[cell] = memory[cell] := by
  simp only [overlay, Vector.getElem_ofFn]
  rw [dif_neg (by omega)]
  rfl

/-- A successful write overlays memory and changes nothing else. -/
theorem writeBlock_ok {machine next : Machine} {address : Int} {bytes : List UInt8}
    (written : machine.writeBlock address bytes = .ok next) :
    next = { machine with memory := overlay machine.memory address.toNat bytes.toArray } := by
  unfold writeBlock at written
  cases checked : checkRange address bytes.length with
  | error fault =>
      rw [checked] at written
      contradiction
  | ok _ =>
      rw [checked] at written
      exact (Except.ok.inj written).symm

/-- A write succeeds exactly on a block that lies in memory and overlays it. -/
theorem writeBlock_ok_iff (machine next : Machine) (address : Int) (bytes : List UInt8) :
    machine.writeBlock address bytes = .ok next ↔
      (0 ≤ address ∧ address + bytes.length ≤ 4096) ∧
        next = { machine with memory := overlay machine.memory address.toNat bytes.toArray } := by
  constructor
  · intro written
    exact ⟨writeBlock_inside written, writeBlock_ok written⟩
  · rintro ⟨inside, rfl⟩
    have passed : checkRange address bytes.length = .ok () :=
      (checkRange_eq address bytes.length).trans (if_neg (by omega))
    simp only [writeBlock, passed, bind, Except.bind, pure, Except.pure]

end Machine

end Chip8
