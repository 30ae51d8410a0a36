import Chip8.Proofs.Machine.Programs

namespace Chip8

/-- An integer that is no byte is reported, whatever stands behind it. -/
theorem bytesOf_refused (bytes : List UInt8) {value : Int} (large : ¬ (0 ≤ value ∧ value ≤ 255))
    (rest : List Int) :
    bytesOf (bytes.map (fun byte => (byte.toNat : Int)) ++ value :: rest) =
      .error (.notAByte value) := by
  induction bytes with
  | nil =>
      have refused : byteOf value = .error (.notAByte value) := if_neg large
      rw [List.map_nil, List.nil_append, bytesOf, List.mapM_cons, refused]
      rfl
  | cons byte bytes ih =>
      rw [bytesOf] at ih ⊢
      rw [List.map_cons, List.cons_append, List.mapM_cons, byteOf_toNat, ih]
      rfl

namespace Machine

/-- This says that an address lies in the block of some bytes. -/
def InBlock (address : Int) (bytes : List UInt8) (cell : Int) : Prop :=
  address ≤ cell ∧ cell < address + bytes.length

instance (address : Int) (bytes : List UInt8) (cell : Int) :
    Decidable (InBlock address bytes cell) :=
  inferInstanceAs (Decidable (_ ∧ _))

variable {machine next : Machine} {address : Int} {bytes : List UInt8}

/-- A written block shows its bytes and leaves all other cells alone. -/
theorem getElem?_of_writeBlock (written : machine.writeBlock address bytes = .ok next) {cell : Int}
    (above : 0 ≤ cell) :
    next.memory[cell.toNat]? =
      if InBlock address bytes cell then bytes[(cell - address).toNat]?
      else machine.memory[cell.toNat]? := by
  obtain ⟨start, stop⟩ := writeBlock_inside written
  rw [writeBlock_ok written]
  by_cases inside : InBlock address bytes cell
  · obtain ⟨first, last⟩ := inside
    have place : cell.toNat = address.toNat + (cell - address).toNat := by omega
    rw [if_pos ⟨first, last⟩, place]
    exact getElem?_overlay_inside machine.memory (by omega) (by omega)
  · rw [if_neg inside]
    apply getElem?_overlay_outside
    unfold InBlock at inside
    omega

/-- A write changes nothing but memory. -/
theorem writeBlock_rest (written : machine.writeBlock address bytes = .ok next) :
    next = { machine with memory := next.memory } := by
  rw [writeBlock_ok written]

/-- This says that a machine is another one after the bytes of a block were written. -/
structure Writes (machine : Machine) (address : Int) (bytes : List UInt8) (next : Machine) :
    Prop where
  reads : ∀ (start : Int) (length : Nat), 0 ≤ start → start + length ≤ 4096 →
    ∃ block, next.readBlock start length = .ok block ∧ block.length = length ∧
      ∀ cell : Int, start ≤ cell → cell < start + length →
        block[(cell - start).toNat]? =
          if InBlock address bytes cell then bytes[(cell - address).toNat]?
          else machine.memory[cell.toNat]?
  rest : next = { machine with memory := next.memory }
  size : next.memory.toList.length = 4096

/-- A successful write writes its bytes. -/
theorem writes_of_writeBlock (written : machine.writeBlock address bytes = .ok next) :
    machine.Writes address bytes next where
  reads start length above inside := by
    obtain ⟨block, read⟩ : ∃ block, next.readBlock start length = .ok block :=
      ⟨_, (next.readBlock_ok_iff start length _).mpr ⟨above, inside, rfl⟩⟩
    refine ⟨block, read, readBlock_length read, ?_⟩
    intro cell first last
    have place : start.toNat + (cell - start).toNat = cell.toNat := by omega
    rw [getElem?_of_readBlock read (by omega), place]
    exact getElem?_of_writeBlock written (by omega)
  rest := writeBlock_rest written
  size := Vector.length_toList

/-- A write succeeds in memory. -/
theorem exists_writeBlock (machine : Machine) (start : 0 ≤ address)
    (stop : address + bytes.length ≤ 4096) :
    ∃ next, machine.writeBlock address bytes = .ok next :=
  ⟨_, (machine.writeBlock_ok_iff _ address bytes).mpr ⟨⟨start, stop⟩, rfl⟩⟩

variable {middle final : Machine} {firstAddress secondAddress : Int}
  {first second : List UInt8}

/-- Whether a write is refused does not depend on the machine. -/
theorem writeBlock_error_transfer {fault : Fault}
    (refused : machine.writeBlock address bytes = .error fault) (other : Machine) :
    other.writeBlock address bytes = .error fault := by
  rw [writeBlock_error_iff] at refused ⊢
  exact refused

/-- Of two writes the later one shows in its block, and the earlier one where the later one leaves
it. -/
theorem getElem?_of_writeBlocks (written : machine.writeBlock firstAddress first = .ok middle)
    (writtenLater : middle.writeBlock secondAddress second = .ok final) {cell : Int}
    (above : 0 ≤ cell) :
    final.memory[cell.toNat]? =
      if InBlock secondAddress second cell then second[(cell - secondAddress).toNat]?
      else if InBlock firstAddress first cell then first[(cell - firstAddress).toNat]?
      else machine.memory[cell.toNat]? := by
  rw [getElem?_of_writeBlock writtenLater above, getElem?_of_writeBlock written above]

/-- Two writes to blocks that have no address in common end in the same machine in either order. -/
theorem writeBlocks_unique
    (apart : ∀ cell, ¬ (InBlock firstAddress first cell ∧ InBlock secondAddress second cell))
    (written : machine.writeBlock firstAddress first = .ok middle)
    (writtenLater : middle.writeBlock secondAddress second = .ok final)
    {middleOther finalOther : Machine}
    (writtenOther : machine.writeBlock secondAddress second = .ok middleOther)
    (writtenOtherLater : middleOther.writeBlock firstAddress first = .ok finalOther) :
    final = finalOther := by
  have memory : final.memory = finalOther.memory := by
    apply Vector.ext
    intro cell inside
    apply Option.some.inj
    have shown := getElem?_of_writeBlocks written writtenLater (Int.natCast_nonneg cell)
    have shownOther := getElem?_of_writeBlocks writtenOther writtenOtherLater
      (Int.natCast_nonneg cell)
    rw [Int.toNat_natCast] at shown shownOther
    rw [← Vector.getElem?_eq_getElem, ← Vector.getElem?_eq_getElem, shown, shownOther]
    by_cases covered : InBlock firstAddress first cell
    · have free : ¬ InBlock secondAddress second cell := fun both => apart cell ⟨covered, both⟩
      rw [if_neg free, if_neg free]
    · rw [if_neg covered, if_neg covered]
  rw [writeBlock_rest writtenLater, writeBlock_rest written, writeBlock_rest writtenOtherLater,
    writeBlock_rest writtenOther, memory]

/-- Writes to blocks that have no address in common commute, unless both are refused. -/
theorem writeBlock_comm (machine : Machine)
    (apart : ∀ cell, ¬ (InBlock firstAddress first cell ∧ InBlock secondAddress second cell))
    (inside : 0 ≤ firstAddress ∧ firstAddress + first.length ≤ 4096 ∨
      0 ≤ secondAddress ∧ secondAddress + second.length ≤ 4096) :
    (machine.writeBlock firstAddress first).bind
        (fun middle => middle.writeBlock secondAddress second) =
      (machine.writeBlock secondAddress second).bind
        (fun middle => middle.writeBlock firstAddress first) := by
  cases written : machine.writeBlock firstAddress first with
  | error fault =>
      have outside := ((machine.writeBlock_error_iff _ _ _).mp written).1
      have start : 0 ≤ secondAddress := by omega
      have stop : secondAddress + second.length ≤ 4096 := by omega
      obtain ⟨middle, writtenOther⟩ := machine.exists_writeBlock start stop
      rw [writtenOther]
      exact (writeBlock_error_transfer written middle).symm
  | ok middle =>
      cases writtenOther : machine.writeBlock secondAddress second with
      | error fault => exact writeBlock_error_transfer writtenOther middle
      | ok middleOther =>
          obtain ⟨start, stop⟩ := writeBlock_inside written
          obtain ⟨startOther, stopOther⟩ := writeBlock_inside writtenOther
          obtain ⟨final, writtenLater⟩ := middle.exists_writeBlock startOther stopOther
          obtain ⟨finalOther, writtenOtherLater⟩ := middleOther.exists_writeBlock start stop
          have same := writeBlocks_unique apart written writtenLater writtenOther writtenOtherLater
          change middle.writeBlock secondAddress second = middleOther.writeBlock firstAddress first
          rw [writtenLater, writtenOtherLater, same]

/-- Integers that are bytes are written as these bytes. -/
theorem writeIntegers_bytes (machine : Machine) (address : Int) (bytes : List UInt8) :
    machine.writeIntegers address (bytes.map fun byte => (byte.toNat : Int)) =
      (machine.writeBlock address bytes).mapError fun fault =>
        .fault { fault, address := none } := by
  simp only [writeIntegers, bytesOf_map_toNat, bind, Except.bind]
  cases machine.writeBlock address bytes <;> rfl

/-- An integer that is no byte is reported before the block is checked. -/
theorem writeIntegers_refused (machine : Machine) (address : Int) (bytes : List UInt8)
    {value : Int} (large : ¬ (0 ≤ value ∧ value ≤ 255)) (rest : List Int) :
    machine.writeIntegers address (bytes.map (fun byte => (byte.toNat : Int)) ++ value :: rest) =
      .error (.notAByte value) := by
  simp only [writeIntegers, bytesOf_refused bytes large, bind, Except.bind]

/-- Blocks of memory obey the laws of arrays. Reads and writes are refused exactly if the block
leaves memory. A read behind a write shows the bytes written and the old bytes around them, writes
to blocks that have no address in common commute, and the later of two writes wins on its own block
only. An integer that is no byte is reported before the block is checked. -/
theorem blocks_obey_array_laws (machine : Machine) :
    (∀ (address : Int) (length : Nat) (fault : Fault),
      machine.readBlock address length = .error fault ↔
        (address < 0 ∨ 4096 < address + length) ∧ fault = .outOfRange address length) ∧
    (∀ (address : Int) (bytes : List UInt8) (fault : Fault),
      machine.writeBlock address bytes = .error fault ↔
        (address < 0 ∨ 4096 < address + bytes.length) ∧
          fault = .outOfRange address bytes.length) ∧
    (∀ address bytes next, machine.writeBlock address bytes = .ok next →
      machine.Writes address bytes next) ∧
    (∀ firstAddress first secondAddress second,
      (∀ cell, ¬ (InBlock firstAddress first cell ∧ InBlock secondAddress second cell)) →
      (0 ≤ firstAddress ∧ firstAddress + first.length ≤ 4096 ∨
        0 ≤ secondAddress ∧ secondAddress + second.length ≤ 4096) →
      (machine.writeBlock firstAddress first).bind
          (fun middle => middle.writeBlock secondAddress second) =
        (machine.writeBlock secondAddress second).bind
          (fun middle => middle.writeBlock firstAddress first)) ∧
    (∀ firstAddress first secondAddress second middle final,
      machine.writeBlock firstAddress first = .ok middle →
      middle.writeBlock secondAddress second = .ok final →
      ∀ cell : Int, 0 ≤ cell →
        final.memory[cell.toNat]? =
          if InBlock secondAddress second cell then second[(cell - secondAddress).toNat]?
          else if InBlock firstAddress first cell then first[(cell - firstAddress).toNat]?
          else machine.memory[cell.toNat]?) ∧
    (∀ (address : Int) (bytes : List UInt8),
      machine.writeIntegers address (bytes.map fun byte => (byte.toNat : Int)) =
        (machine.writeBlock address bytes).mapError fun fault =>
          .fault { fault, address := none }) ∧
    ∀ (address : Int) (bytes : List UInt8) (value : Int) (rest : List Int),
      ¬ (0 ≤ value ∧ value ≤ 255) →
      machine.writeIntegers address
          (bytes.map (fun byte => (byte.toNat : Int)) ++ value :: rest) =
        .error (.notAByte value) := by
  refine ⟨?reads, machine.writeBlock_error_iff, ?writes, ?commute, ?wins,
    machine.writeIntegers_bytes, ?integers⟩
  case reads =>
    intro address length fault
    exact machine.readBlock_error_iff address length fault
  case writes =>
    intro address bytes next written
    exact writes_of_writeBlock written
  case commute =>
    intro firstAddress first secondAddress second apart inside
    exact machine.writeBlock_comm apart inside
  case wins =>
    intro firstAddress first secondAddress second middle final written writtenLater cell above
    exact getElem?_of_writeBlocks written writtenLater above
  case integers =>
    intro address bytes value rest large
    exact machine.writeIntegers_refused address bytes large rest

/-- The later of two writes at the end of memory wins on its own block. An empty block is accepted
at the end of memory and not behind it, and writes of which one lies in memory commute. -/
theorem later_write_wins_at_end_of_memory :
    let machine := powerOn (Random.ofSeed 0) 0 0 true
    (∃ middle final,
      machine.writeBlock 4093 [1, 2, 3] = .ok middle ∧ middle.writeBlock 4092 [8, 9] = .ok final ∧
      final.memory[4092]? = some 8 ∧ final.memory[4093]? = some 9 ∧
      final.memory[4094]? = some 2 ∧ final.memory[4091]? = machine.memory[4091]? ∧
      ∃ block, final.readBlock 4092 4 = .ok block ∧ block.length = 4) ∧
    (∃ next, machine.writeBlock 4096 [] = .ok next) ∧
    machine.writeBlock 4097 [] = .error (.outOfRange 4097 0) ∧
    (machine.writeBlock 4093 [1]).bind (fun middle => middle.writeBlock (-1) [2]) =
      (machine.writeBlock (-1) [2]).bind (fun middle => middle.writeBlock 4093 [1]) ∧
    machine.writeIntegers (-5) [7, 256] = .error (.notAByte 256) := by
  intro machine
  obtain ⟨_, refused, _, commute, wins, _, integers⟩ := blocks_obey_array_laws machine
  obtain ⟨middle, written⟩ : ∃ middle, machine.writeBlock 4093 [1, 2, 3] = .ok middle :=
    machine.exists_writeBlock (by decide) (by decide)
  obtain ⟨final, writtenLater⟩ : ∃ final, middle.writeBlock 4092 [8, 9] = .ok final :=
    middle.exists_writeBlock (by decide) (by decide)
  have shown := wins _ _ _ _ _ _ written writtenLater
  obtain ⟨_, _, writes, _⟩ := blocks_obey_array_laws middle
  obtain ⟨block, read, length, _⟩ :=
    (writes _ _ _ writtenLater).reads 4092 4 (by decide) (by decide)
  have apart (cell : Int) : ¬ (InBlock 4093 [1] cell ∧ InBlock (-1) [2] cell) := by
    simp only [InBlock, List.length_cons, List.length_nil]
    omega
  exact ⟨⟨middle, final, written, writtenLater, shown 4092 (by decide), shown 4093 (by decide),
      shown 4094 (by decide), shown 4091 (by decide), block, read, length⟩,
    machine.exists_writeBlock (by decide) (by decide),
    (refused 4097 [] _).mpr ⟨by decide, rfl⟩, commute _ _ _ _ apart (by decide),
    integers (-5) [7] 256 [] (by decide)⟩

end Machine

end Chip8
