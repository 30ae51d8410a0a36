import Chip8.Proofs.Machine.Blocks
import Chip8.Rom

namespace Chip8

namespace Machine

/-- An overlay shows its bytes and, where there are none, the memory below. -/
theorem getElem?_overlay (memory : Vector UInt8 4096) (address : Nat) (bytes : List UInt8)
    {cell : Nat} (inside : cell < 4096) :
    (overlay memory address bytes.toArray)[cell]? =
      (if address ≤ cell then bytes[cell - address]? else none).or memory[cell]? := by
  rw [Vector.getElem?_eq_getElem inside, Vector.getElem?_eq_getElem inside]
  simp only [overlay, Vector.getElem_ofFn, List.size_toArray]
  by_cases below : cell < address
  · rw [dif_neg (by omega), if_neg (by omega)]
    rfl
  · by_cases behind : cell - address < bytes.length
    · rw [dif_pos ⟨by omega, behind⟩, if_pos (by omega), List.getElem?_eq_getElem behind]
      simp
    · rw [dif_neg (by omega), if_pos (by omega), List.getElem?_eq_none (by omega)]
      rfl

/-- An overlay that fits shows all of its bytes. -/
theorem getElem?_overlay_inside (memory : Vector UInt8 4096) {address : Nat} {bytes : List UInt8}
    (fits : address + bytes.length ≤ 4096) {offset : Nat} (inside : offset < bytes.length) :
    (overlay memory address bytes.toArray)[address + offset]? = bytes[offset]? := by
  rw [getElem?_overlay _ _ _ (by omega), if_pos (Nat.le_add_right _ _), Nat.add_sub_cancel_left,
    List.getElem?_eq_getElem inside, Option.some_or]

/-- Outside of an overlay the memory below shows. -/
theorem getElem?_overlay_outside (memory : Vector UInt8 4096) {address : Nat} {bytes : List UInt8}
    {cell : Nat} (outside : cell < address ∨ address + bytes.length ≤ cell) :
    (overlay memory address bytes.toArray)[cell]? = memory[cell]? := by
  by_cases inside : cell < 4096
  · rw [getElem?_overlay _ _ _ inside]
    obtain below | behind := outside
    · rw [if_neg (by omega), Option.none_or]
    · rw [if_pos (by omega), List.getElem?_eq_none (by omega), Option.none_or]
  · have behind : 4096 ≤ cell := Nat.le_of_not_lt inside
    rw [Vector.getElem?_eq_none behind, Vector.getElem?_eq_none behind]

/-- An overlay hides as much of an earlier one as it is long. -/
theorem overlay_overlay (memory : Vector UInt8 4096) (address : Nat) (first second : List UInt8) :
    overlay (overlay memory address first.toArray) address second.toArray =
      overlay memory address (second ++ first.drop second.length).toArray := by
  have hides (offset : Nat) :
      (second ++ first.drop second.length)[offset]? = second[offset]?.or first[offset]? := by
    by_cases shown : offset < second.length
    · rw [List.getElem?_append_left shown, List.getElem?_eq_getElem shown, Option.some_or]
    · have behind : second.length ≤ offset := Nat.not_lt.mp shown
      rw [List.getElem?_append_right behind, List.getElem?_drop, Nat.add_sub_cancel' behind,
        List.getElem?_eq_none behind, Option.none_or]
  apply Vector.ext
  intro cell inside
  apply Option.some.inj
  rw [← Vector.getElem?_eq_getElem, ← Vector.getElem?_eq_getElem, getElem?_overlay _ _ _ inside,
    getElem?_overlay _ _ _ inside, getElem?_overlay _ _ _ inside, hides, ← Option.or_assoc]
  split <;> rfl

theorem overlay_nil (memory : Vector UInt8 4096) (address : Nat) :
    overlay memory address [].toArray = memory := by
  apply Vector.ext
  intro cell inside
  exact overlay_outside memory inside (by simp)

/-- An overlay behind another one continues it. -/
theorem overlay_behind (memory : Vector UInt8 4096) (address : Nat) (first second : List UInt8) :
    overlay (overlay memory address first.toArray) (address + first.length) second.toArray =
      overlay memory address (first ++ second).toArray := by
  apply Vector.ext
  intro cell inside
  apply Option.some.inj
  rw [← Vector.getElem?_eq_getElem, ← Vector.getElem?_eq_getElem, getElem?_overlay _ _ _ inside,
    getElem?_overlay _ _ _ inside, getElem?_overlay _ _ _ inside]
  by_cases behind : address + first.length ≤ cell
  · rw [if_pos behind, if_pos (by omega), if_pos (by omega),
      List.getElem?_append_right (by omega), List.getElem?_eq_none (l := first) (by omega),
      Option.none_or, Nat.sub_sub]
  · rw [if_neg behind, Option.none_or]
    by_cases above : address ≤ cell
    · rw [if_pos above, if_pos above, List.getElem?_append_left (by omega)]
    · rw [if_neg above, if_neg above]

/-- This says that a machine is another one with a program in its memory. -/
structure Loads (machine : Machine) (program : List UInt8) (loaded : Machine) : Prop where
  bytes : ∀ offset < program.length, loaded.memory[0x200 + offset]? = program[offset]?
  others : ∀ cell, cell < 0x200 ∨ 0x200 + program.length ≤ cell →
    loaded.memory[cell]? = machine.memory[cell]?
  rest : loaded = { machine with memory := loaded.memory }

variable {machine loaded : Machine} {program : List UInt8}

/-- A program in memory fits behind the program start. -/
theorem Loads.fits (loads : machine.Loads program loaded) : program.length ≤ 3584 := by
  apply Nat.le_of_not_lt
  intro long
  have last := loads.bytes 3584 (by omega)
  rw [Vector.getElem?_eq_none (Nat.le_refl 4096), List.getElem?_eq_getElem long] at last
  contradiction

/-- A program in memory is overlaid. -/
theorem Loads.memory (loads : machine.Loads program loaded) :
    loaded.memory = overlay machine.memory 0x200 program.toArray := by
  apply Vector.ext
  intro cell inside
  apply Option.some.inj
  rw [← Vector.getElem?_eq_getElem, ← Vector.getElem?_eq_getElem, getElem?_overlay _ _ _ inside]
  by_cases covered : 0x200 ≤ cell ∧ cell - 0x200 < program.length
  · obtain ⟨above, within⟩ := covered
    have byte := loads.bytes (cell - 0x200) within
    rw [Nat.add_sub_cancel' above] at byte
    rw [byte, if_pos above, List.getElem?_eq_getElem within, Option.some_or]
  · rw [loads.others cell (by omega)]
    by_cases above : 0x200 ≤ cell
    · rw [if_pos above, List.getElem?_eq_none (by omega), Option.none_or]
    · rw [if_neg above, Option.none_or]

/-- A program that fits is overlaid. -/
theorem loads_overlay (fits : program.length ≤ 3584) (machine : Machine) :
    machine.Loads program
      { machine with memory := overlay machine.memory 0x200 program.toArray } where
  bytes _ inside := getElem?_overlay_inside machine.memory (by omega) inside
  others _ outside := getElem?_overlay_outside machine.memory outside
  rest := rfl

/-- A load succeeds exactly with the program in memory. -/
theorem loadProgram_ok_iff :
    machine.loadProgram program = .ok loaded ↔ machine.Loads program loaded := by
  constructor
  · intro accepted
    have fits : (0x200 : Int) + program.length ≤ 4096 := (writeBlock_inside accepted).2
    rw [writeBlock_ok accepted]
    exact loads_overlay (by omega) machine
  · intro loads
    cases result : machine.loadProgram program with
    | ok other => rw [writeBlock_ok result, loads.rest, loads.memory]; rfl
    | error fault =>
        have outside : (0x200 : Int) < 0 ∨ (4096 : Int) < 0x200 + program.length :=
          ((writeBlock_error_iff _ _ _ _).mp result).1
        have fits := loads.fits
        omega

/-- A load fails exactly on a program that does not fit behind the program start. -/
theorem loadProgram_error_iff {fault : Fault} :
    machine.loadProgram program = .error fault ↔
      3584 < program.length ∧ fault = .outOfRange 0x200 program.length := by
  have refused := writeBlock_error_iff machine Layout.programStart program fault
  change _ ↔ ((0x200 : Int) < 0 ∨ (4096 : Int) < 0x200 + program.length) ∧ _ at refused
  rw [loadProgram, refused]
  constructor
  · rintro ⟨outside, rfl⟩
    exact ⟨by omega, rfl⟩
  · rintro ⟨long, rfl⟩
    exact ⟨by omega, rfl⟩

/-- A program loaded over another one hides as much of it as it is long. -/
theorem Loads.overlaid {final : Machine} {second : List UInt8}
    (loads : machine.Loads program loaded) (loadsSecond : loaded.Loads second final) :
    machine.Loads (second ++ program.drop second.length) final := by
  have fits : (second ++ program.drop second.length).length ≤ 3584 := by
    have front := loads.fits
    have behind := loadsSecond.fits
    rw [List.length_append, List.length_drop]
    omega
  have both := loads_overlay fits machine
  rw [← overlay_overlay, ← loads.memory, ← loadsSecond.memory] at both
  rw [loadsSecond.rest, loads.rest]
  exact both

/-- Two loads one after the other come to one of the second program and of what it leaves of the
first. -/
theorem loadProgram_loadProgram (fits : program.length ≤ 3584) (machine : Machine)
    (second : List UInt8) :
    (machine.loadProgram program).bind (fun loaded => loaded.loadProgram second) =
      machine.loadProgram (second ++ program.drop second.length) := by
  have loads := loads_overlay fits machine
  generalize { machine with memory := _ } = loaded at loads
  rw [loadProgram_ok_iff.mpr loads]
  change loaded.loadProgram second = _
  by_cases secondFits : second.length ≤ 3584
  · have loadsSecond := loads_overlay secondFits loaded
    rw [loadProgram_ok_iff.mpr loadsSecond, loadProgram_ok_iff.mpr (loads.overlaid loadsSecond)]
  · have long : 3584 < second.length := Nat.lt_of_not_le secondFits
    rw [List.drop_eq_nil_of_le (by omega), List.append_nil,
      loadProgram_error_iff.mpr ⟨long, rfl⟩, loadProgram_error_iff.mpr ⟨long, rfl⟩]

end Machine

/-- This says that opening the file of a name and reading it gives a program. -/
structure Storage.Yields (storage : Storage) (name : String) (program : List UInt8) : Prop where
  openable : '\x00' ∉ name.toList
  content : storage.read name = .ok program

namespace Rom

variable {storage : Storage} {name : String} {program : List UInt8}

/-- An image that fits behind the program start is read as it is. -/
theorem read_fitting (yields : storage.Yields name program) (fits : program.length ≤ 3584) :
    read storage name = .ok program := by
  have small : ¬ Layout.maxProgramSize < program.length := Nat.not_lt.mpr fits
  simp [read, yields.openable, yields.content, small]

/-- An image that does not fit behind the program start is refused by its size. -/
theorem read_tooLarge (yields : storage.Yields name program) (long : 3584 < program.length) :
    read storage name = .error (.rom (.tooLarge (FileTree.baseName name) program.length)) := by
  have large : Layout.maxProgramSize < program.length := long
  simp [read, yields.openable, yields.content, large]

/-- An image that is read fits behind the program start. -/
theorem fits_of_read (accepted : read storage name = .ok program) : program.length ≤ 3584 := by
  unfold read at accepted
  repeat' split at accepted
  all_goals cases accepted
  exact Nat.le_of_not_lt ‹_›

/-- An image is never refused with a fault of the machine. -/
theorem read_ne_fault (storage : Storage) (name : String) (located : LocatedFault) :
    read storage name ≠ .error (.fault located) := by
  unfold read
  repeat' split
  all_goals nofun

/-- An image is loaded like the program in it. -/
theorem load_yielded {machine loaded : Machine} (yields : storage.Yields name program)
    (loads : machine.Loads program loaded) : load storage name machine = .ok loaded := by
  have accepted := Machine.loadProgram_ok_iff.mpr loads
  simp only [load, read_fitting yields loads.fits, accepted, bind, Except.bind, pure, Except.pure]

/-- A load of an image never ends with a fault of the machine. -/
theorem load_ne_fault (storage : Storage) (name : String) (machine : Machine)
    (located : LocatedFault) : load storage name machine ≠ .error (.fault located) := by
  cases result : read storage name with
  | error error =>
      intro refused
      simp only [load, result, bind, Except.bind] at refused
      apply read_ne_fault storage name located
      rw [result, Except.error.inj refused]
  | ok program =>
      have accepted := Machine.loadProgram_ok_iff.mpr
        (Machine.loads_overlay (fits_of_read result) machine)
      simp only [load, result, accepted, bind, Except.bind, pure, Except.pure]
      nofun

end Rom

end Chip8
