import Chip8.Proofs.Machine.Faults
import Chip8.Proofs.Machine.Nesting
import Chip8.Proofs.Machine.Programs
import Mathlib.Algebra.GroupWithZero.Nat
import Mathlib.Data.List.GetD

namespace Chip8

/-- This is a transfer of a block: the registers in front of it and the last of those that it
transfers. -/
structure Transfer where
  registers : Vector UInt8 16
  last : Register

namespace Transfer

def size (transfer : Transfer) : Nat :=
  transfer.last.val + 1

/-- These are the bytes that a transfer stores. -/
def bytes (transfer : Transfer) : List UInt8 :=
  transfer.registers.toList.take transfer.size

/-- This is the size of all transfers together. -/
def total (transfers : List Transfer) : Nat :=
  (transfers.map size).sum

theorem size_le (transfer : Transfer) : transfer.size ≤ 16 := transfer.last.isLt

theorem length_bytes (transfer : Transfer) : transfer.bytes.length = transfer.size := by
  rw [bytes, List.length_take, Vector.length_toList]
  exact Nat.min_eq_left transfer.size_le

@[simp] theorem total_nil : total [] = 0 := rfl

@[simp] theorem total_cons (transfer : Transfer) (rest : List Transfer) :
    total (transfer :: rest) = transfer.size + total rest := by
  simp [total]

theorem total_append (front rest : List Transfer) :
    total (front ++ rest) = total front + total rest := by
  simp [total]

/-- Only the last registers count for the size of transfers. -/
theorem total_congr {transfers others : List Transfer}
    (same : transfers.map last = others.map last) : total transfers = total others := by
  have sizes (transfers : List Transfer) :
      transfers.map size = (transfers.map last).map fun last => last.val + 1 := by
    rw [List.map_map]
    rfl
  rw [total, total, sizes, sizes, same]

theorem length_flatMap_bytes (transfers : List Transfer) :
    (transfers.flatMap bytes).length = total transfers := by
  induction transfers with
  | nil => rfl
  | cons transfer rest ih =>
      rw [List.flatMap_cons, List.length_append, ih, length_bytes, total_cons]

/-- A byte of a transfer is that of its register. -/
theorem getElem?_bytes (transfer : Transfer) {x : Register} (inside : x ≤ transfer.last) :
    transfer.bytes[x.val]? = some (transfer.registers.get x) := by
  have below : x.val < transfer.size := Nat.lt_succ_of_le inside
  rw [bytes, List.getElem?_take_of_lt below, Vector.getElem?_toList,
    Vector.getElem?_eq_getElem x.isLt]
  rfl

/-- Blocks that are laid one behind the other are found behind those in front of them. -/
theorem getElem?_flatMap_bytes (earlier later : List Transfer) (transfer : Transfer)
    {offset : Nat} (inside : offset < transfer.size) :
    ((earlier ++ transfer :: later).flatMap bytes)[total earlier + offset]? =
      transfer.bytes[offset]? := by
  rw [List.flatMap_append, List.flatMap_cons,
    List.getElem?_append_right (by rw [length_flatMap_bytes]; omega), length_flatMap_bytes,
    Nat.add_sub_cancel_left, List.getElem?_append_left (by rw [length_bytes]; exact inside)]

/-- This says how stores whose first block left starts at an address end: with nothing left, or with
the fault of a block that leaves memory. -/
def Ends (start : Nat) (rest : List Transfer) (fault : Option Fault) : Prop :=
  match rest with
  | [] => fault = none
  | block :: _ => 4096 < start + block.size ∧ fault = some (.outOfRange start block.size)

/-- Transfers one behind the other split in front of the first block that leaves memory. -/
theorem exists_split_behind (start : Nat) (transfers : List Transfer) :
    ∃ front rest fault, transfers = front ++ rest ∧ (front ≠ [] → start + total front ≤ 4096) ∧
      Ends (start + total front) rest fault := by
  induction transfers generalizing start with
  | nil => exact ⟨[], [], none, rfl, nofun, rfl⟩
  | cons block transfers ih =>
      by_cases inside : start + block.size ≤ 4096
      · obtain ⟨front, rest, fault, rfl, fits, ends⟩ := ih (start + block.size)
        rw [Nat.add_assoc, ← total_cons] at fits ends
        refine ⟨block :: front, rest, fault, rfl, fun _ => ?_, ends⟩
        cases front with
        | nil => exact inside
        | cons next front => exact fits (List.cons_ne_nil _ _)
      · exact ⟨[], block :: transfers, _, rfl, nofun, Nat.lt_of_not_le inside, rfl⟩

/-- Transfers at one address split in front of the first block that leaves memory. -/
theorem exists_split_over (start : Nat) (transfers : List Transfer) :
    ∃ front rest fault, transfers = front ++ rest ∧ (∀ block ∈ front, start + block.size ≤ 4096) ∧
      Ends start rest fault := by
  induction transfers with
  | nil => exact ⟨[], [], none, rfl, nofun, rfl⟩
  | cons block transfers ih =>
      by_cases inside : start + block.size ≤ 4096
      · obtain ⟨front, rest, fault, rfl, fits, ends⟩ := ih
        exact ⟨block :: front, rest, fault, rfl, List.forall_mem_cons.mpr ⟨inside, fits⟩, ends⟩
      · exact ⟨[], block :: transfers, _, rfl, nofun, Nat.lt_of_not_le inside, rfl⟩

end Transfer

open Transfer

namespace Machine

/-- This is a machine in front of a transfer. -/
def prepare (machine : Machine) (transfer : Transfer) : Machine :=
  { machine with registers := transfer.registers }

/-- This executes one transfer after the other, each with its own registers, up to the first
fault. -/
def transferAll (machine : Machine) (kind : Register → Instruction) :
    List Transfer → Machine × Option Fault
  | [] => (machine, none)
  | transfer :: rest =>
    match (machine.prepare transfer).executeWord (kind transfer.last).word with
    | .ok next => next.transferAll kind rest
    | .error fault => (machine.prepare transfer, some fault)

theorem transferAll_cons {machine next : Machine} {kind : Register → Instruction}
    {transfer : Transfer}
    (executed : (machine.prepare transfer).executeWord (kind transfer.last).word = .ok next)
    (rest : List Transfer) :
    machine.transferAll kind (transfer :: rest) = next.transferAll kind rest := by
  rw [transferAll, executed]

theorem transferAll_append {machine middle : Machine} {kind : Register → Instruction}
    {front : List Transfer} (runs : machine.transferAll kind front = (middle, none))
    (rest : List Transfer) :
    machine.transferAll kind (front ++ rest) = middle.transferAll kind rest := by
  induction front generalizing machine with
  | nil => cases runs; rfl
  | cons transfer front ih =>
      simp only [transferAll, List.cons_append] at runs ⊢
      split at runs
      · exact ih runs
      · cases runs

/-- A store in memory overlays its bytes and passes them. -/
theorem transferAll_store (machine : Machine) {store : Transfer}
    (inside : machine.index.toNat + store.size ≤ 4096) (rest : List Transfer) :
    ∃ index registers,
      machine.transferAll .storeRegisters (store :: rest) =
          { machine with
            memory := overlay machine.memory machine.index.toNat store.bytes.toArray
            index, registers }.transferAll .storeRegisters rest ∧
        index.toNat = machine.index.toNat + if machine.modern then 0 else store.size := by
  let stored := { machine.prepare store with
    memory := overlay machine.memory machine.index.toNat store.bytes.toArray }
  have written : (machine.prepare store).writeBlock machine.index.toNat store.bytes = .ok stored :=
    (writeBlock_ok_iff _ _ _ _).mpr ⟨by rw [length_bytes]; omega, rfl⟩
  have executed : (machine.prepare store).executeWord (Instruction.storeRegisters store.last).word =
      .ok (stored.passBlock store.last) := by
    rw [executeWord_word _ (by rintro _ ⟨⟩), execute_storeRegisters]
    change ((machine.prepare store).writeBlock machine.index.toNat store.bytes).map _ = _
    rw [written]
    rfl
  refine ⟨(stored.passBlock store.last).index, store.registers, ?_,
    stored.passBlock_index_toNat store.last inside⟩
  rw [transferAll_cons executed]
  exact congrArg (transferAll · .storeRegisters rest) (stored.passBlock_index store.last)

/-- Stores end with the fault of the first block left if it leaves memory. -/
theorem transferAll_ends (machine : Machine) {rest : List Transfer} {fault : Option Fault}
    (ends : Ends machine.index.toNat rest fault) :
    ∃ registers,
      machine.transferAll .storeRegisters rest = ({ machine with registers }, fault) := by
  cases rest with
  | nil =>
      cases ends
      exact ⟨machine.registers, rfl⟩
  | cons store rest =>
      obtain ⟨outside, rfl⟩ := ends
      refine ⟨store.registers, ?_⟩
      have refused : (machine.prepare store).executeWord
          (Instruction.storeRegisters store.last).word =
            .error (.outOfRange machine.index.toNat store.size) := by
        rw [executeWord_word _ (by rintro _ ⟨⟩), execute_error_iff]
        exact .storeRegisters store.last outside
      rw [transferAll, refused]
      rfl

/-- Stores in legacy mode lay their bytes one behind the other. -/
theorem transferAll_stores_legacy (machine : Machine) (legacy : machine.modern = false)
    {front : List Transfer}
    (fits : front ≠ [] → machine.index.toNat + total front ≤ 4096) :
    ∃ index registers,
      machine.transferAll .storeRegisters front =
          ({ machine with
            memory := overlay machine.memory machine.index.toNat (front.flatMap bytes).toArray
            index, registers }, none) ∧
        index.toNat = machine.index.toNat + total front := by
  induction front generalizing machine with
  | nil =>
      refine ⟨machine.index, machine.registers, ?_, rfl⟩
      rw [List.flatMap_nil, overlay_nil]
      rfl
  | cons store front ih =>
      have inside := fits (List.cons_ne_nil _ _)
      rw [total_cons] at inside
      have within : machine.index.toNat + store.size ≤ 4096 := by omega
      obtain ⟨index, registers, first, passed⟩ := machine.transferAll_store within front
      rw [legacy, if_neg Bool.false_ne_true] at passed
      obtain ⟨last, others, runs, behind⟩ := ih { machine with
        memory := overlay machine.memory machine.index.toNat store.bytes.toArray
        index, registers } legacy (by intro _; change index.toNat + _ ≤ _; omega)
      refine ⟨last, others, ?_, ?_⟩
      · rw [first, runs]
        simp only [passed]
        rw [← length_bytes, overlay_behind, List.flatMap_cons]
      · simp only at behind
        rw [behind, passed, total_cons, Nat.add_assoc]

/-- This is a memory with the bytes of all transfers from one address on, each laid over those in
front of it. -/
def overlays (start : Nat) (memory : Vector UInt8 4096) (front : List Transfer) :
    Vector UInt8 4096 :=
  front.foldl (fun memory store => overlay memory start store.bytes.toArray) memory

theorem overlays_cons (start : Nat) (memory : Vector UInt8 4096) (store : Transfer)
    (front : List Transfer) :
    overlays start memory (store :: front) =
      overlays start (overlay memory start store.bytes.toArray) front := by
  rw [overlays, List.foldl_cons, overlays]

/-- A cell below several overlays shows the last one that reaches it. -/
theorem getElem?_overlays (start : Nat) (memory : Vector UInt8 4096) (front : List Transfer)
    {cell : Nat} (inside : cell < 4096) :
    (overlays start memory front)[cell]? =
      (if start ≤ cell then front.reverse.findSome? fun store => store.bytes[cell - start]?
        else none).or memory[cell]? := by
  induction front generalizing memory with
  | nil => simp [overlays]
  | cons store front ih =>
      rw [overlays_cons, ih, getElem?_overlay _ _ _ inside, ← Option.or_assoc, List.reverse_cons,
        List.findSome?_append, List.findSome?_singleton]
      split <;> rfl

/-- Stores in modern mode lay their bytes over each other. -/
theorem transferAll_stores_modern (machine : Machine) (modern : machine.modern = true)
    {front : List Transfer}
    (fits : ∀ store ∈ front, machine.index.toNat + store.size ≤ 4096) :
    ∃ registers,
      machine.transferAll .storeRegisters front =
        ({ machine with
          memory := overlays machine.index.toNat machine.memory front, registers }, none) := by
  induction front generalizing machine with
  | nil => exact ⟨machine.registers, rfl⟩
  | cons store front ih =>
      obtain ⟨inside, fits⟩ := List.forall_mem_cons.mp fits
      obtain ⟨index, registers, first, passed⟩ := machine.transferAll_store inside front
      rw [modern, if_pos rfl, Nat.add_zero, UInt16.toNat_inj] at passed
      subst passed
      obtain ⟨others, runs⟩ := ih { machine with
        memory := overlay machine.memory machine.index.toNat store.bytes.toArray
        registers } modern fits
      refine ⟨others, ?_⟩
      rw [first, overlays_cons]
      exact runs

/-- A load in memory replaces registers by the bytes from the index on and passes them. -/
theorem transferAll_load (machine : Machine) {load : Transfer}
    (inside : machine.index.toNat + load.size ≤ 4096) (rest : List Transfer) :
    ∃ index registers,
      machine.transferAll .loadRegisters (load :: rest) =
          { machine with index, registers }.transferAll .loadRegisters rest ∧
        index.toNat = machine.index.toNat + (if machine.modern then 0 else load.size) ∧
        (∀ x ≤ load.last,
          machine.memory[machine.index.toNat + x.val]? = some (registers.get x)) ∧
        ∀ x, load.last < x → registers.get x = load.registers.get x := by
  obtain ⟨bytes, read⟩ : ∃ bytes,
      (machine.prepare load).readBlock machine.index.toNat load.size = .ok bytes :=
    ⟨_, (readBlock_ok_iff _ _ _ _).mpr ⟨by omega, by omega, rfl⟩⟩
  obtain ⟨registers, replaced, register⟩ : ∃ registers : Vector UInt8 16,
      (machine.prepare load).setRegisters bytes = { machine with registers } ∧
        ∀ x : Register, registers.get x = bytes.getD x.val (load.registers.get x) :=
    ⟨_, rfl, fun x => Vector.getElem_ofFn x.isLt⟩
  let loaded := { machine with registers }
  have executed : (machine.prepare load).executeWord (Instruction.loadRegisters load.last).word =
      .ok (loaded.passBlock load.last) := by
    rw [executeWord_word _ (by rintro _ ⟨⟩), execute_loadRegisters]
    change ((machine.prepare load).readBlock machine.index.toNat load.size).map _ = _
    rw [read, Except.map, replaced]
  refine ⟨(loaded.passBlock load.last).index, registers, ?_,
    loaded.passBlock_index_toNat load.last inside, ?_, ?_⟩
  · rw [transferAll_cons executed]
    exact congrArg (transferAll · .loadRegisters rest) (loaded.passBlock_index load.last)
  · intro x within
    have byte := getElem?_of_readBlock read (Nat.lt_succ_of_le within)
    have below : x.val < bytes.length := by
      rw [readBlock_length read]
      exact Nat.lt_succ_of_le within
    rw [register, List.getD_eq_getElem _ _ below, ← List.getElem?_eq_getElem below, byte]
    rfl
  · intro x above
    rw [register, List.getD_eq_default]
    rw [readBlock_length read]
    exact above

/-- Loads in legacy mode move over their bytes. -/
theorem transferAll_loads_legacy (machine : Machine) (legacy : machine.modern = false)
    {loads : List Transfer}
    (fits : loads ≠ [] → machine.index.toNat + total loads ≤ 4096) :
    ∃ index registers,
      machine.transferAll .loadRegisters loads = ({ machine with index, registers }, none) ∧
        index.toNat = machine.index.toNat + total loads := by
  induction loads generalizing machine with
  | nil => exact ⟨machine.index, machine.registers, rfl, rfl⟩
  | cons load loads ih =>
      have inside := fits (List.cons_ne_nil _ _)
      rw [total_cons] at inside
      have within : machine.index.toNat + load.size ≤ 4096 := by omega
      obtain ⟨index, registers, first, passed, _⟩ := machine.transferAll_load within loads
      rw [legacy, if_neg Bool.false_ne_true] at passed
      obtain ⟨last, others, runs, behind⟩ := ih { machine with index, registers }
        legacy (by intro _; change index.toNat + _ ≤ _; omega)
      refine ⟨last, others, first.trans runs, ?_⟩
      simp only at behind
      rw [behind, passed, total_cons, Nat.add_assoc]

/-- This says that a load gives the registers of a store back and changes nothing else, except for
the index. -/
structure Restores (machine : Machine) (store load : Transfer) (loaded : Machine) : Prop where
  restored : ∀ x ≤ load.last, loaded.register x = store.registers.get x
  kept : ∀ x, load.last < x → loaded.register x = load.registers.get x
  rest : loaded = { machine with registers := loaded.registers, index := loaded.index }

/-- A load at the bytes of a store restores its registers. -/
theorem transferAll_load_restores (machine : Machine) {store load : Transfer}
    (within : load.last ≤ store.last) (inside : machine.index.toNat + load.size ≤ 4096)
    (holds : ∀ offset < load.size,
      machine.memory[machine.index.toNat + offset]? = store.bytes[offset]?) :
    ∃ loaded,
      machine.transferAll .loadRegisters [load] = (loaded, none) ∧
        machine.Restores store load loaded ∧
        loaded.index.toNat =
          machine.index.toNat + if machine.modern then 0 else load.size := by
  obtain ⟨index, registers, runs, passed, reads, kept⟩ := machine.transferAll_load inside []
  refine ⟨_, runs, ⟨?_, kept, rfl⟩, passed⟩
  intro x loads
  have byte := holds x.val (Nat.lt_succ_of_le loads)
  rw [reads x loads, getElem?_bytes store (Fin.le_trans loads within)] at byte
  exact Option.some.inj byte

/-- This says how stores in legacy mode end: the ones in front lie one behind the other from the old
index on, can be loaded again, and the next one, if any, leaves memory. -/
structure ChainsBehind (machine : Machine) (front rest : List Transfer) (final : Machine)
    (fault : Option Fault) : Prop where
  fits : front ≠ [] → machine.index.toNat + total front ≤ 4096
  ends : Ends (machine.index.toNat + total front) rest fault
  bytes : ∀ offset < total front,
    final.memory[machine.index.toNat + offset]? = (front.flatMap Transfer.bytes)[offset]?
  others : ∀ cell, cell < machine.index.toNat ∨ machine.index.toNat + total front ≤ cell →
    final.memory[cell]? = machine.memory[cell]?
  index : final.index.toNat = machine.index.toNat + total front
  parts : final = { machine with
    memory := final.memory, index := final.index, registers := final.registers }
  reloads : ∀ earlier store later, front = earlier ++ store :: later →
    ∀ loads load, loads.map Transfer.last = earlier.map Transfer.last → load.last = store.last →
      ∃ loaded,
        { final with index := machine.index }.transferAll .loadRegisters (loads ++ [load]) =
            (loaded, none) ∧
          final.Restores store load loaded ∧
          loaded.index.toNat = machine.index.toNat + total (earlier ++ [store])

/-- This says how stores in modern mode end: the ones in front lie over each other from the index
on, the last of them can be loaded again, and the next one, if any, leaves memory. -/
structure ChainsOver (machine : Machine) (front rest : List Transfer) (final : Machine)
    (fault : Option Fault) : Prop where
  fits : ∀ store ∈ front, machine.index.toNat + store.size ≤ 4096
  ends : Ends machine.index.toNat rest fault
  bytes : ∀ offset, machine.index.toNat + offset < 4096 →
    final.memory[machine.index.toNat + offset]? =
      (front.reverse.findSome? fun store => store.bytes[offset]?).or
        machine.memory[machine.index.toNat + offset]?
  before : ∀ cell < machine.index.toNat, final.memory[cell]? = machine.memory[cell]?
  parts : final = { machine with memory := final.memory, registers := final.registers }
  reloads : ∀ earlier store load, front = earlier ++ [store] → load.last ≤ store.last →
    ∃ loaded,
      final.transferAll .loadRegisters [load] = (loaded, none) ∧
        final.Restores store load loaded ∧ loaded.index = machine.index

/-- Stores laid one behind the other are read back by loads with the same last registers. -/
theorem transferAll_reloads (machine : Machine) (legacy : machine.modern = false)
    {earlier later loads : List Transfer} {store load : Transfer}
    (fits : machine.index.toNat + total (earlier ++ store :: later) ≤ 4096)
    (holds : ∀ offset < total (earlier ++ store :: later),
      machine.memory[machine.index.toNat + offset]? =
        ((earlier ++ store :: later).flatMap Transfer.bytes)[offset]?)
    (same : loads.map Transfer.last = earlier.map Transfer.last)
    (matching : load.last = store.last) :
    ∃ loaded,
      machine.transferAll .loadRegisters (loads ++ [load]) = (loaded, none) ∧
        machine.Restores store load loaded ∧
        loaded.index.toNat = machine.index.toNat + total (earlier ++ [store]) := by
  have size : load.size = store.size := by rw [Transfer.size, matching, Transfer.size]
  have length := total_append earlier (store :: later)
  rw [total_cons] at length
  have within : loads ≠ [] → machine.index.toNat + total loads ≤ 4096 := by
    intro _
    rw [total_congr same]
    omega
  obtain ⟨index, registers, runs, passed⟩ := machine.transferAll_loads_legacy legacy within
  rw [total_congr same] at passed
  have holdsLast (offset : Nat) (inside : offset < load.size) :
      machine.memory[index.toNat + offset]? = store.bytes[offset]? := by
    rw [size] at inside
    have byte := holds (total earlier + offset) (by omega)
    rwa [getElem?_flatMap_bytes _ _ _ inside, ← Nat.add_assoc, ← passed] at byte
  have inside : index.toNat + load.size ≤ 4096 := by omega
  obtain ⟨loaded, last, restores, behind⟩ := transferAll_load_restores
    { machine with index, registers } (Fin.le_of_eq matching) inside holdsLast
  refine ⟨loaded, (transferAll_append runs [load]).trans last,
    ⟨restores.restored, restores.kept, restores.rest⟩, ?_⟩
  simp only [legacy, Bool.false_eq_true, if_false] at behind
  rw [behind, passed, size, total_append, total_cons, total_nil, Nat.add_assoc, Nat.add_zero]

/-- Stores in legacy mode chain one behind the other. -/
theorem exists_chainsBehind (machine : Machine) (legacy : machine.modern = false)
    (stores : List Transfer) :
    ∃ front rest final fault, stores = front ++ rest ∧
      machine.transferAll .storeRegisters stores = (final, fault) ∧
        machine.ChainsBehind front rest final fault := by
  obtain ⟨front, rest, fault, rfl, fits, ends⟩ :=
    exists_split_behind machine.index.toNat stores
  obtain ⟨index, registers, runs, passed⟩ := machine.transferAll_stores_legacy legacy fits
  obtain ⟨others, stops⟩ := transferAll_ends { machine with
    memory := overlay machine.memory machine.index.toNat (front.flatMap Transfer.bytes).toArray
    index, registers } (by rwa [← passed] at ends)
  obtain ⟨final, executed, memory, behind, parts⟩ : ∃ final,
      machine.transferAll .storeRegisters (front ++ rest) = (final, fault) ∧
        final.memory = overlay machine.memory machine.index.toNat
          (front.flatMap Transfer.bytes).toArray ∧
        final.index.toNat = machine.index.toNat + total front ∧
        final = { machine with
          memory := final.memory, index := final.index, registers := final.registers } :=
    ⟨_, (transferAll_append runs rest).trans stops, rfl, passed, rfl⟩
  have bytes (offset : Nat) (inside : offset < total front) :
      final.memory[machine.index.toNat + offset]? = (front.flatMap Transfer.bytes)[offset]? := by
    have bound := fits (by rintro rfl; exact absurd inside (Nat.not_lt_zero _))
    rw [← length_flatMap_bytes] at bound inside
    rw [memory, getElem?_overlay_inside _ bound inside]
  refine ⟨front, rest, final, fault, rfl, executed,
    { fits, ends, bytes, others := ?others, index := behind, parts, reloads := ?reloads }⟩
  case others =>
    intro cell outside
    rw [← length_flatMap_bytes] at outside
    rw [memory, getElem?_overlay_outside _ outside]
  case reloads =>
    rintro earlier store later rfl loads load same matching
    obtain ⟨loaded, reads, restores, index⟩ := transferAll_reloads
      { final with index := machine.index } (by rw [parts]; exact legacy) (fits (by simp)) bytes
      same matching
    exact ⟨loaded, reads, ⟨restores.restored, restores.kept, restores.rest⟩, index⟩

/-- Stores in modern mode chain over each other. -/
theorem exists_chainsOver (machine : Machine) (modern : machine.modern = true)
    (stores : List Transfer) :
    ∃ front rest final fault, stores = front ++ rest ∧
      machine.transferAll .storeRegisters stores = (final, fault) ∧
        machine.ChainsOver front rest final fault := by
  obtain ⟨front, rest, fault, rfl, fits, ends⟩ := exists_split_over machine.index.toNat stores
  obtain ⟨registers, runs⟩ := machine.transferAll_stores_modern modern fits
  obtain ⟨others, stops⟩ := transferAll_ends { machine with
    memory := overlays machine.index.toNat machine.memory front, registers } ends
  obtain ⟨final, executed, memory, parts⟩ : ∃ final,
      machine.transferAll .storeRegisters (front ++ rest) = (final, fault) ∧
        final.memory = overlays machine.index.toNat machine.memory front ∧
        final = { machine with memory := final.memory, registers := final.registers } :=
    ⟨_, (transferAll_append runs rest).trans stops, rfl, rfl⟩
  have index : final.index = machine.index := by rw [parts]
  have still : final.modern = true := by rw [parts, modern]
  have bytes (offset : Nat) (inside : machine.index.toNat + offset < 4096) :
      final.memory[machine.index.toNat + offset]? =
        (front.reverse.findSome? fun store => store.bytes[offset]?).or
          machine.memory[machine.index.toNat + offset]? := by
    rw [memory, getElem?_overlays _ _ _ inside, if_pos (Nat.le_add_right _ _),
      Nat.add_sub_cancel_left]
  refine ⟨front, rest, final, fault, rfl, executed,
    { fits, ends, bytes, before := ?before, parts, reloads := ?reloads }⟩
  case before =>
    intro cell below
    by_cases inside : cell < 4096
    · rw [memory, getElem?_overlays _ _ _ inside, if_neg (Nat.not_le_of_lt below), Option.none_or]
    · have behind : 4096 ≤ cell := Nat.le_of_not_lt inside
      rw [Vector.getElem?_eq_none behind, Vector.getElem?_eq_none behind]
  case reloads =>
    rintro earlier store load rfl within
    have fitsLast := fits store (by simp)
    have size : load.size ≤ store.size := Nat.succ_le_succ within
    have holds (offset : Nat) (inside : offset < load.size) :
        final.memory[final.index.toNat + offset]? = store.bytes[offset]? := by
      have covered : offset < store.bytes.length := by
        rw [length_bytes]
        omega
      rw [index, bytes offset (by omega), List.reverse_concat, List.findSome?_cons,
        List.getElem?_eq_getElem covered]
      rfl
    obtain ⟨loaded, reads, restores, same⟩ :=
      final.transferAll_load_restores within (by rw [index]; omega) holds
    rw [still, if_pos rfl, Nat.add_zero, UInt16.toNat_inj, index] at same
    exact ⟨loaded, reads, restores, same⟩

/-- Stores of register blocks, with any registers in front of each, chain up to the first block that
leaves memory: one behind the other in legacy mode and over each other in modern mode. Loads at the
old index give the registers back. -/
theorem block_transfers_chain (machine : Machine) (stores : List Transfer) :
    ∃ front rest final fault, stores = front ++ rest ∧
      machine.transferAll .storeRegisters stores = (final, fault) ∧
      (machine.modern = false → machine.ChainsBehind front rest final fault) ∧
      (machine.modern = true → machine.ChainsOver front rest final fault) := by
  cases mode : machine.modern with
  | false =>
      obtain ⟨front, rest, final, fault, split, executed, chains⟩ :=
        machine.exists_chainsBehind mode stores
      exact ⟨front, rest, final, fault, split, executed, fun _ => chains, nofun⟩
  | true =>
      obtain ⟨front, rest, final, fault, split, executed, chains⟩ :=
        machine.exists_chainsOver mode stores
      exact ⟨front, rest, final, fault, split, executed, nofun, fun _ => chains⟩

/-- A block of three registers ends in memory and one of four behind it does not. -/
theorem second_block_leaves_memory :
    let machine := { powerOn (Random.ofSeed 0) 0 0 false with index := 0xFFB }
    let first : Transfer := ⟨Vector.replicate 16 7, .ofNat 2⟩
    let second : Transfer := ⟨Vector.replicate 16 9, .ofNat 3⟩
    let load : Transfer := ⟨Vector.replicate 16 5, .ofNat 2⟩
    ∃ final,
      machine.transferAll .storeRegisters [first, second] =
          (final, some (.outOfRange 0xFFE 4)) ∧
        final.index.toNat = 0xFFE ∧ final.memory[0xFFD]? = some 7 ∧
        ∃ loaded,
          { final with index := 0xFFB }.transferAll .loadRegisters [load] = (loaded, none) ∧
            loaded.register (.ofNat 2) = 7 ∧ loaded.register (.ofNat 3) = 5 := by
  intro machine first second load
  obtain ⟨front, rest, final, fault, split, executed, legacy, _⟩ :=
    machine.block_transfers_chain [first, second]
  have chains := legacy rfl
  have start : machine.index.toNat = 0xFFB := by decide
  have size : first.size = 3 := by decide
  have sizeSecond : second.size = 4 := by decide
  have fits := chains.fits
  have ends := chains.ends
  have bytes := chains.bytes
  have index := chains.index
  rw [start] at fits ends bytes index
  rcases front with _ | ⟨block, _ | ⟨other, front⟩⟩
  · cases split
    have outside := ends.1
    rw [total_nil, size] at outside
    contradiction
  · cases split
    rw [total_cons, total_nil, size] at ends bytes index
    have refused := ends.2
    rw [sizeSecond] at refused
    refine ⟨final, refused ▸ executed, index, (bytes 2 (by decide)).trans (by decide), ?_⟩
    obtain ⟨loaded, reads, restores, _⟩ := chains.reloads [] first [] rfl [] load rfl rfl
    exact ⟨loaded, reads, restores.restored _ (by decide), restores.kept _ (by decide)⟩
  · obtain ⟨rfl, rest⟩ := List.cons.inj split
    obtain ⟨rfl, _⟩ := List.cons.inj rest
    have inside := fits (List.cons_ne_nil _ _)
    rw [total_cons, total_cons, size, sizeSecond] at inside
    omega

end Machine

end Chip8
