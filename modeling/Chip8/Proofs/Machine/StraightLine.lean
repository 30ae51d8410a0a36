import Chip8.Proofs.Machine.Faults
import Chip8.Proofs.Machine.Nesting
import Chip8.Proofs.Machine.Programs

namespace Chip8

/-- This says that instructions of a kind always succeed and lead to the next one in memory. -/
def Opcode.isStraight : Opcode → Bool
  | .system => true
  | .clearScreen => true
  | .loadByte => true
  | .addByte => true
  | .arithmetic _ => true
  | .loadIndex => true
  | .addIndex => true
  | .loadGlyph => true
  | .random => true
  | .readDelay => true
  | .writeDelay => true
  | .writeSound => true
  | _ => false

/-- These are the bytes of a word, the high one first. -/
def wordBytes (word : UInt16) : List UInt8 :=
  [UInt8.ofNat (word.toNat / 256), UInt8.ofNat word.toNat]

/-- These are the bytes of a program that is given by its words. -/
def programOf (words : List UInt16) : List UInt8 :=
  words.flatMap wordBytes

theorem length_programOf (words : List UInt16) : (programOf words).length = 2 * words.length := by
  induction words with
  | nil => rfl
  | cons word rest ih =>
      rw [programOf] at ih ⊢
      rw [List.flatMap_cons, List.length_append, ih, List.length_cons, wordBytes, List.length_cons,
        List.length_singleton]
      omega

/-- A word is made up of its bytes. -/
theorem toNat_wordBytes (word : UInt16) :
    word.toNat =
      (UInt8.ofNat (word.toNat / 256)).toNat * 256 + (UInt8.ofNat word.toNat).toNat := by
  have bound := word.toNat_lt
  rw [UInt8.toNat_ofNat', UInt8.toNat_ofNat']
  omega

namespace Machine

/-- This runs so many cycles and gives the words that they fetched. -/
def cycles (machine : Machine) : Nat → Except LocatedFault (Machine × List UInt16)
  | 0 => .ok (machine, [])
  | count + 1 => do
    let (next, word) ← machine.cycle
    let (final, words) ← next.cycles count
    return (final, word :: words)

/-- A cycle in front of so many others gives the first word. -/
theorem cycles_succ {machine next final : Machine} {word : UInt16} {words : List UInt16}
    {count : Nat} (first : machine.cycle = .ok (next, word))
    (others : next.cycles count = .ok (final, words)) :
    machine.cycles (count + 1) = .ok (final, word :: words) := by
  simp only [cycles, first, others, bind, Except.bind, pure, Except.pure]

/-- This gives a machine another place in its program. -/
def moveTo (pc : UInt16) (machine : Machine) : Machine :=
  { machine with pc }

/-- A straight instruction succeeds, stays in its program and does not look at its place. -/
theorem execute_straight (machine : Machine) {instruction : Instruction}
    (straight : instruction.opcode.isStraight = true) :
    ∃ next, machine.execute instruction = .ok next ∧ next.pc = machine.pc ∧
      next.memory = machine.memory ∧
      ∀ pc, (machine.moveTo pc).execute instruction = .ok (next.moveTo pc) := by
  cases instruction
  case arithmetic operation x y =>
    refine ⟨_, rfl, ?_, ?_, ?_⟩
    · rw [calculate_registers]
    · rw [calculate_registers]
    · intro pc
      cases operation <;> rfl
  case clearScreen | system | loadByte | addByte | loadIndex | addIndex | loadGlyph | random |
      readDelay | writeDelay | writeSound =>
    exact ⟨_, rfl, rfl, rfl, fun pc => rfl⟩
  all_goals contradiction

/-- This says that memory holds a program from an address on. -/
def HoldsProgram (machine : Machine) (address : Nat) (program : List UInt8) : Prop :=
  ∀ offset < program.length, machine.memory[address + offset]? = program[offset]?

/-- The first two bytes of a program in front of the machine are a word. -/
theorem HoldsProgram.holdsWord {machine : Machine} {word : UInt16} {rest : List UInt16}
    (holds : machine.HoldsProgram machine.pc.toNat (programOf (word :: rest))) :
    machine.HoldsWord word := by
  have length := length_programOf (word :: rest)
  rw [List.length_cons] at length
  have high := holds 0 (by omega)
  have low := holds 1 (by omega)
  change machine.memory[machine.pc.toNat]? = some _ at high
  change machine.memory[machine.pc.toNat + 1]? = some _ at low
  obtain ⟨insideHigh, highByte⟩ := Vector.getElem?_eq_some_iff.mp high
  obtain ⟨insideLow, lowByte⟩ := Vector.getElem?_eq_some_iff.mp low
  refine ⟨insideHigh, insideLow, ?_⟩
  rw [highByte, lowByte]
  exact toNat_wordBytes word

/-- Behind its first word memory holds the rest of a program. -/
theorem HoldsProgram.tail {machine : Machine} {address : Nat} {word : UInt16} {rest : List UInt16}
    (holds : machine.HoldsProgram address (programOf (word :: rest))) :
    machine.HoldsProgram (address + 2) (programOf rest) := by
  intro offset inside
  have shifted := holds (offset + 2) (Nat.add_lt_add_right inside 2)
  rw [Nat.add_assoc, Nat.add_comm 2 offset, shifted]
  rfl

/-- Straight instructions in memory are fetched and executed one after the other. -/
theorem cycles_straight (machine : Machine) (words : List UInt16)
    (holds : machine.HoldsProgram machine.pc.toNat (programOf words))
    (inside : machine.pc.toNat + 2 * words.length ≤ 4096)
    (straight : ∀ word ∈ words, ∃ instruction,
      Instruction.ofWord? word = some instruction ∧ instruction.opcode.isStraight = true) :
    ∃ final, machine.cycles words.length = .ok (final, words) ∧
      final.pc.toNat = machine.pc.toNat + 2 * words.length ∧
      words.foldlM executeWord
        (machine.moveTo (UInt16.ofNat (machine.pc.toNat + 2 * words.length))) = .ok final := by
  induction words generalizing machine with
  | nil =>
      refine ⟨machine, rfl, rfl, ?_⟩
      rw [List.length_nil, Nat.mul_zero, Nat.add_zero, UInt16.ofNat_toNat]
      rfl
  | cons word rest ih =>
      obtain ⟨instruction, decodes, goesOn⟩ := straight word List.mem_cons_self
      obtain ⟨next, executed, pc, memory, moved⟩ := machine.skip.execute_straight goesOn
      have meets : machine.Meets { word, instruction } :=
        ⟨holds.holdsWord, by simp only [Decoded.ofWord, decodes]⟩
      have behind : next.pc.toNat = machine.pc.toNat + 2 := by
        rw [pc]
        change (machine.pc + 2).toNat = _
        rw [List.length_cons] at inside
        rw [UInt16.toNat_add]
        exact Nat.mod_eq_of_lt (by change machine.pc.toNat + 2 < 65536; omega)
      have others : next.HoldsProgram next.pc.toNat (programOf rest) := by
        rw [behind]
        intro offset within
        rw [memory]
        exact holds.tail offset within
      rw [List.length_cons] at inside ⊢
      obtain ⟨final, runs, arrived, folded⟩ := ih next others (by omega)
        (fun other member => straight other (List.mem_cons_of_mem word member))
      have place : next.pc.toNat + 2 * rest.length =
          machine.pc.toNat + 2 * (rest.length + 1) := by omega
      rw [place] at arrived folded
      refine ⟨final, cycles_succ (cycle_meets meets executed) runs, arrived, ?_⟩
      rw [List.foldlM_cons, executeWord_decoded _ decodes]
      change (machine.skip.moveTo _).execute instruction >>= _ = _
      rw [moved]
      exact folded

/-- A fetch in memory takes the word at the place of the machine and passes it. -/
theorem fetch_inside (machine : Machine) (inside : machine.pc.toNat ≤ 4094) :
    ∃ high low word next,
      machine.memory[machine.pc.toNat]? = some high ∧
      machine.memory[machine.pc.toNat + 1]? = some low ∧
      machine.fetch = .ok (next, word) ∧ word.toNat = 256 * high.toNat + low.toNat ∧
      next.pc.toNat = machine.pc.toNat + 2 ∧ next = { machine with pc := next.pc } := by
  have before : machine.pc.toNat < 4095 := by omega
  obtain ⟨word, holds⟩ := exists_holdsWord before
  have fetched := fetch_holds holds
  obtain ⟨first, last, value⟩ := holds
  refine ⟨_, _, word, machine.skip, Vector.getElem?_eq_getElem first,
    Vector.getElem?_eq_getElem last, fetched, by omega, ?_, rfl⟩
  change (machine.pc + 2).toNat = _
  rw [UInt16.toNat_add]
  exact Nat.mod_eq_of_lt (by change machine.pc.toNat + 2 < 65536; omega)

/-- A program of straight instructions that is loaded in front of the machine runs in order. Every
cycle succeeds and fetches the next word, and in the end the instructions have done on the loaded
machine, placed behind the program, what they do one after the other. Each fetch takes the word at
an even or odd place in memory, the high byte first, and passes it. -/
theorem straight_program_runs_in_order :
    (∀ (machine : Machine) (words : List UInt16),
      machine.pc = 0x200 → words.length ≤ 1792 →
      (∀ word ∈ words, ∃ instruction, Instruction.ofWord? word = some instruction ∧
        instruction.opcode.isStraight = true) →
      ∃ loaded final,
        machine.loadProgram (programOf words) = .ok loaded ∧
        loaded.cycles words.length = .ok (final, words) ∧
        final.pc.toNat = 0x200 + 2 * words.length ∧
        words.foldlM executeWord
          { loaded with pc := UInt16.ofNat (0x200 + 2 * words.length) } = .ok final) ∧
    ∀ machine : Machine, machine.pc.toNat ≤ 4094 →
      ∃ high low word next,
        machine.memory[machine.pc.toNat]? = some high ∧
        machine.memory[machine.pc.toNat + 1]? = some low ∧
        machine.fetch = .ok (next, word) ∧ word.toNat = 256 * high.toNat + low.toNat ∧
        next.pc.toNat = machine.pc.toNat + 2 ∧ next = { machine with pc := next.pc } := by
  constructor
  · intro machine words start fits straight
    have length := length_programOf words
    have small : (programOf words).length ≤ 3584 := by omega
    have loads := loads_overlay small machine
    generalize { machine with memory := _ } = loaded at loads
    have place : loaded.pc.toNat = 0x200 := by
      rw [loads.rest]
      change machine.pc.toNat = 0x200
      rw [start]
      rfl
    have holds : loaded.HoldsProgram loaded.pc.toNat (programOf words) := by
      rw [place]
      exact loads.bytes
    obtain ⟨final, runs, arrived, folded⟩ :=
      loaded.cycles_straight words holds (by omega) straight
    rw [place] at arrived folded
    exact ⟨loaded, final, loadProgram_ok_iff.mpr loads, runs, arrived, folded⟩
  · intro machine inside
    exact machine.fetch_inside inside

/-- A byte and an index are loaded by the words for it, and the last word of memory is fetched from
an even and from an odd place. -/
theorem two_loads_run_in_order :
    let machine := powerOn (Random.ofSeed 0) 0 0 true
    (∃ loaded final,
      machine.loadProgram [0x61, 0x07, 0xA1, 0x23] = .ok loaded ∧
      loaded.cycles 2 = .ok (final, [0x6107, 0xA123]) ∧
      final.pc.toNat = 0x204 ∧ final.index = 0x123 ∧ final.register (.ofNat 1) = 7) ∧
    (∃ next word, { machine with pc := 4094 }.fetch = .ok (next, word) ∧ next.pc.toNat = 4096) ∧
    ∃ next word, { machine with pc := 3 }.fetch = .ok (next, word) ∧ word.toNat = 0x90F0 := by
  intro machine
  obtain ⟨runs, fetches⟩ := straight_program_runs_in_order
  refine ⟨?_, ?_, ?_⟩
  · have straight : ∀ word ∈ [0x6107, 0xA123], ∃ instruction,
        Instruction.ofWord? word = some instruction ∧ instruction.opcode.isStraight = true := by
      intro word member
      rcases List.mem_cons.mp member with rfl | member
      · exact ⟨.loadByte (.ofNat 1) 7, by decide, rfl⟩
      · cases List.mem_singleton.mp member
        exact ⟨.loadIndex (.ofNat 0x123), by decide, rfl⟩
    obtain ⟨loaded, final, accepted, ran, arrived, folded⟩ :=
      runs machine [0x6107, 0xA123] rfl (by decide) straight
    refine ⟨loaded, final, accepted, ran, arrived, ?_⟩
    have rest := (loadProgram_ok_iff.mp accepted).rest
    rw [rest] at folded
    cases folded
    exact ⟨rfl, rfl⟩
  · obtain ⟨_, _, word, next, _, _, fetched, _, passed, _⟩ :=
      fetches { machine with pc := 4094 } (by decide)
    exact ⟨next, word, fetched, passed⟩
  · obtain ⟨high, low, word, next, first, second, fetched, value, _⟩ :=
      fetches { machine with pc := 3 } (by decide)
    have glyphs {cell : Nat} (inside : cell < 4096) :
        machine.memory[cell]? = some (Font.bytes.getD cell 0) :=
      (Vector.getElem?_eq_getElem inside).trans (congrArg some (Vector.getElem_ofFn inside))
    have highByte := Option.some.inj (first.symm.trans (glyphs (by decide : 3 < 4096)))
    have lowByte := Option.some.inj (second.symm.trans (glyphs (by decide : 4 < 4096)))
    refine ⟨next, word, fetched, ?_⟩
    rw [value, highByte, lowByte]
    rfl

end Machine

end Chip8
