import Chip8.Instruction.Encoding
import Mathlib.Tactic.SplitIfs

namespace Chip8

/-- This says that a word has the fixed digits of a kind of instruction. -/
def Opcode.Matches (word : UInt16) : Opcode → Prop
  | .clearScreen => word.toNat = 0x00E0
  | .returnToCaller => word.toNat = 0x00EE
  | .system => 0x0100 ≤ word.toNat ∧ word.toNat / 4096 = 0x0
  | .jump => word.toNat / 4096 = 0x1
  | .call => word.toNat / 4096 = 0x2
  | .skipEqualByte => word.toNat / 4096 = 0x3
  | .skipUnequalByte => word.toNat / 4096 = 0x4
  | .skipEqual => word.toNat / 4096 = 0x5 ∧ word.toNat % 16 = 0x0
  | .loadByte => word.toNat / 4096 = 0x6
  | .addByte => word.toNat / 4096 = 0x7
  | .arithmetic operation => word.toNat / 4096 = 0x8 ∧ word.toNat % 16 = operation.code.val
  | .skipUnequal => word.toNat / 4096 = 0x9
  | .loadIndex => word.toNat / 4096 = 0xA
  | .jumpOffset => word.toNat / 4096 = 0xB
  | .random => word.toNat / 4096 = 0xC
  | .draw => word.toNat / 4096 = 0xD
  | .skipPressed => word.toNat / 4096 = 0xE ∧ word.toNat % 256 = 0x9E
  | .skipReleased => word.toNat / 4096 = 0xE ∧ word.toNat % 256 = 0xA1
  | .readDelay => word.toNat / 4096 = 0xF ∧ word.toNat % 256 = 0x07
  | .waitKey => word.toNat / 4096 = 0xF ∧ word.toNat % 256 = 0x0A
  | .writeDelay => word.toNat / 4096 = 0xF ∧ word.toNat % 256 = 0x15
  | .writeSound => word.toNat / 4096 = 0xF ∧ word.toNat % 256 = 0x18
  | .addIndex => word.toNat / 4096 = 0xF ∧ word.toNat % 256 = 0x1E
  | .loadGlyph => word.toNat / 4096 = 0xF ∧ word.toNat % 256 = 0x29
  | .storeDecimal => word.toNat / 4096 = 0xF ∧ word.toNat % 256 = 0x33
  | .storeRegisters => word.toNat / 4096 = 0xF ∧ word.toNat % 256 = 0x55
  | .loadRegisters => word.toNat / 4096 = 0xF ∧ word.toNat % 256 = 0x65

/-- This is the instruction of a kind with given operands; those that it does not use are dropped. -/
def Opcode.instruction (fields : Fields) : Opcode → Instruction
  | .clearScreen => .clearScreen
  | .returnToCaller => .returnToCaller
  | .system => .system fields.nnn
  | .jump => .jump fields.nnn
  | .call => .call fields.nnn
  | .skipEqualByte => .skipEqualByte fields.x fields.nn
  | .skipUnequalByte => .skipUnequalByte fields.x fields.nn
  | .skipEqual => .skipEqual fields.x fields.y
  | .loadByte => .loadByte fields.x fields.nn
  | .addByte => .addByte fields.x fields.nn
  | .arithmetic operation => .arithmetic operation fields.x fields.y
  | .skipUnequal => .skipUnequal fields.x fields.y
  | .loadIndex => .loadIndex fields.nnn
  | .jumpOffset => .jumpOffset fields.nnn
  | .random => .random fields.x fields.nn
  | .draw => .draw fields.x fields.y fields.n
  | .skipPressed => .skipPressed fields.x
  | .skipReleased => .skipReleased fields.x
  | .readDelay => .readDelay fields.x
  | .waitKey => .waitKey fields.x
  | .writeDelay => .writeDelay fields.x
  | .writeSound => .writeSound fields.x
  | .addIndex => .addIndex fields.x
  | .loadGlyph => .loadGlyph fields.x
  | .storeDecimal => .storeDecimal fields.x
  | .storeRegisters => .storeRegisters fields.x
  | .loadRegisters => .loadRegisters fields.x

theorem Opcode.opcode_instruction (opcode : Opcode) (fields : Fields) :
    (opcode.instruction fields).opcode = opcode := by
  cases opcode <;> rfl

namespace Fields

theorem ofWord_x (word : UInt16) : (ofWord word).x.val = word.toNat / 256 % 16 := rfl

theorem ofWord_n (word : UInt16) : (ofWord word).n.val = word.toNat % 16 := rfl

theorem ofWord_nn (word : UInt16) : (ofWord word).nn.toNat = word.toNat % 256 := by
  simp [ofWord]

theorem ofWord_nn_eq {word : UInt16} {value : Nat} (selected : word.toNat % 256 = value) :
    (ofWord word).nn = UInt8.ofNat value := by
  rw [← selected, ← ofWord_nn word, UInt8.ofNat_toNat]

end Fields

/-- The last digit of an operation names that operation. -/
theorem Arithmetic.ofCode_eq_some_iff (code : Fin 16) (operation : Arithmetic) :
    ofCode? code = some operation ↔ operation.code = code := by
  constructor
  · intro found
    unfold ofCode? at found
    split at found <;> cases found <;> rfl
  · rintro rfl
    cases operation <;> rfl

namespace Instruction

/-- A selected miscellaneous instruction has its selector in the last two digits. -/
theorem ofMiscellaneous_matches {word : UInt16} {x : Register} {instruction : Instruction}
    (family : word.toNat / 4096 = 0xF)
    (decodes : ofMiscellaneous? x (Fields.ofWord word).nn = some instruction) :
    instruction.opcode.Matches word := by
  have selector := Fields.ofWord_nn word
  unfold ofMiscellaneous? at decodes
  split_ifs at decodes with chosen chosen chosen chosen chosen chosen chosen chosen chosen
  all_goals
    cases decodes
    rw [chosen] at selector
    exact ⟨family, selector.symm⟩

/-- A decoded word has the fixed digits of its instruction. -/
theorem ofWord_matches {word : UInt16} {instruction : Instruction}
    (decodes : ofWord? word = some instruction) : instruction.opcode.Matches word := by
  have bound : word.toNat < 65536 := word.toNat_lt
  have selector := Fields.ofWord_nn word
  unfold ofWord? at decodes
  simp only at decodes
  split at decodes
  case h_1 family =>
    have digit := Fields.ofWord_x word
    split_ifs at decodes with clear back digitNonzero
    · cases decodes
      simp [clear, opcode, Opcode.Matches]
    · cases decodes
      simp [back, opcode, Opcode.Matches]
    · cases decodes
      simp only [opcode, Opcode.Matches]
      omega
  case h_6 family =>
    split_ifs at decodes with digit
    cases decodes
    exact ⟨family, digit⟩
  case h_9 family =>
    obtain ⟨operation, found, rfl⟩ := Option.map_eq_some_iff.mp decodes
    rw [Arithmetic.ofCode_eq_some_iff] at found
    exact ⟨family, congrArg Fin.val found.symm⟩
  case h_15 family =>
    split_ifs at decodes with chosen chosen
    all_goals
      cases decodes
      rw [chosen] at selector
      exact ⟨family, selector.symm⟩
  case h_16 =>
    have family : word.toNat / 4096 = 0xF := by
      simp only [imp_false] at *
      omega
    exact ofMiscellaneous_matches family decodes
  all_goals
    cases decodes
    assumption

/-- A word with the fixed digits of a kind of instruction is decoded as that kind, with the operands
that it holds. -/
theorem ofWord_of_matches {word : UInt16} {opcode : Opcode} (fits : opcode.Matches word) :
    ofWord? word = some (opcode.instruction (Fields.ofWord word)) := by
  have digit := Fields.ofWord_x word
  have last := Fields.ofWord_n word
  cases opcode
  case clearScreen =>
    have same : word = 0x00E0 := UInt16.toNat_inj.mp fits
    rw [same]
    rfl
  case returnToCaller =>
    have same : word = 0x00EE := UInt16.toNat_inj.mp fits
    rw [same]
    rfl
  case system =>
    obtain ⟨large, family⟩ := fits
    have notClear : word ≠ 0x00E0 := by
      rintro rfl
      exact absurd large (by decide)
    have notReturn : word ≠ 0x00EE := by
      rintro rfl
      exact absurd large (by decide)
    have nonzero : (Fields.ofWord word).x.val ≠ 0 := by omega
    simp only [ofWord?, family, if_neg notClear, if_neg notReturn, if_pos nonzero]
    rfl
  case skipEqual =>
    obtain ⟨family, zero⟩ := fits
    rw [← last] at zero
    simp only [ofWord?, family, if_pos zero]
    rfl
  case arithmetic operation =>
    obtain ⟨family, code⟩ := fits
    have found := (Arithmetic.ofCode_eq_some_iff (Fields.ofWord word).n operation).mpr
      (Fin.ext (code.symm.trans last.symm))
    simp only [ofWord?, family, found, Option.map_some]
    rfl
  case skipPressed | skipReleased =>
    obtain ⟨family, selector⟩ := fits
    have chosen := Fields.ofWord_nn_eq selector
    simp only [ofWord?, family, chosen]
    rfl
  case readDelay | waitKey | writeDelay | writeSound | addIndex | loadGlyph | storeDecimal |
      storeRegisters | loadRegisters =>
    obtain ⟨family, selector⟩ := fits
    have chosen := Fields.ofWord_nn_eq selector
    simp only [ofWord?, family, ofMiscellaneous?, chosen]
    rfl
  all_goals
    replace fits : word.toNat / 4096 = _ := fits
    simp only [ofWord?, fits]
    rfl

/-- The decoder refuses exactly the words that match no kind of instruction. -/
theorem ofWord_eq_none_iff (word : UInt16) :
    ofWord? word = none ↔ ∀ opcode : Opcode, ¬ opcode.Matches word := by
  constructor
  · intro refused opcode fits
    rw [ofWord_of_matches fits] at refused
    contradiction
  · intro unmatched
    cases decodes : ofWord? word with
    | none => rfl
    | some instruction => exact absurd (ofWord_matches decodes) (unmatched _)

end Instruction

end Chip8
