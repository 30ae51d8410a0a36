import Chip8.Instruction.Decoded
import Chip8.Instruction.Mnemonic
import Chip8.Proofs.Instruction.Patterns

namespace Chip8

namespace Fields

theorem ofWord_y (word : UInt16) : (ofWord word).y.val = word.toNat / 16 % 16 := rfl

theorem ofWord_nnn (word : UInt16) : (ofWord word).nnn.val = word.toNat % 4096 := rfl

end Fields

/-- Every operation uses two registers. -/
theorem Opcode.operands_arithmetic (operation : Arithmetic) :
    (Opcode.arithmetic operation).operands = [.x, .y] := by
  cases operation <;> rfl

/-- An instruction keeps the operands that its kind uses, and the others are zero. -/
theorem Opcode.value_instruction (opcode : Opcode) (fields : Fields) (operand : Operand) :
    (opcode.instruction fields).fields.value operand =
      if operand ∈ opcode.operands then fields.value operand else 0 := by
  cases opcode
  case arithmetic operation =>
    rw [operands_arithmetic]
    cases operand <;> rfl
  all_goals cases operand <;> rfl

namespace Instruction

/-- The operands of an instruction fit beside the digits of its kind. -/
theorem pattern_add_packed_lt (instruction : Instruction) :
    instruction.opcode.pattern + instruction.fields.packed < 65536 := by
  have byte := instruction.fields.nn.toNat_lt
  cases instruction
  all_goals
    simp only [opcode, Opcode.pattern, fields, Fields.packed, Digit.ofNat, Address.ofNat,
      UInt8.toNat_zero] at byte ⊢
    omega

/-- The word of an instruction has the digits of its kind and those of its operands. -/
theorem toNat_word (instruction : Instruction) :
    instruction.word.toNat = instruction.opcode.pattern + instruction.fields.packed := by
  rw [word, UInt16.toNat_ofNat', Nat.mod_eq_of_lt instruction.pattern_add_packed_lt]

/-- A decoded word gives its instruction the operands that it holds. -/
theorem eq_of_ofWord {word : UInt16} {instruction : Instruction}
    (decodes : ofWord? word = some instruction) :
    instruction = instruction.opcode.instruction (Fields.ofWord word) := by
  have again := ofWord_of_matches (ofWord_matches decodes)
  rw [decodes] at again
  exact Option.some.inj again

/-- This says that an instruction has a word of its own. A system call below `0x100` has none. -/
def HasOwnWord (instruction : Instruction) : Prop :=
  ∀ target, instruction = .system target → 0x100 ≤ target.val

theorem hasOwnWord_instruction {opcode : Opcode} {fields : Fields}
    (large : opcode = .system → 0x100 ≤ fields.nnn.val) :
    (opcode.instruction fields).HasOwnWord := by
  intro target same
  cases opcode
  case system =>
    cases same
    exact large rfl
  all_goals contradiction

/-- The word of an instruction has the fixed digits of its kind. -/
theorem matches_word {instruction : Instruction} (own : instruction.HasOwnWord) :
    instruction.opcode.Matches instruction.word := by
  have value := instruction.toNat_word
  have byte := instruction.fields.nn.toNat_lt
  cases instruction
  case clearScreen | returnToCaller => exact value
  case system target =>
    have large := own target rfl
    simp only [opcode, Opcode.pattern, fields, Fields.packed, Digit.ofNat, UInt8.toNat_zero] at value
    simp only [opcode, Opcode.Matches]
    omega
  all_goals
    simp only [opcode, Opcode.pattern, fields, Fields.packed, Digit.ofNat, Address.ofNat,
      UInt8.toNat_zero] at value byte
    simp only [opcode, Opcode.Matches]
    omega

/-- The word of an instruction holds its operands. -/
theorem instruction_ofWord_word (instruction : Instruction) :
    instruction.opcode.instruction (Fields.ofWord instruction.word) = instruction := by
  have value := instruction.toNat_word
  have byte := instruction.fields.nn.toNat_lt
  cases instruction
  case clearScreen | returnToCaller => rfl
  all_goals
    simp only [opcode, Opcode.pattern, fields, Fields.packed, Digit.ofNat, Address.ofNat,
      UInt8.toNat_zero] at value byte
    simp only [opcode, Opcode.instruction]
    congr 1
  case skipEqualByte.e_byte | skipUnequalByte.e_byte | loadByte.e_byte | addByte.e_byte |
      random.e_byte =>
    apply UInt8.toNat_inj.mp
    rw [Fields.ofWord_nn]
    omega
  all_goals
    apply Fin.ext
    simp only [Fields.ofWord_x, Fields.ofWord_y, Fields.ofWord_n, Fields.ofWord_nnn]
    omega

/-- A word is that of the instruction that it holds, up to the ignored digit of `9xyn`. -/
theorem toNat_word_of_matches {word : UInt16} {opcode : Opcode} (fits : opcode.Matches word) :
    (opcode.instruction (Fields.ofWord word)).word.toNat =
      if word.toNat / 4096 = 9 then word.toNat - word.toNat % 16 else word.toNat := by
  rw [toNat_word]
  cases opcode
  all_goals
    simp only [Opcode.Matches] at fits
    simp only [Opcode.instruction, Instruction.opcode, Opcode.pattern, fields, Fields.packed,
      Fields.ofWord_x, Fields.ofWord_y, Fields.ofWord_n, Fields.ofWord_nn, Fields.ofWord_nnn,
      Digit.ofNat, Address.ofNat, UInt8.toNat_zero]
    split <;> omega

/-- Decoding inverts encoding. -/
theorem ofWord_word {instruction : Instruction} (own : instruction.HasOwnWord) :
    ofWord? instruction.word = some instruction := by
  rw [ofWord_of_matches (matches_word own), instruction_ofWord_word]

/-- Decoding gives instructions that have words of their own. -/
theorem hasOwnWord_of_ofWord {word : UInt16} {instruction : Instruction}
    (decodes : ofWord? word = some instruction) : instruction.HasOwnWord := by
  rintro target rfl
  obtain ⟨large, family⟩ := ofWord_matches decodes
  have held := eq_of_ofWord decodes
  cases held
  rw [Fields.ofWord_nnn]
  omega

/-- Encoding inverts decoding, up to the ignored digit of `9xyn`. -/
theorem toNat_word_of_ofWord {word : UInt16} {instruction : Instruction}
    (decodes : ofWord? word = some instruction) :
    instruction.word.toNat =
      if word.toNat / 4096 = 9 then word.toNat - word.toNat % 16 else word.toNat := by
  rw [eq_of_ofWord decodes]
  exact toNat_word_of_matches (ofWord_matches decodes)

/-- A word is refused exactly when it is neither that of an instruction nor of the form `9xyn`. -/
theorem ofWord_eq_none_iff_unencoded (word : UInt16) :
    ofWord? word = none ↔
      (∀ instruction : Instruction, instruction.HasOwnWord → instruction.word ≠ word) ∧
        word.toNat / 4096 ≠ 9 := by
  constructor
  · intro refused
    constructor
    · rintro instruction own rfl
      rw [ofWord_word own] at refused
      contradiction
    · intro family
      have fits : Opcode.skipUnequal.Matches word := family
      rw [ofWord_of_matches fits] at refused
      contradiction
  · rintro ⟨unencoded, family⟩
    cases decodes : ofWord? word with
    | none => rfl
    | some instruction =>
        have value := toNat_word_of_ofWord decodes
        rw [if_neg family] at value
        exact absurd (UInt16.toNat_inj.mp value) (unencoded _ (hasOwnWord_of_ofWord decodes))

end Instruction

/-- A word matches one kind of instruction at most. -/
theorem Opcode.Matches.unique {word : UInt16} {first second : Opcode} (fits : first.Matches word)
    (fitsToo : second.Matches word) : first = second := by
  have decodes := Instruction.ofWord_of_matches fits
  rw [Instruction.ofWord_of_matches fitsToo] at decodes
  have same := congrArg Instruction.opcode (Option.some.inj decodes)
  rw [opcode_instruction, opcode_instruction] at same
  exact same.symm

namespace Decoded

/-- An integer of sixteen bits is a word. -/
theorem exists_word {value : Int} (inside : 0 ≤ value ∧ value ≤ 0xFFFF) :
    ∃ word : UInt16, value = word.toNat := by
  refine ⟨UInt16.ofNat value.toNat, ?_⟩
  rw [UInt16.toNat_ofNat', Nat.mod_eq_of_lt (by omega)]
  omega

theorem ofInt_toNat (word : UInt16) : UInt16.ofInt word.toNat = word := by
  have bound := word.toNat_lt
  apply UInt16.toNat_inj.mp
  simp only [UInt16.ofInt, UInt16.toNat_ofNat']
  omega

/-- A word is decoded as its integer. -/
theorem ofInteger_toNat (word : UInt16) :
    ofInteger word.toNat =
      match Instruction.ofWord? word with
      | some instruction => .ok { word, instruction }
      | none => .error (.fault { fault := .unsupportedOpcode word, address := none }) := by
  have bound : word.toNat ≤ Layout.wordMask := Nat.le_of_lt_succ word.toNat_lt
  unfold ofInteger ofWord
  rw [if_pos (by omega), ofInt_toNat]
  cases Instruction.ofWord? word <;> rfl

/-- An integer is decoded only if it is a word that stands for the decoded instruction. -/
theorem ofInteger_eq_ok_iff (value : Int) (decoded : Decoded) :
    ofInteger value = .ok decoded ↔
      value = decoded.word.toNat ∧ Instruction.ofWord? decoded.word = some decoded.instruction := by
  by_cases inside : 0 ≤ value ∧ value ≤ 0xFFFF
  · obtain ⟨word, rfl⟩ := exists_word inside
    obtain ⟨decodedWord, instruction⟩ := decoded
    rw [ofInteger_toNat, Int.natCast_inj, UInt16.toNat_inj]
    constructor
    · intro decodes
      split at decodes
      · cases decodes
        exact ⟨rfl, by assumption⟩
      · contradiction
    · rintro ⟨rfl, decodes⟩
      rw [decodes]
  · have bound := decoded.word.toNat_lt
    have refused : ofInteger value = .error (.notAWord value) := if_neg inside
    rw [refused]
    constructor
    · intro decodes
      contradiction
    · rintro ⟨rfl, _⟩
      omega

/-- An integer is refused exactly if it is no word or a word that stands for no instruction. -/
theorem ofInteger_eq_error_iff (value : Int) (error : Error) :
    ofInteger value = .error error ↔
      ¬ (0 ≤ value ∧ value ≤ 0xFFFF) ∧ error = .notAWord value ∨
        ∃ word : UInt16, value = word.toNat ∧ Instruction.ofWord? word = none ∧
          error = .fault { fault := .unsupportedOpcode word, address := none } := by
  by_cases inside : 0 ≤ value ∧ value ≤ 0xFFFF
  · obtain ⟨word, rfl⟩ := exists_word inside
    have only (other : UInt16) : (word.toNat : Int) = other.toNat ↔ word = other := by
      rw [Int.natCast_inj, UInt16.toNat_inj]
    rw [ofInteger_toNat]
    cases decodes : Instruction.ofWord? word <;> simp [inside, only, decodes, eq_comm]
  · have refused : ofInteger value = .error (.notAWord value) := if_neg inside
    have noWord (word : UInt16) : value ≠ word.toNat := by
      have bound := word.toNat_lt
      omega
    simp [refused, inside, noWord, eq_comm]

/-- Decoding inverts encoding and accepts nothing but the words of instructions, and `9xyn` in place
of `9xy0`. No word matches two kinds of instruction, and only the last digit of `9xyn` is lost. -/
theorem ofInteger_inverts_word :
    (∀ (opcode : Opcode) (fields : Fields), (opcode = .system → 0x100 ≤ fields.nnn.val) →
      let instruction := opcode.instruction fields
      instruction.opcode = opcode ∧
      (∀ operand, instruction.fields.value operand =
        if operand ∈ opcode.operands then fields.value operand else 0) ∧
      instruction.word.toNat = opcode.pattern + instruction.fields.packed ∧
      ofInteger instruction.word.toNat = .ok { word := instruction.word, instruction }) ∧
    (∀ value error, ofInteger value = .error error ↔
      ¬ (0 ≤ value ∧ value ≤ 0xFFFF) ∧ error = .notAWord value ∨
        ∃ word : UInt16, value = word.toNat ∧
          (∀ instruction : Instruction, instruction.HasOwnWord → instruction.word ≠ word) ∧
          word.toNat / 4096 ≠ 9 ∧
          error = .fault { fault := .unsupportedOpcode word, address := none }) ∧
    (∀ value decoded, ofInteger value = .ok decoded →
      value = decoded.word.toNat ∧ decoded.instruction.HasOwnWord ∧
        (decoded.instruction.word.toNat : Int) =
          if value / 4096 = 9 then value - value % 16 else value) ∧
    (∀ (word : UInt16) (first second : Opcode),
      first.Matches word → second.Matches word → first = second) ∧
    ∀ value other decoded decodedOther, ofInteger value = .ok decoded →
      ofInteger other = .ok decodedOther →
      decoded.instruction.opcode = decodedOther.instruction.opcode →
      decoded.instruction.fields = decodedOther.instruction.fields →
      value = other ∨ value / 4096 = 9 ∧ other / 4096 = 9 ∧ value / 16 = other / 16 := by
  have inverse {value : Int} {decoded : Decoded} (decodes : ofInteger value = .ok decoded) :
      value = decoded.word.toNat ∧ decoded.instruction.HasOwnWord ∧
        (decoded.instruction.word.toNat : Int) =
          if value / 4096 = 9 then value - value % 16 else value := by
    obtain ⟨rfl, held⟩ := (ofInteger_eq_ok_iff value decoded).mp decodes
    have encoded := Instruction.toNat_word_of_ofWord held
    refine ⟨rfl, Instruction.hasOwnWord_of_ofWord held, ?_⟩
    split at encoded <;> split <;> omega
  refine ⟨?_, ?_, fun value decoded => inverse, fun word first second => Opcode.Matches.unique, ?_⟩
  · intro opcode fields large instruction
    have kind : instruction.opcode = opcode := opcode.opcode_instruction fields
    have own : instruction.HasOwnWord := Instruction.hasOwnWord_instruction large
    refine ⟨kind, opcode.value_instruction fields, ?_, ?_⟩
    · rw [← kind]
      exact instruction.toNat_word
    · rw [ofInteger_toNat, Instruction.ofWord_word own]
  · intro value error
    simp only [ofInteger_eq_error_iff, Instruction.ofWord_eq_none_iff_unencoded, and_assoc]
  · intro value other decoded decodedOther decodes decodesOther kinds operands
    obtain ⟨_, _, encoded⟩ := inverse decodes
    obtain ⟨_, _, encodedOther⟩ := inverse decodesOther
    have words : decoded.instruction.word.toNat = decodedOther.instruction.word.toNat := by
      rw [Instruction.toNat_word, Instruction.toNat_word, kinds, operands]
    split at encoded <;> split at encodedOther <;> omega

/-- A sprite instruction is decoded from its word. The last digit of `9AB7` is dropped, and no
negative integer is a word. -/
theorem ofInteger_drops_last_digit :
    let drawing : Instruction := .draw (.ofNat 1) (.ofNat 2) (.ofNat 15)
    let skipping : Instruction := .skipUnequal (.ofNat 10) (.ofNat 11)
    ofInteger 0xD12F = .ok { word := 0xD12F, instruction := drawing } ∧
      ofInteger 0x9AB7 = .ok { word := 0x9AB7, instruction := skipping } ∧
      skipping.word.toNat = 0x9AB0 ∧
      ofInteger (-1) = .error (.notAWord (-1)) := by
  intro drawing skipping
  obtain ⟨encodes, refuses, holds, _, _⟩ := ofInteger_inverts_word
  have word : drawing.word = 0xD12F := by decide
  have decodes : ofInteger 0x9AB7 = .ok { word := 0x9AB7, instruction := skipping } :=
    (ofInteger_eq_ok_iff _ _).mpr ⟨rfl, by decide⟩
  obtain ⟨_, _, _, drawn⟩ :=
    encodes .draw { x := .ofNat 1, y := .ofNat 2, n := .ofNat 15 } (by decide)
  obtain ⟨_, _, encoded⟩ := holds 0x9AB7 _ decodes
  change ofInteger drawing.word.toNat = .ok ⟨drawing.word, drawing⟩ at drawn
  rw [word] at drawn
  exact ⟨drawn, decodes, Int.natCast_inj.mp encoded, (refuses (-1) _).mpr (.inl ⟨by decide, rfl⟩)⟩

end Decoded

end Chip8
