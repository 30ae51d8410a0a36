import Chip8.Proofs.Machine.Nesting
import Mathlib.Data.List.Forall2

namespace Chip8

/-- This is the value of a capital hexadecimal digit. -/
def Text.hexValue? (letter : Char) : Option Nat :=
  (List.range 16).find? fun value => hexDigit value == letter

/-- This reads so many hexadecimal digits behind those of a value. -/
def Text.readHex? : Nat → Nat → List Char → Option (Nat × List Char)
  | 0, value, letters => some (value, letters)
  | _ + 1, _, [] => none
  | count + 1, value, letter :: letters =>
    (hexValue? letter).bind fun digit => readHex? count (16 * value + digit) letters

/-- This is the number of values that an operand can have. -/
def Operand.size : Operand → Nat
  | .nn => 256
  | .nnn => 4096
  | _ => 16

/-- This replaces an operand. -/
def Fields.set (fields : Fields) (value : Nat) : Operand → Fields
  | .x => { fields with x := .ofNat value }
  | .y => { fields with y := .ofNat value }
  | .n => { fields with n := .ofNat value }
  | .nn => { fields with nn := UInt8.ofNat value }
  | .nnn => { fields with nnn := .ofNat value }

/-- This writes a part of a mnemonic. -/
def MnemonicPart.letters (fields : Fields) (part : MnemonicPart) : List Char :=
  match part with
  | .text fixed => fixed.toList
  | .operand field => field.digits (fields.value field)

def MnemonicPart.operand? : MnemonicPart → Option Operand
  | .text _ => none
  | .operand field => some field

/-- This reads a part of a mnemonic off the letters that are left. -/
def MnemonicPart.read? (state : Fields × List Char) (part : MnemonicPart) :
    Option (Fields × List Char) :=
  match part with
  | .text fixed => (state.2.dropPrefix? fixed.toList).map fun rest => (state.1, rest)
  | .operand field =>
    (Text.readHex? field.width 0 state.2).map fun (value, rest) =>
      (state.1.set value field, rest)

/-- This reads an instruction of a kind from its mnemonic. -/
def Opcode.read? (opcode : Opcode) (letters : List Char) : Option Instruction :=
  match opcode.shape.foldlM MnemonicPart.read? ({}, letters) with
  | some (fields, []) => some (opcode.instruction fields)
  | _ => none

/-- This reads an instruction from its mnemonic. -/
def Instruction.ofMnemonic? (text : String) : Option Instruction :=
  Opcode.all.findSome? fun opcode => opcode.read? text.toList

/-- This is a place of a mnemonic: a letter, or nothing for a digit of an operand. -/
def MnemonicPart.slots : MnemonicPart → List (Option Char)
  | .text fixed => fixed.toList.map some
  | .operand field => List.replicate field.width none

def Opcode.slots (opcode : Opcode) : List (Option Char) :=
  opcode.shape.flatMap MnemonicPart.slots

/-- This says that a place of a mnemonic takes a letter. -/
def Text.Fits (slot : Option Char) (letter : Char) : Prop :=
  slot = some letter ∨ slot = none ∧ (hexValue? letter).isSome

/-- This says that two places can take the same letter. -/
def Text.agree : Option Char → Option Char → Bool
  | none, none => true
  | some letter, none => (hexValue? letter).isSome
  | none, some letter => (hexValue? letter).isSome
  | some letter, some other => letter = other

namespace Text

theorem hexValue_hexDigit (value : Nat) : hexValue? (hexDigit value) = some (value % 16) := by
  have digits : ∀ digit < 16, hexValue? (hexDigit digit) = some digit := by decide
  rw [← digits (value % 16) (Nat.mod_lt _ (by decide))]
  simp [hexDigit]

theorem hexDigit_of_hexValue {letter : Char} {value : Nat} (known : hexValue? letter = some value) :
    value < 16 ∧ hexDigit value = letter := by
  have member := List.mem_of_find?_eq_some known
  have same := List.find?_some known
  exact ⟨List.mem_range.mp member, beq_iff_eq.mp same⟩

theorem hexDigit_congr {value other : Nat} (same : value % 16 = other % 16) :
    hexDigit value = hexDigit other := by
  simp only [hexDigit, same]

/-- The first digit that is read stands in front. -/
theorem exists_digit_of_readHex {count value result : Nat} {letters rest : List Char}
    (read : readHex? (count + 1) value letters = some (result, rest)) :
    ∃ digit < 16, ∃ behind, letters = hexDigit digit :: behind ∧
      readHex? count (16 * value + digit) behind = some (result, rest) := by
  cases letters with
  | nil => contradiction
  | cons letter behind =>
      obtain ⟨digit, known, others⟩ := Option.bind_eq_some_iff.mp read
      obtain ⟨bound, rfl⟩ := hexDigit_of_hexValue known
      exact ⟨digit, bound, behind, rfl, others⟩

theorem agree_of_fits {slot other : Option Char} {letter : Char} (fits : Fits slot letter)
    (fitsToo : Fits other letter) : agree slot other := by
  rcases fits with rfl | ⟨rfl, digit⟩ <;> rcases fitsToo with rfl | ⟨rfl, digitToo⟩
  · exact decide_eq_true rfl
  · exact digitToo
  · exact digit
  · rfl

/-- Places that take the same letters agree. -/
theorem forall₂_agree {slots others : List (Option Char)} {letters : List Char}
    (fits : List.Forall₂ Fits slots letters) (fitsToo : List.Forall₂ Fits others letters) :
    List.Forall₂ (fun slot other => agree slot other) slots others := by
  induction fits generalizing others with
  | nil =>
      cases fitsToo
      exact .nil
  | cons first _ rest =>
      cases fitsToo with
      | cons firstToo restToo => exact .cons (agree_of_fits first firstToo) (rest restToo)

end Text

namespace Operand

/-- The digits of an operand are read back. -/
theorem readHex_digits (operand : Operand) {value : Nat} (bound : value < operand.size)
    (rest : List Char) :
    Text.readHex? operand.width 0 (operand.digits value ++ rest) = some (value, rest) := by
  cases operand
  all_goals
    simp only [size, width, digits, Text.readHex?, List.cons_append, List.nil_append,
      Text.hexValue_hexDigit, Option.bind_some] at bound ⊢
    congr 2
    omega

/-- Read digits are those of an operand. -/
theorem digits_of_readHex (operand : Operand) {value : Nat} {letters rest : List Char}
    (read : Text.readHex? operand.width 0 letters = some (value, rest)) :
    value < operand.size ∧ letters = operand.digits value ++ rest := by
  cases operand
  case nn =>
    obtain ⟨high, highBound, _, rfl, others⟩ := Text.exists_digit_of_readHex read
    obtain ⟨low, lowBound, _, rfl, last⟩ := Text.exists_digit_of_readHex others
    cases last
    have highDigit := Text.hexDigit_congr (show
      (16 * (16 * 0 + high) + low) / 16 % 16 = high % 16 by omega)
    have lowDigit := Text.hexDigit_congr (show
      (16 * (16 * 0 + high) + low) % 16 = low % 16 by omega)
    simp only [size, digits, highDigit, lowDigit, List.cons_append, List.nil_append, and_true]
    omega
  case nnn =>
    obtain ⟨high, highBound, _, rfl, others⟩ := Text.exists_digit_of_readHex read
    obtain ⟨middle, middleBound, _, rfl, final⟩ := Text.exists_digit_of_readHex others
    obtain ⟨low, lowBound, _, rfl, last⟩ := Text.exists_digit_of_readHex final
    cases last
    have highDigit := Text.hexDigit_congr (show
      (16 * (16 * (16 * 0 + high) + middle) + low) / 256 % 16 = high % 16 by omega)
    have middleDigit := Text.hexDigit_congr (show
      (16 * (16 * (16 * 0 + high) + middle) + low) / 16 % 16 = middle % 16 by omega)
    have lowDigit := Text.hexDigit_congr (show
      (16 * (16 * (16 * 0 + high) + middle) + low) % 16 = low % 16 by omega)
    simp only [size, digits, highDigit, middleDigit, lowDigit, List.cons_append, List.nil_append,
      and_true]
    omega
  all_goals
    obtain ⟨digit, bound, _, rfl, last⟩ := Text.exists_digit_of_readHex read
    cases last
    simp only [size, digits, Nat.mul_zero, Nat.zero_add, List.cons_append, List.nil_append,
      and_true]
    omega

theorem fits_digits (operand : Operand) (value : Nat) :
    List.Forall₂ Text.Fits (List.replicate operand.width none) (operand.digits value) := by
  have digit (value : Nat) : Text.Fits none (Text.hexDigit value) := by
    refine .inr ⟨rfl, ?_⟩
    rw [Text.hexValue_hexDigit]
    rfl
  cases operand
  case nn => exact .cons (digit _) (.cons (digit _) .nil)
  case nnn => exact .cons (digit _) (.cons (digit _) (.cons (digit _) .nil))
  all_goals exact .cons (digit _) .nil

end Operand

namespace Fields

theorem value_lt (fields : Fields) (operand : Operand) :
    fields.value operand < operand.size := by
  cases operand
  case x => exact fields.x.isLt
  case y => exact fields.y.isLt
  case n => exact fields.n.isLt
  case nn => exact fields.nn.toNat_lt
  case nnn => exact fields.nnn.isLt

theorem ext_value {fields other : Fields}
    (same : ∀ operand, fields.value operand = other.value operand) : fields = other := by
  have x := Fin.ext (same .x)
  have y := Fin.ext (same .y)
  have n := Fin.ext (same .n)
  have nn := UInt8.toNat_inj.mp (same .nn)
  have nnn := Fin.ext (same .nnn)
  cases fields
  cases other
  congr

/-- A replaced operand has its new value and the others keep theirs. -/
theorem value_set (fields : Fields) {value : Nat} {operand : Operand}
    (bound : value < operand.size) (other : Operand) :
    (fields.set value operand).value other =
      if other = operand then value else fields.value other := by
  cases operand <;> cases other
  all_goals first
    | rfl
    | exact Nat.mod_eq_of_lt bound

end Fields

namespace MnemonicPart

/-- Reading the parts of a mnemonic gives the operands that they write. -/
theorem foldlM_letters (given fields : Fields) (parts : List MnemonicPart) (rest : List Char) :
    ∃ final,
      parts.foldlM read? (fields, parts.flatMap (letters given) ++ rest) = some (final, rest) ∧
        ∀ operand, final.value operand =
          if operand ∈ parts.filterMap operand? then given.value operand
          else fields.value operand := by
  induction parts generalizing fields with
  | nil => exact ⟨fields, rfl, fun _ => rfl⟩
  | cons part parts ih =>
      cases part with
      | text fixed =>
          obtain ⟨final, reads, values⟩ := ih fields
          refine ⟨final, ?_, values⟩
          rw [← reads, List.foldlM_cons, List.flatMap_cons, List.append_assoc]
          simp [read?, letters, List.dropPrefix?_append_of_beq]
      | operand field =>
          have bound := given.value_lt field
          obtain ⟨final, reads, values⟩ := ih (fields.set (given.value field) field)
          refine ⟨final, ?_, fun operand => ?_⟩
          · rw [← reads, List.foldlM_cons, List.flatMap_cons, List.append_assoc]
            simp [read?, letters, Operand.readHex_digits field bound]
          · rw [values, Fields.value_set fields bound]
            by_cases same : operand = field
            · simp [operand?, same]
            · simp [operand?, same]

/-- A part writes letters that fit its places. -/
theorem fits_letters (fields : Fields) (part : MnemonicPart) :
    List.Forall₂ Text.Fits part.slots (part.letters fields) := by
  cases part with
  | text fixed =>
      change List.Forall₂ Text.Fits (fixed.toList.map some) fixed.toList
      rw [List.forall₂_map_left_iff, List.forall₂_same]
      exact fun letter _ => .inl rfl
  | operand field => exact field.fits_digits (fields.value field)

/-- Letters that are read are those of the parts, and other operands are left. -/
theorem eq_letters_of_foldlM {fields final : Fields} {parts : List MnemonicPart}
    {given rest : List Char} (distinct : (parts.filterMap operand?).Nodup)
    (reads : parts.foldlM read? (fields, given) = some (final, rest)) :
    given = parts.flatMap (letters final) ++ rest ∧
      ∀ operand ∉ parts.filterMap operand?, final.value operand = fields.value operand := by
  induction parts generalizing fields given with
  | nil =>
      cases reads
      exact ⟨rfl, fun _ _ => rfl⟩
  | cons part parts ih =>
      rw [List.foldlM_cons] at reads
      obtain ⟨⟨middle, behind⟩, first, others⟩ := Option.bind_eq_some_iff.mp reads
      cases part with
      | text fixed =>
          obtain ⟨_, dropped, same⟩ := Option.map_eq_some_iff.mp first
          cases same
          obtain ⟨front, rfl, equal⟩ := List.dropPrefix?_eq_some_iff.mp dropped
          obtain ⟨written, kept⟩ := ih distinct others
          refine ⟨?_, kept⟩
          rw [List.flatMap_cons, List.append_assoc, ← written, beq_iff_eq.mp equal]
          rfl
      | operand field =>
          obtain ⟨_, digits, same⟩ := Option.map_eq_some_iff.mp first
          cases same
          obtain ⟨bound, rfl⟩ := field.digits_of_readHex digits
          obtain ⟨fresh, distinct⟩ := List.nodup_cons.mp distinct
          obtain ⟨written, kept⟩ := ih distinct others
          -- No later part writes the operand, so the final value is the one that was read.
          have value := kept field fresh
          rw [Fields.value_set _ bound, if_pos rfl] at value
          refine ⟨?_, fun operand untouched => ?_⟩
          · rw [List.flatMap_cons, List.append_assoc, ← written, letters, value]
          · rw [kept operand (List.not_mem_of_not_mem_cons untouched), Fields.value_set _ bound,
              if_neg (List.ne_of_not_mem_cons untouched)]

end MnemonicPart

namespace Instruction

/-- A kind and operands give back the instruction that has them. -/
theorem instruction_fields (instruction : Instruction) :
    instruction.opcode.instruction instruction.fields = instruction := by
  cases instruction <;> rfl

/-- The kind takes from operands what the instruction has. -/
theorem instruction_eq {instruction : Instruction} {fields : Fields}
    (same : ∀ operand ∈ instruction.opcode.operands,
      fields.value operand = instruction.fields.value operand) :
    instruction.opcode.instruction fields = instruction := by
  have held : (instruction.opcode.instruction fields).fields = instruction.fields := by
    apply Fields.ext_value
    intro operand
    have values := instruction.opcode.value_instruction instruction.fields operand
    rw [instruction.instruction_fields] at values
    rw [Opcode.value_instruction, values]
    split
    · exact same operand ‹_›
    · rfl
  rw [← instruction_fields (instruction.opcode.instruction fields), held,
    Opcode.opcode_instruction, instruction.instruction_fields]

end Instruction

namespace Opcode

theorem nodup_operands (opcode : Opcode) : opcode.operands.Nodup := by
  cases opcode
  case arithmetic operation =>
    rw [operands_arithmetic]
    decide
  all_goals decide

theorem mem_all (opcode : Opcode) : opcode ∈ all := by
  cases opcode
  case arithmetic operation => cases operation <;> decide
  all_goals decide

/-- An instruction is read with a kind exactly if it is of the kind and writes the letters. -/
theorem read_eq_some_iff (opcode : Opcode) (letters : List Char) (instruction : Instruction) :
    opcode.read? letters = some instruction ↔
      instruction.opcode = opcode ∧ instruction.letters = letters := by
  constructor
  · intro reads
    unfold read? at reads
    split at reads
    · rename_i final whole
      cases reads
      obtain ⟨written, kept⟩ := MnemonicPart.eq_letters_of_foldlM opcode.nodup_operands whole
      have held : (opcode.instruction final).fields = final := by
        apply Fields.ext_value
        intro operand
        rw [opcode.value_instruction]
        split
        · rfl
        · rw [kept operand ‹_›]
          cases operand <;> rfl
      refine ⟨opcode.opcode_instruction final, ?_⟩
      rw [written, List.append_nil, Instruction.letters, held, opcode.opcode_instruction]
      rfl
    · contradiction
  · rintro ⟨rfl, rfl⟩
    obtain ⟨final, reads, values⟩ :=
      MnemonicPart.foldlM_letters instruction.fields {} instruction.opcode.shape []
    rw [List.append_nil] at reads
    change instruction.opcode.shape.foldlM MnemonicPart.read? ({}, instruction.letters) = _ at reads
    have same : instruction.opcode.instruction final = instruction := by
      apply Instruction.instruction_eq
      intro operand used
      exact (values operand).trans (if_pos used)
    rw [read?, reads]
    exact congrArg some same

/-- The letters of an instruction fit the places of its kind. -/
theorem fits_letters (instruction : Instruction) :
    List.Forall₂ Text.Fits instruction.opcode.slots instruction.letters := by
  change List.Forall₂ Text.Fits (instruction.opcode.shape.flatMap MnemonicPart.slots)
    (instruction.opcode.shape.flatMap (MnemonicPart.letters instruction.fields))
  induction instruction.opcode.shape with
  | nil => exact .nil
  | cons part parts ih =>
      exact List.rel_append (part.fits_letters instruction.fields) ih

/-- The places of different kinds of instruction do not agree. -/
theorem eq_of_agree {opcode other : Opcode}
    (agree : List.Forall₂ (fun slot other => Text.agree slot other) opcode.slots other.slots) :
    opcode = other := by
  -- Two kinds differ in length or in a letter, or one has a digit where the other has no digit.
  have apart : ∀ opcode ∈ all, ∀ other ∈ all,
      List.Forall₂ (fun slot other => Text.agree slot other = true) opcode.slots other.slots →
        opcode = other := by
    decide +kernel
  exact apart opcode opcode.mem_all other other.mem_all agree

end Opcode

namespace Instruction

/-- Instructions that write the same letters are the same. -/
theorem letters_injective : Function.Injective letters := by
  intro first second same
  have fits := Opcode.fits_letters first
  rw [same] at fits
  have kinds := Opcode.eq_of_agree (Text.forall₂_agree fits (Opcode.fits_letters second))
  have reads := (second.opcode.read_eq_some_iff second.letters first).mpr ⟨kinds, same⟩
  rw [(second.opcode.read_eq_some_iff second.letters second).mpr ⟨rfl, rfl⟩] at reads
  exact (Option.some.inj reads).symm

/-- An instruction is read from a text exactly if the text is its mnemonic. -/
theorem ofMnemonic_eq_some_iff (text : String) (instruction : Instruction) :
    ofMnemonic? text = some instruction ↔ instruction.mnemonic = text := by
  have sound {other : Instruction} (reads : ofMnemonic? text = some other) :
      other.letters = text.toList := by
    obtain ⟨opcode, _, reads⟩ := List.exists_of_findSome?_eq_some reads
    exact ((opcode.read_eq_some_iff _ _).mp reads).2
  constructor
  · intro reads
    rw [mnemonic, sound reads, String.ofList_toList]
  · rintro written
    have letters : instruction.letters = text.toList := by
      rw [← written, mnemonic, String.toList_ofList]
    have reads := (instruction.opcode.read_eq_some_iff _ _).mpr ⟨rfl, letters⟩
    have found : (ofMnemonic? text).isSome := by
      rw [ofMnemonic?, List.findSome?_isSome_iff]
      exact ⟨instruction.opcode, instruction.opcode.mem_all, by rw [reads]; rfl⟩
    obtain ⟨other, reads⟩ := Option.isSome_iff_exists.mp found
    rw [reads, letters_injective ((sound reads).trans letters.symm)]

/-- Instructions with the same mnemonic are the same. -/
theorem mnemonic_injective : Function.Injective mnemonic := by
  intro first second same
  have reads := (ofMnemonic_eq_some_iff _ first).mpr same
  rw [(ofMnemonic_eq_some_iff _ second).mpr rfl] at reads
  exact (Option.some.inj reads).symm

end Instruction

namespace Decoded

/-- Decoded words stand for the same instruction if they are the same or both `9xyn`, with the same
registers. -/
theorem instruction_eq_iff {value other : Int} {decoded decodedOther : Decoded}
    (decodes : ofInteger value = .ok decoded) (decodesOther : ofInteger other = .ok decodedOther) :
    decoded.instruction = decodedOther.instruction ↔
      value = other ∨ value / 4096 = 9 ∧ other / 4096 = 9 ∧
        value / 256 % 16 = other / 256 % 16 ∧ value / 16 % 16 = other / 16 % 16 := by
  obtain ⟨rfl, held⟩ := (ofInteger_eq_ok_iff value decoded).mp decodes
  obtain ⟨rfl, heldOther⟩ := (ofInteger_eq_ok_iff other decodedOther).mp decodesOther
  constructor
  · intro same
    have encoded := Instruction.toNat_word_of_ofWord held
    rw [same, Instruction.toNat_word_of_ofWord heldOther] at encoded
    split at encoded <;> split at encoded <;> omega
  · rintro (same | ⟨family, familyOther, same, sameY⟩)
    · have words : decoded.word = decodedOther.word :=
        UInt16.toNat_inj.mp (Int.natCast_inj.mp same)
      rw [words, heldOther] at held
      exact (Option.some.inj held).symm
    · have fits : Opcode.skipUnequal.Matches decoded.word := by
        change decoded.word.toNat / 4096 = 9
        omega
      have fitsOther : Opcode.skipUnequal.Matches decodedOther.word := by
        change decodedOther.word.toNat / 4096 = 9
        omega
      rw [Instruction.ofWord_of_matches fits] at held
      rw [Instruction.ofWord_of_matches fitsOther] at heldOther
      rw [← Option.some.inj held, ← Option.some.inj heldOther, Opcode.instruction,
        Opcode.instruction, Instruction.skipUnequal.injEq, Fin.ext_iff, Fin.ext_iff,
        Fields.ofWord_x, Fields.ofWord_x, Fields.ofWord_y, Fields.ofWord_y]
      omega

/-- Mnemonics are unambiguous. One reader gets every instruction back from its mnemonic and accepts
no other text. Two words have the same mnemonic if they are the same or both `9xyn`, with the same
registers, and then they do the same to every machine. -/
theorem mnemonics_are_unambiguous :
    (∀ text instruction,
      Instruction.ofMnemonic? text = some instruction ↔ instruction.mnemonic = text) ∧
    ∀ value other decoded decodedOther, ofInteger value = .ok decoded →
      ofInteger other = .ok decodedOther →
      let same := decoded.instruction.mnemonic = decodedOther.instruction.mnemonic
      (same ↔ decoded.instruction.opcode = decodedOther.instruction.opcode ∧
        decoded.instruction.fields = decodedOther.instruction.fields) ∧
      (same ↔ value = other ∨ value / 4096 = 9 ∧ other / 4096 = 9 ∧
        value / 256 % 16 = other / 256 % 16 ∧ value / 16 % 16 = other / 16 % 16) ∧
      (same → ∀ machine : Machine,
        machine.executeWord decoded.word = machine.executeWord decodedOther.word) := by
  refine ⟨Instruction.ofMnemonic_eq_some_iff, ?_⟩
  intro value other decoded decodedOther decodes decodesOther same
  have instructions : same ↔ decoded.instruction = decodedOther.instruction :=
    Instruction.mnemonic_injective.eq_iff
  refine ⟨?_, instructions.trans (instruction_eq_iff decodes decodesOther), ?_⟩
  · rw [instructions]
    constructor
    · intro equal
      rw [equal]
      exact ⟨rfl, rfl⟩
    · rintro ⟨kinds, operands⟩
      rw [← decoded.instruction.instruction_fields, kinds, operands,
        decodedOther.instruction.instruction_fields]
  · intro printed machine
    have held := ((ofInteger_eq_ok_iff value decoded).mp decodes).2
    have heldOther := ((ofInteger_eq_ok_iff other decodedOther).mp decodesOther).2
    rw [machine.executeWord_decoded held, machine.executeWord_decoded heldOther,
      instructions.mp printed]

/-- The words `9AB7` and `9AB0` have the same mnemonic and do the same. -/
theorem last_digit_is_not_printed :
    ∃ decoded decodedOther,
      ofInteger 0x9AB7 = .ok decoded ∧ ofInteger 0x9AB0 = .ok decodedOther ∧
      Instruction.ofMnemonic? "SNE VA, VB" = some decoded.instruction ∧
      decoded.instruction.mnemonic = decodedOther.instruction.mnemonic ∧
      ∀ machine : Machine, machine.executeWord 0x9AB7 = machine.executeWord 0x9AB0 := by
  obtain ⟨reads, agree⟩ := mnemonics_are_unambiguous
  let skipping : Instruction := .skipUnequal (.ofNat 10) (.ofNat 11)
  have decodes : ofInteger 0x9AB7 = .ok ⟨0x9AB7, skipping⟩ :=
    (ofInteger_eq_ok_iff _ _).mpr ⟨rfl, by decide⟩
  have decodesOther : ofInteger 0x9AB0 = .ok ⟨0x9AB0, skipping⟩ :=
    (ofInteger_eq_ok_iff _ _).mpr ⟨rfl, by decide⟩
  obtain ⟨_, printed, acts⟩ := agree 0x9AB7 0x9AB0 _ _ decodes decodesOther
  have same := printed.mpr (.inr (by decide))
  exact ⟨_, _, decodes, decodesOther, (reads _ _).mpr (by decide), same, acts same⟩

end Decoded

end Chip8
