import Chip8.Proofs.Machine.Faults
import Chip8.Proofs.Machine.Nesting
import Chip8.Proofs.Sprite
import Mathlib.Data.List.GetD
import Mathlib.Data.Set.Insert

namespace Chip8

/-- This is a part of a machine that an instruction can change on its own. -/
inductive Place where
  | memory (address : Fin 4096)
  | register (x : Register)
  | index
  | pc
  | stack
  | delayTimer
  | soundTimer
  | key (key : Digit)
  | pixel (column : Fin 64) (row : Fin 32)
  | random
  | halted
  | modern

/-- This is the type of what a place holds. -/
def Place.Content : Place → Type
  | .memory _ => UInt8
  | .register _ => UInt8
  | .index => UInt16
  | .pc => UInt16
  | .stack => CallStack
  | .delayTimer => UInt8
  | .soundTimer => UInt8
  | .key _ => Bool
  | .pixel _ _ => Bool
  | .random => Random.Pair
  | .halted => Bool
  | .modern => Bool

/-- This says that an operation on registers also sets the flag. -/
def Arithmetic.setsFlag : Arithmetic → Bool
  | .set => false
  | .or => false
  | .and => false
  | .xor => false
  | _ => true

namespace Machine

/-- This is what a machine holds at a place. -/
def content (machine : Machine) : (place : Place) → place.Content
  | .memory address => machine.memory.get address
  | .register x => machine.register x
  | .index => machine.index
  | .pc => machine.pc
  | .stack => machine.stack
  | .delayTimer => machine.delayTimer
  | .soundTimer => machine.soundTimer
  | .key key => machine.keypad.get key
  | .pixel column row => machine.display.pixel column row
  | .random => machine.random
  | .halted => machine.halted
  | .modern => machine.modern

/-- These are the places that an instruction may change on a machine. -/
def footprint (machine : Machine) : Instruction → Set Place
  | .clearScreen => {place | ∃ column row, place = .pixel column row}
  | .returnToCaller => {.stack, .pc}
  | .system _ => ∅
  | .jump _ => {.pc, .halted}
  | .call _ => {.stack, .pc}
  | .skipEqualByte _ _ => {.pc}
  | .skipUnequalByte _ _ => {.pc}
  | .skipEqual _ _ => {.pc}
  | .loadByte x _ => {.register x}
  | .addByte x _ => {.register x}
  | .arithmetic operation x _ =>
    {place | place = .register x ∨ operation.setsFlag = true ∧ place = .register .flag}
  | .skipUnequal _ _ => {.pc}
  | .loadIndex _ => {.index}
  | .jumpOffset _ => {.pc}
  | .random x _ => {.register x, .random}
  | .draw x y rows =>
    {place | place = .register .flag ∨
      ∃ column row across down, place = .pixel column row ∧ across < 8 ∧ down < rows.val ∧
        column.val = ((machine.register x).toNat + across) % 64 ∧
        row.val = ((machine.register y).toNat + down) % 32}
  | .skipPressed _ => {.pc}
  | .skipReleased _ => {.pc}
  | .readDelay x => {.register x}
  | .waitKey _ => ∅
  | .writeDelay _ => {.delayTimer}
  | .writeSound _ => {.soundTimer}
  | .addIndex _ => {.index}
  | .loadGlyph _ => {.index}
  | .storeDecimal _ =>
    {place | ∃ address, place = .memory address ∧
      machine.index.toNat ≤ address.val ∧ address.val < machine.index.toNat + 3}
  | .storeRegisters x =>
    {place | (∃ address, place = .memory address ∧
        machine.index.toNat ≤ address.val ∧ address.val ≤ machine.index.toNat + x.val) ∨
      machine.modern = false ∧ place = .index}
  | .loadRegisters x =>
    {place | (∃ y ≤ x, place = .register y) ∨ machine.modern = false ∧ place = .index}

/-- Machines that hold the same at every place are equal. -/
theorem eq_of_content {machine other : Machine}
    (same : ∀ place, other.content place = machine.content place) : other = machine := by
  have memory : other.memory = machine.memory :=
    Vector.ext fun address inside => same (.memory ⟨address, inside⟩)
  have registers : other.registers = machine.registers :=
    Vector.ext fun x inside => same (.register ⟨x, inside⟩)
  have keypad : other.keypad = machine.keypad :=
    Vector.ext fun key inside => same (.key ⟨key, inside⟩)
  have display : other.display = machine.display :=
    Bitmap.ext fun column row => same (.pixel column row)
  have index := same .index
  have pc := same .pc
  have stack := same .stack
  have delayTimer := same .delayTimer
  have soundTimer := same .soundTimer
  have random := same .random
  have halted := same .halted
  have modern := same .modern
  cases machine
  cases other
  simp only [content] at *
  congr

/-- New registers change those that they differ in. -/
theorem content_setFile (machine : Machine) (registers : Vector UInt8 16) {place : Place}
    (kept : ∀ x : Register, place = .register x →
      registers.get x = machine.registers.get x) :
    { machine with registers }.content place = machine.content place := by
  cases place with
  | register x => exact kept x rfl
  | _ => rfl

/-- A new memory changes the cells that it differs in. -/
theorem content_setMemory (machine : Machine) (memory : Vector UInt8 4096) {place : Place}
    (kept : ∀ address : Fin 4096, place = .memory address →
      memory.get address = machine.memory.get address) :
    { machine with memory }.content place = machine.content place := by
  cases place with
  | memory address => exact kept address rfl
  | _ => rfl

/-- A new display changes the pixels that it differs in. -/
theorem content_setDisplay (machine : Machine) (display : Display) {place : Place}
    (kept : ∀ column row, place = .pixel column row →
      display.pixel column row = machine.display.pixel column row) :
    { machine with display }.content place = machine.content place := by
  cases place with
  | pixel column row => exact kept column row rfl
  | _ => rfl

theorem content_setRegister (machine : Machine) (x : Register) (value : UInt8) {place : Place}
    (outside : place ≠ .register x) :
    (machine.setRegister x value).content place = machine.content place := by
  apply content_setFile
  rintro y rfl
  have different : x.val ≠ y.val := by
    intro same
    exact outside (congrArg _ (Fin.ext same.symm))
  exact Vector.getElem_set_ne x.isLt y.isLt different

theorem content_skipIf (machine : Machine) (condition : Bool) {place : Place}
    (outside : place ≠ .pc) : (machine.skipIf condition).content place = machine.content place := by
  cases condition with
  | false => rfl
  | true =>
      cases place with
      | pc => exact absurd rfl outside
      | _ => rfl

theorem content_setRandom (machine : Machine) (random : Random.Pair) {place : Place}
    (outside : place ≠ .random) :
    { machine with random }.content place = machine.content place := by
  cases place with
  | random => exact absurd rfl outside
  | _ => rfl

/-- The end of a block transfer changes the index in legacy mode only. -/
theorem content_passBlock (machine : Machine) (x : Register) {place : Place}
    (outside : ¬ (machine.modern = false ∧ place = .index)) :
    (machine.passBlock x).content place = machine.content place := by
  unfold passBlock
  split
  · rfl
  · rename_i legacy
    cases place with
    | index => exact absurd ⟨by simpa using legacy, rfl⟩ outside
    | _ => rfl

/-- An operation changes its first register, and the flag if it sets one. -/
theorem content_calculate (machine : Machine) (operation : Arithmetic) (x y : Register)
    {place : Place} (outside : place ≠ .register x)
    (unflagged : ¬ (operation.setsFlag = true ∧ place = .register .flag)) :
    (machine.calculate operation x y).content place = machine.content place := by
  unfold calculate
  cases operation
  case set | or | and | xor => exact machine.content_setRegister _ _ outside
  all_goals
    have unset : place ≠ .register .flag := fun same => unflagged ⟨rfl, same⟩
    exact (content_setRegister _ _ _ unset).trans (machine.content_setRegister _ _ outside)

/-- A write changes the cells of its block only. -/
theorem content_writeBlock {machine next : Machine} {bytes : List UInt8}
    (written : machine.writeBlock machine.index.toNat bytes = .ok next) {place : Place}
    (outside : ¬ ∃ address, place = .memory address ∧
      machine.index.toNat ≤ address.val ∧ address.val < machine.index.toNat + bytes.length) :
    next.content place = machine.content place := by
  rw [writeBlock_ok written]
  apply content_setMemory
  rintro address rfl
  apply overlay_outside _ address.isLt
  intro inside
  exact outside ⟨address, rfl, by simpa using inside⟩

/-- A list of bytes changes as many registers as it has bytes. -/
theorem content_setRegisters (machine : Machine) {bytes : List UInt8} {place : Place}
    (outside : ¬ ∃ y : Register, place = .register y ∧ y.val < bytes.length) :
    (machine.setRegisters bytes).content place = machine.content place := by
  apply content_setFile
  rintro y rfl
  have above : bytes.length ≤ y.val := Nat.le_of_not_lt fun below => outside ⟨y, rfl, below⟩
  have replaced : (Vector.ofFn fun x => bytes.getD x.val (machine.register x)).get y =
      bytes.getD y.val (machine.register y) := Vector.getElem_ofFn y.isLt
  rw [List.getD_eq_default _ _ above] at replaced
  exact replaced

/-- A drawn sprite changes the pixels of its window only. -/
theorem content_draw (machine : Machine) (sprite : List UInt8) (x y : Nat) {place : Place}
    (outside : ¬ ∃ column row across down, place = .pixel column row ∧ across < 8 ∧
      down < sprite.length ∧ column.val = (x + across) % 64 ∧ row.val = (y + down) % 32) :
    { machine with display := machine.display.draw x y sprite }.content place =
      machine.content place := by
  apply content_setDisplay
  rintro column row rfl
  apply Bitmap.pixel_scatter_of_not_mem
  rw [Sprite.mem_cells]
  rintro ⟨down, high, across, near, place⟩
  obtain ⟨columnIs, rowIs⟩ := Sprite.place_natCast x y across down
  rw [place] at columnIs rowIs
  exact outside ⟨column, row, across, down, rfl, near, high, columnIs, rowIs⟩

/-- An executed instruction changes the places of its footprint only. -/
theorem execute_content {machine next : Machine} {instruction : Instruction}
    (executed : machine.execute instruction = .ok next) {place : Place}
    (outside : place ∉ machine.footprint instruction) :
    next.content place = machine.content place := by
  cases instruction
  case clearScreen =>
    cases executed
    exact machine.content_setDisplay _ fun column row same => absurd ⟨column, row, same⟩ outside
  case returnToCaller =>
    rw [execute_returnToCaller, map_eq_ok_iff] at executed
    obtain ⟨⟨stack, address⟩, _, rfl⟩ := executed
    cases place with
    | stack => exact absurd (.inl rfl) outside
    | pc => exact absurd (.inr rfl) outside
    | _ => rfl
  case system | waitKey =>
    cases executed
    rfl
  case jump target =>
    cases executed
    cases place with
    | pc => exact absurd (.inl rfl) outside
    | halted => exact absurd (.inr rfl) outside
    | _ => rfl
  case call target =>
    rw [execute_call, map_eq_ok_iff] at executed
    obtain ⟨stack, _, rfl⟩ := executed
    cases place with
    | stack => exact absurd (.inl rfl) outside
    | pc => exact absurd (.inr rfl) outside
    | _ => rfl
  case skipEqualByte | skipUnequalByte | skipEqual | skipUnequal | skipPressed | skipReleased =>
    cases executed
    exact machine.content_skipIf _ outside
  case loadByte | addByte | readDelay =>
    cases executed
    exact machine.content_setRegister _ _ outside
  case arithmetic operation x y =>
    cases executed
    obtain ⟨unset, unflagged⟩ := not_or.mp outside
    exact machine.content_calculate operation x y unset unflagged
  case loadIndex | addIndex | loadGlyph =>
    cases executed
    cases place with
    | index => exact absurd rfl outside
    | _ => rfl
  case jumpOffset target =>
    cases executed
    cases place with
    | pc => exact absurd rfl outside
    | _ => rfl
  case random x byte =>
    cases executed
    obtain ⟨unset, undrawn⟩ := not_or.mp outside
    exact (content_setRandom _ _ undrawn).trans (machine.content_setRegister _ _ unset)
  case writeDelay x =>
    cases executed
    cases place with
    | delayTimer => exact absurd rfl outside
    | _ => rfl
  case writeSound x =>
    cases executed
    cases place with
    | soundTimer => exact absurd rfl outside
    | _ => rfl
  case draw x y rows =>
    rw [execute_draw, map_eq_ok_iff] at executed
    obtain ⟨sprite, read, rfl⟩ := executed
    obtain ⟨unflagged, uncovered⟩ := not_or.mp outside
    rw [← readBlock_length read] at uncovered
    exact (content_setRegister _ _ _ unflagged).trans
      (machine.content_draw sprite _ _ uncovered)
  case storeDecimal x =>
    rw [execute_storeDecimal] at executed
    exact content_writeBlock executed outside
  case storeRegisters x =>
    rw [execute_storeRegisters, map_eq_ok_iff] at executed
    obtain ⟨stored, written, rfl⟩ := executed
    obtain ⟨unwritten, unpassed⟩ := not_or.mp outside
    have modern : stored.modern = machine.modern := by rw [writeBlock_ok written]
    rw [← modern] at unpassed
    refine (stored.content_passBlock x unpassed).trans (content_writeBlock written ?_)
    rw [registersThrough_length]
    rintro ⟨address, same, from_index, inside⟩
    exact unwritten ⟨address, same, from_index, by omega⟩
  case loadRegisters x =>
    rw [execute_loadRegisters, map_eq_ok_iff] at executed
    obtain ⟨bytes, read, rfl⟩ := executed
    obtain ⟨unloaded, unpassed⟩ := not_or.mp outside
    have modern : (machine.setRegisters bytes).modern = machine.modern := by
      simp only [setRegisters]
    rw [← modern] at unpassed
    rw [content_passBlock _ x unpassed]
    apply machine.content_setRegisters
    have count : (x.val : Int) + 1 = (x.val + 1 : Nat) := rfl
    rw [count] at read
    rw [readBlock_length read]
    rintro ⟨y, same, below⟩
    exact unloaded ⟨y, Nat.le_of_lt_succ below, same⟩

/-- A halted machine stays halted. -/
theorem Moves.keeps_halted {machine next : Machine} {instruction : Instruction}
    (moved : machine.Moves next instruction) (halted : machine.halted = true) :
    next.halted = true := by
  cases moved with
  | onward _ _ _ _ same => rw [same, halted]
  | skipped _ _ _ _ same => rw [same, halted]
  | jumped _ _ _ raised => rw [raised, halted, Bool.true_or]
  | offset _ _ _ same => rw [same, halted]
  | called _ _ _ same => rw [same, halted]
  | returned _ same => rw [same, halted]

/-- In legacy mode a block transfer leaves the index behind its block, which ends in memory. -/
theorem execute_transfer_index {machine next : Machine} {instruction : Instruction}
    (executed : machine.execute instruction = .ok next) {x : Register}
    (transfers : instruction = .storeRegisters x ∨ instruction = .loadRegisters x)
    (legacy : machine.modern = false) :
    next.index.toNat = machine.index.toNat + x.val + 1 ∧ next.index.toNat ≤ 4096 := by
  have inside : machine.index.toNat + (x.val + 1) ≤ 4096 := by
    by_contra outside
    have refuses : ∃ fault, machine.Refuses instruction fault := by
      rcases transfers with rfl | rfl
      · exact ⟨_, .storeRegisters x (Nat.lt_of_not_le outside)⟩
      · exact ⟨_, .loadRegisters x (Nat.lt_of_not_le outside)⟩
    obtain ⟨fault, refused⟩ := refuses
    rw [(machine.execute_error_iff instruction fault).mpr refused] at executed
    contradiction
  have sum : next.index.toNat = machine.index.toNat + (x.val + 1) := by
    rcases transfers with rfl | rfl
    · rw [execute_storeRegisters, map_eq_ok_iff] at executed
      obtain ⟨stored, written, rfl⟩ := executed
      have index : stored.index = machine.index := by rw [writeBlock_ok written]
      have modern : stored.modern = false := by rw [writeBlock_ok written, legacy]
      rw [passBlock_index_toNat stored x (by rwa [index]), index, modern,
        if_neg Bool.false_ne_true]
    · rw [execute_loadRegisters, map_eq_ok_iff] at executed
      obtain ⟨bytes, _, rfl⟩ := executed
      have index : (machine.setRegisters bytes).index = machine.index := rfl
      have modern : (machine.setRegisters bytes).modern = false := legacy
      rw [passBlock_index_toNat (machine.setRegisters bytes) x (by rwa [index]), index, modern,
        if_neg Bool.false_ne_true]
  omega

/-- No instruction may change the keypad. -/
theorem key_not_mem_footprint (machine : Machine) (instruction : Instruction) (key : Digit) :
    .key key ∉ machine.footprint instruction := by
  cases instruction <;> simp [footprint]

/-- No instruction may change the mode. -/
theorem modern_not_mem_footprint (machine : Machine) (instruction : Instruction) :
    .modern ∉ machine.footprint instruction := by
  cases instruction <;> simp [footprint]

/-- Only a decimal store and a register store may change memory. -/
theorem memory_not_mem_footprint (machine : Machine) {instruction : Instruction}
    (reads : ∀ x, instruction ≠ .storeDecimal x ∧ instruction ≠ .storeRegisters x)
    (address : Fin 4096) : .memory address ∉ machine.footprint instruction := by
  cases instruction
  case storeDecimal x => exact absurd rfl (reads x).1
  case storeRegisters x => exact absurd rfl (reads x).2
  all_goals simp [footprint]

/-- An executed word changes the footprint of its instruction only. A halted machine stays halted,
a block transfer in legacy mode leaves the index behind its block without wrapping, no instruction
changes the keypad or the mode, and only two kinds of stores change memory. -/
theorem executeWord_footprint {machine next : Machine} {word : UInt16}
    (executed : machine.executeWord word = .ok next) :
    ∃ instruction, Instruction.ofWord? word = some instruction ∧
      (∀ place, place ∉ machine.footprint instruction →
        next.content place = machine.content place) ∧
      (machine.footprint instruction = ∅ → next = machine) ∧
      (machine.halted = true → next.halted = true) ∧
      (∀ x, instruction = .storeRegisters x ∨ instruction = .loadRegisters x →
        machine.modern = false →
        next.index.toNat = machine.index.toNat + x.val + 1 ∧ next.index.toNat ≤ 4096) ∧
      next.keypad = machine.keypad ∧ next.modern = machine.modern ∧
      ((∀ x, instruction ≠ .storeDecimal x ∧ instruction ≠ .storeRegisters x) →
        next.memory = machine.memory) := by
  obtain ⟨instruction, decodes, moved⟩ := executeWord_moves executed
  rw [machine.executeWord_decoded decodes] at executed
  have kept (place : Place) (outside : place ∉ machine.footprint instruction) :=
    execute_content executed outside
  refine ⟨instruction, decodes, kept, ?_, moved.keeps_halted,
    fun x transfers legacy => execute_transfer_index executed transfers legacy, ?_, ?_, ?_⟩
  · intro empty
    apply eq_of_content
    intro place
    exact kept place (by simp [empty])
  · exact Vector.ext fun key inside =>
      kept (.key ⟨key, inside⟩) (machine.key_not_mem_footprint instruction _)
  · exact kept .modern (machine.modern_not_mem_footprint instruction)
  · intro reads
    exact Vector.ext fun address inside =>
      kept (.memory ⟨address, inside⟩) (machine.memory_not_mem_footprint reads _)

/-- A store of three registers in legacy mode changes three cells and the index. -/
theorem storeRegisters_footprint :
    let machine := { powerOn (Random.ofSeed 0) 0 0 false with index := 0x300 }
    ∃ next, machine.executeWord 0xF255 = .ok next ∧ next.index.toNat = 0x303 ∧
      next.registers = machine.registers ∧
      ∀ address : Fin 4096, 0x303 ≤ address.val →
        next.memory.get address = machine.memory.get address := by
  intro machine
  have decodes : Instruction.ofWord? 0xF255 = some (.storeRegisters (.ofNat 2)) := by decide
  cases executed : machine.executeWord 0xF255 with
  | error fault =>
      rw [machine.executeWord_decoded decodes, execute_error_iff] at executed
      cases executed with
      | storeRegisters _ outside => exact absurd outside (by decide)
  | ok next =>
      obtain ⟨instruction, same, kept, _, _, index, _⟩ := executeWord_footprint executed
      cases decodes.symm.trans same
      refine ⟨next, rfl, (index _ (.inl rfl) rfl).1, ?_, ?_⟩
      · exact Vector.ext fun x inside => kept (.register ⟨x, inside⟩) (by simp [footprint])
      · intro address behind
        apply kept (.memory address)
        rintro (⟨_, same, _, inside⟩ | ⟨_, same⟩)
        · cases same
          have last : address.val ≤ 0x302 := inside
          omega
        · cases same

end Machine

end Chip8
