import Chip8.Proofs.Machine.Nesting
import Chip8.Proofs.Sprite

namespace Chip8.Machine

/-- A flag is stored in its register only. -/
theorem register_setFlag (machine : Machine) (flag : Bool) (z : Register) :
    (machine.setFlag flag).register z =
      if z = .flag then (if flag then 1 else 0) else machine.register z :=
  machine.register_setRegister _ _ _

/-- A sprite that lies in memory is drawn at the values of two registers. Then the flag register
tells of a collision. -/
theorem execute_draw_inside {machine : Machine} {rows : Digit}
    (inside : machine.index.toNat + rows.val ≤ 4096) (x y : Register) :
    ∃ sprite drawn collision,
      machine.readBlock machine.index.toNat rows.val = .ok sprite ∧
      machine.display.Blits (machine.register x).toNat (machine.register y).toNat sprite drawn
        collision ∧
      (rows.val = 0 → collision = false) ∧
      machine.execute (.draw x y rows) =
        .ok ({ machine with display := drawn }.setFlag collision) := by
  obtain ⟨sprite, read⟩ : ∃ sprite, machine.readBlock machine.index.toNat rows.val = .ok sprite :=
    ⟨_, (machine.readBlock_ok_iff _ _ _).mpr ⟨by omega, by omega, rfl⟩⟩
  have length := readBlock_length read
  have fits : sprite.length ≤ 32 := by omega
  refine ⟨sprite, _, _, read, machine.display.blits_draw fits _ _, ?_, ?_⟩
  · intro empty
    rw [List.eq_nil_of_length_eq_zero (length.trans empty)]
    exact machine.display.collides_nil _ _
  · rw [execute_draw, read]
    rfl

/-- Drawing a sprite flips each pixel of the display by its own bit of the sprite, where columns and
rows wrap, and tells whether a lit pixel went out. The draw instruction does the same with a sprite
from memory, at the values that its registers held before, and leaves everything else alone but the
flag. -/
theorem draw_flips_wrapped_sprite :
    (∀ (display : Display) (x y : Int) (sprite : List UInt8), sprite.length ≤ 32 →
      ∃ drawn collision,
        display.drawIntegers x y (sprite.map fun byte => (byte.toNat : Int)) =
          .ok (drawn, collision) ∧
        display.Blits x y sprite drawn collision) ∧
    ∀ (machine : Machine) (x y : Register) (rows : Digit),
      machine.index.toNat + rows.val ≤ 4096 →
      ∃ sprite drawn collision next,
        sprite.length = rows.val ∧
        (∀ offset < rows.val,
          sprite[offset]? = machine.memory[machine.index.toNat + offset]?) ∧
        machine.display.Blits (machine.register x).toNat (machine.register y).toNat sprite drawn
          collision ∧
        machine.executeWord (Instruction.draw x y rows).word = .ok next ∧
        next.register .flag = (if collision then 1 else 0) ∧
        (∀ z, z ≠ .flag → next.register z = machine.register z) ∧
        next = { machine with display := drawn, registers := next.registers } ∧
        (rows.val = 0 → collision = false) := by
  constructor
  · intro display x y sprite fits
    exact ⟨_, _, display.drawIntegers_bytes fits x y, display.blits_draw fits x y⟩
  · intro machine x y rows inside
    have own : (Instruction.draw x y rows).HasOwnWord := by rintro _ ⟨⟩
    obtain ⟨sprite, drawn, collision, read, blits, still, executed⟩ :=
      execute_draw_inside inside x y
    refine ⟨sprite, drawn, collision, { machine with display := drawn }.setFlag collision,
      readBlock_length read, fun offset below => getElem?_of_readBlock read below, blits,
      (machine.executeWord_word own).trans executed, ?_, ?_, rfl, still⟩
    · rw [register_setFlag, if_pos rfl]
    · intro z other
      rw [register_setFlag, if_neg other]
      rfl

/-- A sprite with its corner at the last pixel, whose column is given as `-1`, wraps in both
directions. The glyph of zero is drawn at the value that the flag register held before. -/
theorem sprite_wraps_at_last_pixel :
    let machine := powerOn (Random.ofSeed 0) 0 0 true
    (∃ drawn collision,
      Display.drawIntegers Bitmap.blank (-1) 31 [0x81, 0x01] = .ok (drawn, collision) ∧
      (∀ column row, column.val = 63 → row.val = 31 → drawn.pixel column row = true) ∧
      (∀ column row, column.val = 6 → row.val = 0 → drawn.pixel column row = true) ∧
      ∀ column row, column.val = 0 → row.val = 0 → drawn.pixel column row = false) ∧
    ∃ next, machine.executeWord 0xDFF5 = .ok next ∧
      ∀ column row, column.val = 3 → row.val = 4 → next.display.pixel column row = true := by
  intro machine
  have dark (column : Fin 64) (row : Fin 32) :
      (Bitmap.blank : Display).pixel column row = false := Bitmap.pixel_ofPixels _ _ _
  obtain ⟨drawn, collision, done, blits⟩ :=
    draw_flips_wrapped_sprite.1 Bitmap.blank (-1) 31 [0x81, 0x01] (by decide)
  refine ⟨⟨drawn, collision, done, ?_, ?_, ?_⟩, ?_⟩
  · intro column row right bottom
    rw [blits.pixel, dark, right, bottom]
    decide
  · intro column row right top
    rw [blits.pixel, dark, right, top]
    decide
  · intro column row left top
    rw [blits.pixel, dark, left, top]
    decide
  · obtain ⟨sprite, shown, collision, next, length, bytes, blits, executed, _, _, rest, _⟩ :=
      draw_flips_wrapped_sprite.2 machine .flag .flag (.ofNat 5) (by decide)
    refine ⟨next, executed, ?_⟩
    intro column row fourth last
    have byte : sprite[4]? = some 0xF0 := by
      rw [bytes 4 (by decide)]
      exact (Vector.getElem?_eq_getElem (by decide)).trans
        (congrArg some (Vector.getElem_ofFn (by decide)))
    have start : (machine.register .flag).toNat = 0 := rfl
    have lit : Sprite.lit sprite 3 4 = true := by
      rw [Sprite.lit, byte]
      decide
    rw [rest, blits.pixel, start, fourth, last]
    simp only [machine, powerOn, dark]
    simpa using lit

end Chip8.Machine
