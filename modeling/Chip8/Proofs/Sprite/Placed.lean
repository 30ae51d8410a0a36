import Chip8.Proofs.Sprite
import Mathlib.Algebra.BigOperators.Intervals
import Mathlib.Data.Fintype.Prod
import Mathlib.Data.Nat.Bits

namespace Chip8

/-- This is a sprite no taller than the display, with the place of its corner. -/
structure PlacedSprite where
  x : Int
  y : Int
  rows : List UInt8
  fits : rows.length ≤ 32

/-- This says whether a placed sprite covers a pixel. -/
def PlacedSprite.covers (sprite : PlacedSprite) (column : Fin 64) (row : Fin 32) : Bool :=
  Sprite.covers sprite.rows sprite.x sprite.y column row

namespace Display

/-- This draws a placed sprite and says whether it collides. -/
def drawPlaced (display : Display) (sprite : PlacedSprite) : Except Error (Display × Bool) :=
  display.drawIntegers sprite.x sprite.y (sprite.rows.map fun byte => (byte.toNat : Int))

/-- This draws one placed sprite after the other. -/
def drawAll (display : Display) (sprites : List PlacedSprite) : Except Error Display :=
  sprites.foldlM (fun display sprite => (display.drawPlaced sprite).map Prod.fst) display

theorem drawPlaced_eq (display : Display) (sprite : PlacedSprite) :
    display.drawPlaced sprite =
      .ok (display.draw sprite.x sprite.y sprite.rows,
        display.collides sprite.x sprite.y sprite.rows) :=
  display.drawIntegers_bytes sprite.fits sprite.x sprite.y

/-- Sprites flip the pixels that an odd number of them covers. -/
theorem exists_drawAll (display : Display) (sprites : List PlacedSprite) :
    ∃ final, display.drawAll sprites = .ok final ∧
      ∀ column row, final.pixel column row =
        (display.pixel column row ^^
          (sprites.countP fun sprite => sprite.covers column row).bodd) := by
  induction sprites generalizing display with
  | nil =>
      refine ⟨display, rfl, ?_⟩
      intro column row
      simp
  | cons sprite rest ih =>
      obtain ⟨final, drawn, pixel⟩ := ih (display.draw sprite.x sprite.y sprite.rows)
      refine ⟨final, ?_, ?_⟩
      · rw [drawAll, List.foldlM_cons, drawPlaced_eq]
        exact drawn
      · intro column row
        rw [pixel, pixel_draw sprite.fits, List.countP_cons, Nat.bodd_add]
        change ((_ ^^ sprite.covers column row) ^^ _) = _
        cases sprite.covers column row <;> simp

/-- The sprites alone, and not their order, decide what is drawn. -/
theorem drawAll_perm (display : Display) {sprites others : List PlacedSprite}
    (rearranged : sprites.Perm others) : display.drawAll sprites = display.drawAll others := by
  obtain ⟨final, drawn, pixel⟩ := display.exists_drawAll sprites
  obtain ⟨finalOther, drawnOther, pixelOther⟩ := display.exists_drawAll others
  have same : final = finalOther := by
    apply Bitmap.ext
    intro column row
    rw [pixel, pixelOther, rearranged.countP_eq]
  rw [drawn, drawnOther, same]

/-- Sprites that are drawn twice restore the display. -/
theorem drawAll_drawAll {display final : Display} {sprites : List PlacedSprite}
    (drawn : display.drawAll sprites = .ok final) : final.drawAll sprites = .ok display := by
  obtain ⟨once, drawnOnce, pixelOnce⟩ := display.exists_drawAll sprites
  cases Except.ok.inj (drawn.symm.trans drawnOnce)
  obtain ⟨twice, drawnTwice, pixelTwice⟩ := final.exists_drawAll sprites
  have same : twice = display := by
    apply Bitmap.ext
    intro column row
    rw [pixelTwice, pixelOnce, Bool.xor_assoc, Bool.xor_self, Bool.xor_false]
  rw [drawnTwice, same]

end Display

namespace Bitmap

variable {width height : Nat}

/-- This is the number of pixels for which something holds. -/
def count (shown : Fin width → Fin height → Bool) : Nat :=
  (Finset.univ.filter fun place : Fin width × Fin height => shown place.1 place.2 = true).card

/-- This is the number of lit pixels. -/
def litCount (bitmap : Bitmap width height) : Nat :=
  count bitmap.pixel

/-- This is the number of pixels that are lit in a picture and unlit in a later one. -/
def lostCount (bitmap later : Bitmap width height) : Nat :=
  count fun column row => bitmap.pixel column row && !later.pixel column row

theorem count_pos_iff (shown : Fin width → Fin height → Bool) :
    0 < count shown ↔ ∃ column row, shown column row = true := by
  rw [count, Finset.card_pos]
  constructor
  · rintro ⟨⟨column, row⟩, member⟩
    exact ⟨column, row, (Finset.mem_filter.mp member).2⟩
  · rintro ⟨column, row, held⟩
    exact ⟨(column, row), Finset.mem_filter.mpr ⟨Finset.mem_univ _, held⟩⟩

/-- Of two sets of pixels, those in exactly one of them and twice those in both make up the two
sets. -/
theorem count_xor (first second : Fin width → Fin height → Bool) :
    count (fun column row => first column row ^^ second column row) +
        2 * count (fun column row => first column row && second column row) =
      count first + count second := by
  simp only [count, Finset.card_filter, two_mul, ← Finset.sum_add_distrib]
  apply Finset.sum_congr rfl
  rintro ⟨column, row⟩ _
  cases first column row <;> cases second column row <;> rfl

end Bitmap

namespace Sprite

/-- This is the number of set bits of a byte. -/
def byteBits (byte : UInt8) : Nat :=
  (List.range 8).countP fun bit => byte.toNat.testBit bit

/-- This is the number of set bits of a sprite. -/
def setBits (sprite : List UInt8) : Nat :=
  (sprite.map byteBits).sum

/-- The highest bit of a row is its leftmost pixel, so the bits of a row are counted from the other
end. -/
theorem countP_columns (byte : UInt8) :
    (columnShifts.map byte.toNat.testBit).countP id = byteBits byte := by
  rw [List.countP_map, columnShifts, List.countP_reverse]
  rfl

/-- A sprite has as many lit pixels as set bits. -/
theorem countP_bits (sprite : List UInt8) : (bits sprite).countP id = setBits sprite := by
  rw [bits, List.countP_flatMap, setBits]
  congr 1
  apply List.map_congr_left
  intro byte _
  exact countP_columns byte

/-- These are the cells under the set bits of a sprite. -/
def litCells (sprite : List UInt8) (x y : Int) : List (Bitmap.Cell 64 32) :=
  ((offsets sprite).filter fun offset => lit sprite offset.2 offset.1).map fun offset =>
    place x y offset.2 offset.1

theorem length_litCells (sprite : List UInt8) (x y : Int) :
    (litCells sprite x y).length = setBits sprite := by
  rw [litCells, List.length_map, ← List.countP_eq_length_filter, ← countP_bits, bits_eq,
    List.countP_map]
  rfl

/-- A sprite that is no taller than the display covers the cells under its set bits. -/
theorem mem_litCells {sprite : List UInt8} (fits : sprite.length ≤ 32) (x y : Int)
    (column : Fin 64) (row : Fin 32) :
    (column, row) ∈ litCells sprite x y ↔ covers sprite x y column row = true := by
  simp only [litCells, List.mem_map, List.mem_filter]
  constructor
  · rintro ⟨⟨down, across⟩, ⟨member, shown⟩, place⟩
    obtain ⟨high, near⟩ := mem_offsets.mp member
    have bit := covers_place sprite x y near (Nat.lt_of_lt_of_le high fits)
    rw [place] at bit
    exact bit.trans shown
  · intro covered
    obtain ⟨across, down, shown, place⟩ := exists_offset fits covered
    exact ⟨(down, across), ⟨lit_inside shown, shown⟩, place⟩

/-- Set bits of a sprite that is no taller than the display share no cell. -/
theorem nodup_litCells {sprite : List UInt8} (fits : sprite.length ≤ 32) (x y : Int) :
    (litCells sprite x y).Nodup := by
  have different := nodup_cells fits x y
  rw [cells_eq] at different
  exact different.sublist (List.filter_sublist.map _)

end Sprite

/-- A placed sprite covers as many pixels as it has set bits. -/
theorem PlacedSprite.count_covers (sprite : PlacedSprite) :
    Bitmap.count sprite.covers = Sprite.setBits sprite.rows := by
  have cells : (Finset.univ.filter fun place : Fin 64 × Fin 32 =>
      sprite.covers place.1 place.2 = true) =
        (Sprite.litCells sprite.rows sprite.x sprite.y).toFinset := by
    ext ⟨column, row⟩
    rw [Finset.mem_filter_univ, List.mem_toFinset, Sprite.mem_litCells sprite.fits]
    rfl
  rw [Bitmap.count, cells, List.toFinset_card_of_nodup (Sprite.nodup_litCells sprite.fits _ _),
    Sprite.length_litCells]

namespace Display

/-- A drawn sprite adds its set bits to the lit pixels, except that each pixel it switches off
counts the other way. -/
theorem litCount_draw (display : Display) (sprite : PlacedSprite) :
    (display.draw sprite.x sprite.y sprite.rows).litCount +
        2 * display.lostCount (display.draw sprite.x sprite.y sprite.rows) =
      display.litCount + Sprite.setBits sprite.rows := by
  have flipped : (display.draw sprite.x sprite.y sprite.rows).pixel = fun column row =>
      (display.pixel column row ^^ sprite.covers column row) := by
    funext column row
    exact display.pixel_draw sprite.fits _ _ column row
  have lost : display.lostCount (display.draw sprite.x sprite.y sprite.rows) =
      Bitmap.count fun column row => display.pixel column row && sprite.covers column row := by
    rw [Bitmap.lostCount, flipped]
    apply congrArg Bitmap.count
    funext column row
    change (_ && !(_ ^^ _)) = _
    cases display.pixel column row <;> cases sprite.covers column row <;> rfl
  rw [lost, Bitmap.litCount, flipped, Bitmap.count_xor, sprite.count_covers, Bitmap.litCount]

/-- A sprite that is drawn twice restores the display. -/
theorem draw_draw (display : Display) (sprite : PlacedSprite) :
    (display.draw sprite.x sprite.y sprite.rows).draw sprite.x sprite.y sprite.rows = display := by
  apply Bitmap.ext
  intro column row
  rw [pixel_draw sprite.fits, pixel_draw sprite.fits]
  simp

/-- A sprite collides exactly if it switches some pixel off. -/
theorem collides_iff_lost (display : Display) (sprite : PlacedSprite) :
    display.collides sprite.x sprite.y sprite.rows = true ↔
      0 < display.lostCount (display.draw sprite.x sprite.y sprite.rows) := by
  rw [collides_iff sprite.fits, Bitmap.lostCount, Bitmap.count_pos_iff]
  simp

/-- Of two draws of one sprite at one place at least one collides exactly if the sprite has a set
bit. -/
theorem collides_again_iff (display : Display) (sprite : PlacedSprite) :
    display.collides sprite.x sprite.y sprite.rows = true ∨
        (display.draw sprite.x sprite.y sprite.rows).collides sprite.x sprite.y sprite.rows =
          true ↔
      0 < Sprite.setBits sprite.rows := by
  have first := display.litCount_draw sprite
  have second := (display.draw sprite.x sprite.y sprite.rows).litCount_draw sprite
  rw [draw_draw] at second
  rw [collides_iff_lost, collides_iff_lost, draw_draw]
  -- Both equations together say that the draws switch off as many pixels as there are set bits.
  omega

/-- Sprites act on the display like a group of exclusive ors. They can be drawn in any order, and
drawing them again in any order restores the display. A sprite changes the number of lit pixels by
its set bits less twice the pixels that it switches off, and it collides exactly if there are such
pixels. Of two draws of one sprite at one place at least one collides exactly if the sprite has a
set bit. -/
theorem sprites_act_by_xor (display : Display) :
    (∀ sprites others : List PlacedSprite, sprites.Perm others →
      ∃ final, display.drawAll sprites = .ok final ∧ display.drawAll others = .ok final ∧
        final.drawAll others = .ok display) ∧
    ∀ sprite : PlacedSprite, ∃ drawn collision collisionAgain,
      display.drawPlaced sprite = .ok (drawn, collision) ∧
      (drawn.litCount : Int) - display.litCount =
        Sprite.setBits sprite.rows - 2 * display.lostCount drawn ∧
      (collision = true ↔ 0 < display.lostCount drawn) ∧
      drawn.drawPlaced sprite = .ok (display, collisionAgain) ∧
      (collision = true ∨ collisionAgain = true ↔ 0 < Sprite.setBits sprite.rows) := by
  constructor
  · intro sprites others rearranged
    obtain ⟨final, drawn, _⟩ := display.exists_drawAll sprites
    have drawnOther : display.drawAll others = .ok final := by
      rw [← display.drawAll_perm rearranged, drawn]
    exact ⟨final, drawn, drawnOther, drawAll_drawAll drawnOther⟩
  · intro sprite
    have counted := display.litCount_draw sprite
    refine ⟨_, _, _, display.drawPlaced_eq sprite, ?counts, display.collides_iff_lost sprite,
      ?again, display.collides_again_iff sprite⟩
    case counts => omega
    case again => rw [drawPlaced_eq, draw_draw]

/-- Two sprites of which one wraps give the same display in either order. One pixel that is drawn
twice is lit first and collides then. -/
theorem wrapped_sprites_commute :
    let wrapped : PlacedSprite := ⟨-1, 31, [0x81, 0x01], by decide⟩
    let tall : PlacedSprite := ⟨60, 0, List.replicate 32 0xFF, by decide⟩
    (∃ final, Display.drawAll Bitmap.blank [wrapped, tall] = .ok final ∧
      Display.drawAll Bitmap.blank [tall, wrapped] = .ok final ∧
      final.drawAll [tall, wrapped] = .ok Bitmap.blank) ∧
    ∃ drawn collision collisionAgain,
      Display.drawPlaced Bitmap.blank wrapped = .ok (drawn, collision) ∧
      drawn.drawPlaced wrapped = .ok (Bitmap.blank, collisionAgain) ∧
      (collision = true ∨ collisionAgain = true) := by
  intro wrapped tall
  obtain ⟨orders, counts⟩ := sprites_act_by_xor Bitmap.blank
  obtain ⟨drawn, collision, collisionAgain, first, _, _, second, collides⟩ := counts wrapped
  exact ⟨orders _ _ (List.Perm.swap tall wrapped []), drawn, collision, collisionAgain, first,
    second, collides.mpr (by decide)⟩

end Display

end Chip8
