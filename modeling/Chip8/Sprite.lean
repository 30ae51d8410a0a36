/-
This file draws sprites onto the display.
-/

import Chip8.Bitmap
import Chip8.Error

namespace Chip8

namespace Sprite

/-- The highest bit of a row is its leftmost pixel. -/
def columnShifts : List Nat :=
  (List.range Layout.spriteWidth).reverse

/-- These are the bits of a sprite, row by row. -/
def bits (sprite : List UInt8) : List Bool :=
  sprite.flatMap fun byte => columnShifts.map byte.toNat.testBit

/--
This is the coordinate that lies so many steps behind the one of the corner. They are added as
integers of 32 bits, so that the sum may wrap before the display does.
-/
def wrapped (size : Nat) (corner : Int) (step : Nat) : Nat :=
  ((Int32.ofInt corner + Int32.ofNat step).toInt % size).toNat

theorem wrapped_lt {size : Nat} (positive : 0 < size) (corner : Int) (step : Nat) :
    wrapped size corner step < size := by
  have nonnegative := Int.emod_nonneg (Int32.ofInt corner + Int32.ofNat step).toInt
    (Int.natCast_ne_zero_iff_pos.mpr positive)
  have below := Int.emod_lt_of_pos (Int32.ofInt corner + Int32.ofNat step).toInt
    (Int.natCast_pos.mpr positive)
  rw [wrapped]
  omega

/-- This is the cell of the display that is so many columns and rows behind a corner. -/
def place (x y : Int) (across down : Nat) :
    Bitmap.Cell Layout.screenWidth Layout.screenHeight :=
  (⟨wrapped Layout.screenWidth x across, wrapped_lt (by decide) x across⟩,
    ⟨wrapped Layout.screenHeight y down, wrapped_lt (by decide) y down⟩)

/-- These are the cells on which so many rows of a sprite lie, row by row. -/
def cells (x y : Int) (rows : Nat) :
    List (Bitmap.Cell Layout.screenWidth Layout.screenHeight) :=
  (List.range rows).flatMap fun down =>
    (List.range Layout.spriteWidth).map fun across => place x y across down

end Sprite

namespace Display

/-- This flips the pixels under the set bits of a sprite. -/
def draw (display : Display) (x y : Int) (sprite : List UInt8) : Display :=
  -- All cells are read before the first of them is written.
  let cells := Sprite.cells x y sprite.length
  display.scatter cells (List.zipWith xor (display.gather cells) (Sprite.bits sprite))

/-- This says that a set bit of a sprite lies on a lit pixel, which drawing it switches off. -/
def collides (display : Display) (x y : Int) (sprite : List UInt8) : Bool :=
  let cells := Sprite.cells x y sprite.length
  (List.zipWith and (display.gather cells) (Sprite.bits sprite)).any id

/--
This draws a sprite given by integers and says whether it collides. A value that is no byte is
reported before a sprite that is taller than the display.
-/
def drawIntegers (display : Display) (x y : Int) (values : List Int) :
    Except Error (Display × Bool) := do
  let sprite ← bytesOf values
  if Layout.screenHeight < sprite.length then throw (.spriteTooTall sprite.length)
  return (display.draw x y sprite, display.collides x y sprite)

end Display

end Chip8
