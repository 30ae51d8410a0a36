/-
This file defines black-and-white pictures, of which the display is one.
-/

import Chip8.Layout

namespace Chip8

/-- This is a picture of lit and unlit pixels. -/
structure Bitmap (width height : Nat) where
  rows : Vector (Vector Bool width) height
deriving DecidableEq

namespace Bitmap

variable {width height : Nat}

/-- This is a column and a row of a picture. -/
abbrev Cell (width height : Nat) := Fin width × Fin height

def ofPixels (pixel : Fin width → Fin height → Bool) : Bitmap width height where
  rows := Vector.ofFn fun y => Vector.ofFn fun x => pixel x y

def pixel (bitmap : Bitmap width height) (x : Fin width) (y : Fin height) : Bool :=
  bitmap.rows[y][x]

def blank : Bitmap width height :=
  ofPixels fun _ _ => false

/-- This lights the pixel in a cell or puts it out. -/
def set (bitmap : Bitmap width height) (cell : Cell width height) (lit : Bool) :
    Bitmap width height where
  rows := bitmap.rows.set cell.2.val
    ((bitmap.rows.get cell.2).set cell.1.val lit cell.1.isLt) cell.2.isLt

/-- These are the pixels in the cells of a list. -/
def gather (bitmap : Bitmap width height) (cells : List (Cell width height)) : List Bool :=
  cells.map fun cell => bitmap.pixel cell.1 cell.2

/-- This sets the pixels in the cells of a list, one after the other. -/
def scatter (bitmap : Bitmap width height) (cells : List (Cell width height))
    (pixels : List Bool) : Bitmap width height :=
  (cells.zip pixels).foldl (fun bitmap write => bitmap.set write.1 write.2) bitmap

@[simp] theorem pixel_ofPixels (pixel : Fin width → Fin height → Bool) (x : Fin width)
    (y : Fin height) : (ofPixels pixel).pixel x y = pixel x y := by
  simp [Bitmap.pixel, ofPixels]

theorem pixel_set (bitmap : Bitmap width height) (cell : Cell width height) (lit : Bool)
    (x : Fin width) (y : Fin height) :
    (bitmap.set cell lit).pixel x y = if (x, y) = cell then lit else bitmap.pixel x y := by
  obtain ⟨column, row⟩ := cell
  simp only [pixel, set, Fin.getElem_fin, Vector.getElem_set, Prod.mk.injEq, Fin.ext_iff]
  by_cases sameRow : y.val = row.val
  · by_cases sameColumn : x.val = column.val
    · simp [sameRow, sameColumn]
    · simp [sameRow, sameColumn, Ne.symm sameColumn, Vector.get]
  · simp [sameRow, Ne.symm sameRow]

@[ext] theorem ext {first second : Bitmap width height}
    (same : ∀ x y, first.pixel x y = second.pixel x y) : first = second := by
  obtain ⟨firstRows⟩ := first
  obtain ⟨secondRows⟩ := second
  congr 1
  apply Vector.ext
  intro row rowInside
  apply Vector.ext
  intro column columnInside
  exact same ⟨column, columnInside⟩ ⟨row, rowInside⟩

end Bitmap

/-- This is the picture that a program draws. -/
abbrev Display := Bitmap Layout.screenWidth Layout.screenHeight

end Chip8
