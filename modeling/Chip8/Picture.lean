/-
This file renders bitmaps as text and as coloured pictures.
-/

import Chip8.Bitmap
import Chip8.Error

namespace Chip8

/-- This is a coloured picture by its rows from the top. -/
structure Picture where
  rows : List (List Colour)
deriving DecidableEq, Repr

namespace Picture

/-- This repeats every item of a list. -/
def stretch {α : Type} (scale : Nat) (items : List α) : List α :=
  items.flatMap (List.replicate scale)

/-- This makes every pixel a square of `scale` pixels. -/
def enlarge (scale : Nat) (picture : Picture) : Picture where
  rows := stretch scale (picture.rows.map (stretch scale))

def height (picture : Picture) : Nat :=
  picture.rows.length

/-- This is the number of pixels in the first row. -/
def width (picture : Picture) : Nat :=
  (picture.rows.map List.length).headD 0

end Picture

namespace Bitmap

variable {width height : Nat}

/-- These are the rows of a bitmap as lists. -/
def lists (bitmap : Bitmap width height) : List (List Bool) :=
  (bitmap.rows.map Vector.toList).toList

/-- This is the bitmap of the given size that lists describe; what they leave out is unlit. -/
def ofLists (width height : Nat) (rows : List (List Bool)) : Bitmap width height :=
  let cells := (rows.map List.toArray).toArray
  ofPixels fun x y => (cells.getD y.val #[]).getD x.val false

/-- This colours each pixel and enlarges the picture. -/
def picture (bitmap : Bitmap width height) (scale : Nat) (colours : ColourPair) : Picture :=
  Picture.enlarge scale
    { rows := bitmap.lists.map fun row =>
        row.map fun lit => if lit then colours.lit else colours.unlit }

/-- This writes a bitmap with a text for each pixel and a line for each row. -/
def text (bitmap : Bitmap width height) (lit unlit : String) : String :=
  "\n".intercalate (bitmap.lists.map fun row =>
    String.join (row.map fun on => if on then lit else unlit))

/-- This is the text for lit pixels unless another one is given. -/
def litText : String := "#"

/-- This is the text for unlit pixels unless another one is given. -/
def unlitText : String := "."

end Bitmap

/-- These are the colours of a named scheme. -/
def ColourScheme.coloursOf (name : String) : Except Error ColourPair :=
  match ofName? name with
  | some scheme => .ok scheme.colours
  | none => .error (.unknownScheme name)

/-- This reads a colour off three integers. -/
def Colour.ofIntegers (red green blue : Int) : Except Error Colour := do
  return { red := ← byteOf red, green := ← byteOf green, blue := ← byteOf blue }

namespace Bitmap

variable {width height : Nat}

/-- This is the scale of pictures unless another one is given. -/
def defaultScale : Int := 8

def checkScale (scale : Int) : Except Error Nat :=
  if scale < 1 then .error (.scaleTooSmall scale) else .ok scale.toNat

/-- This renders a bitmap; the scale is checked before the colours. -/
def render (bitmap : Bitmap width height) (scale : Int) (lit unlit : Except Error Colour) :
    Except Error Picture := do
  let scale ← checkScale scale
  return bitmap.picture scale { lit := ← lit, unlit := ← unlit }

/-- This renders a bitmap in a named scheme, which is checked before the scale. -/
def renderScheme (bitmap : Bitmap width height) (scale : Int) (name : String) :
    Except Error Picture := do
  let colours ← ColourScheme.coloursOf name
  bitmap.render scale (.ok colours.lit) (.ok colours.unlit)

end Bitmap

end Chip8
