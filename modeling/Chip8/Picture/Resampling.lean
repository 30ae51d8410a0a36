/-
This file changes the size of pictures smoothly: each new pixel is mixed from several old ones.
-/

import Chip8.Picture

namespace Chip8

/--
This is how a pixel of a new line is mixed from pixels of an old one: the place of the first old
pixel and the weights of the pixels from there on, in parts of `Blend.unit`.
-/
structure Blend where
  first : Nat
  weights : List Int
deriving DecidableEq, Repr

namespace Blend

/-- The weights of a blend add up to this number, but for their rounding. -/
def unit : Int := 4194304

/-- This rounds a mixed value to the nearest byte. -/
def round (total : Int) : UInt8 :=
  UInt8.ofInt (max 0 (min 255 ((total + unit / 2).fdiv unit)))

/-- This mixes one part of the colours of a line. -/
def mixPart (blend : Blend) (line : Array Colour) (part : Colour → UInt8) : UInt8 :=
  round ((blend.weights.zipIdx blend.first).foldl
    (fun total (weight, place) => total + weight * (part (line.getD place Colour.black)).toNat) 0)

def mix (blend : Blend) (line : Array Colour) : Colour where
  red := blend.mixPart line Colour.red
  green := blend.mixPart line Colour.green
  blue := blend.mixPart line Colour.blue

/-- These are the weights of the outermost three pixels of a line of half the size. -/
def borderWeights : List (List Int) :=
  [[1978344, 1978344, 600549, -295331, -150679, 66728, 16350],
    [-275298, 559811, 1844147, 1844147, 559811, -275298, -140458, 62201, 15241],
    [63384, -143129, -280532, 570455, 1879209, 1879209, 570455, -280532, -143129, 63384, 15531]]

/-- These are the weights of all other pixels of a line of half the size. -/
def innerWeights : List Int :=
  [15473, 63150, -142601, -279497, 568350, 1872276, 1872276, 568350, -279497, -142601, 63150, 15473]

/--
These halve a line of an even size. The weight of a pixel at a distance is that of a sinc function
under one three times as wide, both cut off at three lobes.
-/
def halving (size : Nat) : List Blend :=
  let half := size / 2
  (List.range half).map fun place =>
    match borderWeights[place]?, borderWeights[half - 1 - place]? with
    | some weights, _ => { first := 0, weights }
    | none, some weights => { first := size - weights.length, weights := weights.reverse }
    | none, none => { first := 2 * place - 5, weights := innerWeights }

/--
This is the weight of a pixel by the cubic rule with the slope one half, times four cubes of the
factor of enlargement. Distances count in halves of a new pixel.
-/
def cubicWeight (factor distance : Nat) : Int :=
  let reach : Int := 2 * factor
  let u : Int := distance
  if distance < 2 * factor then 3 * u * u * u - 5 * u * u * reach + 2 * reach * reach * reach
  else if distance < 4 * factor then
    -(u * u * u) + 5 * u * u * reach - 8 * u * reach * reach + 4 * reach * reach * reach
  else 0

/-- This is a part of a whole as a weight; a half is rounded away from zero. -/
def share (whole part : Int) : Int :=
  let size := (2 * (part.natAbs : Int) * unit + whole).fdiv (2 * whole)
  if part < 0 then -size else size

/-- These enlarge a line of a size by a factor with the cubic rule. -/
def enlarging (size factor : Nat) : List Blend :=
  (List.range (size * factor)).map fun place =>
    let centre := 2 * place + 1
    let first := (centre - 3 * factor) / (2 * factor)
    let count := min size ((centre + 5 * factor) / (2 * factor)) - first
    let distance (old : Nat) : Nat :=
      let there := (2 * old + 1) * factor
      (there - centre) + (centre - there)
    let parts := (List.range' first count).map fun old => cubicWeight factor (distance old)
    { first, weights := parts.map (share (parts.foldl (· + ·) 0)) }

end Blend

namespace Picture

/-- This exchanges rows and columns. -/
def transpose (picture : Picture) : Picture where
  rows :=
    let lines := picture.rows.map List.toArray
    (List.range picture.width).map fun x => lines.map fun line => line.getD x Colour.black

/-- This mixes the pixels of each row anew. -/
def blendRows (blends : List Blend) (picture : Picture) : Picture where
  rows := picture.rows.map fun row =>
    let line := row.toArray
    blends.map fun blend => blend.mix line

/-- This mixes the pixels of each row and then those of each column anew. -/
def blend (across down : List Blend) (picture : Picture) : Picture :=
  ((picture.blendRows across).transpose.blendRows down).transpose

/-- This is a picture at half its size. -/
def halve (picture : Picture) : Picture :=
  picture.blend (Blend.halving picture.width) (Blend.halving picture.height)

/-- This enlarges a picture to a square, if its width and its height divide the size of that. -/
def toSquare (size : Nat) (picture : Picture) : Picture :=
  picture.blend (Blend.enlarging picture.width (size / picture.width))
    (Blend.enlarging picture.height (size / picture.height))

end Picture

end Chip8
