/-
This file encodes pictures as image files.
-/

import Chip8.ImageFormat

namespace Chip8.ImageFormat

/-- These are the bytes of a number, the least significant one first. -/
def littleEndian (count value : Nat) : List UInt8 :=
  (List.range count).map fun place => UInt8.ofNat (value >>> (8 * place))

def bigEndian (count value : Nat) : List UInt8 :=
  (littleEndian count value).reverse

/-- This is one step of the cyclic redundancy check of a byte. -/
def checkStep (check : UInt32) (byte : UInt8) : UInt32 :=
  (List.range 8).foldl
    (fun value _ => if value &&& 1 = 1 then (value >>> 1) ^^^ 0xEDB88320 else value >>> 1)
    (check ^^^ byte.toUInt32)

/-- This is the cyclic redundancy check of some bytes. -/
def cyclicCheck (bytes : List UInt8) : Nat :=
  ((bytes.foldl checkStep 0xFFFFFFFF) ^^^ 0xFFFFFFFF).toNat

/-- This is the pair of sums that ends a compressed stream. -/
def streamCheck (bytes : List UInt8) : Nat :=
  let (first, second) := bytes.foldl
    (fun (sums : Nat × Nat) byte =>
      let first := (sums.1 + byte.toNat) % 65521
      (first, (sums.2 + first) % 65521))
    (1, 0)
  second * 65536 + first

/-- This is a chunk of an image file: length, name, content and check. -/
def chunk (name : String) (content : List UInt8) : List UInt8 :=
  let named := name.toUTF8.toList ++ content
  bigEndian 4 content.length ++ named ++ bigEndian 4 (cyclicCheck named)

def colourBytes (colour : Colour) : List UInt8 :=
  [colour.red, colour.green, colour.blue]

/-- This stores a row of a picture in one block of a stream without compressing it. -/
def storedBlock (last : Bool) (content : List UInt8) : List UInt8 :=
  (if last then 1 else 0) :: littleEndian 2 content.length ++
    littleEndian 2 (65535 - content.length) ++ content

def encodePng (picture : Picture) : List UInt8 :=
  let rows := picture.rows.map fun row => 0 :: row.flatMap colourBytes
  let header := bigEndian 4 picture.width ++ bigEndian 4 picture.height ++ [8, 2, 0, 0, 0]
  let stream := [0x78, 0x01] ++ (rows.flatMap (storedBlock false)) ++ storedBlock true [] ++
    bigEndian 4 (streamCheck rows.flatten)
  [0x89, 0x50, 0x4E, 0x47, 0x0D, 0x0A, 0x1A, 0x0A] ++ chunk "IHDR" header ++
    chunk "IDAT" stream ++ chunk "IEND" []

/-- These are the bytes of rows from the bottom, each filled up to a multiple of four bytes. -/
def bitmapPixels (picture : Picture) : List UInt8 :=
  let rowBytes (row : List Colour) : List UInt8 :=
    row.flatMap fun colour => [colour.blue, colour.green, colour.red]
  picture.rows.reverse.flatMap fun row =>
    rowBytes row ++ List.replicate ((4 - row.length * 3 % 4) % 4) 0

def encodeDib (picture : Picture) : List UInt8 :=
  let pixels := bitmapPixels picture
  littleEndian 4 40 ++ littleEndian 4 picture.width ++ littleEndian 4 picture.height ++
    littleEndian 2 1 ++ littleEndian 2 24 ++ littleEndian 4 0 ++ littleEndian 4 pixels.length ++
    littleEndian 4 3780 ++ littleEndian 4 3780 ++ littleEndian 4 0 ++ littleEndian 4 0 ++ pixels

/-- This writes a bitmap file: a header in front of the bitmap itself. -/
def encodeBmp (picture : Picture) : List UInt8 :=
  let content := encodeDib picture
  [0x42, 0x4D] ++ littleEndian 4 (14 + content.length) ++ littleEndian 4 0 ++ littleEndian 4 54 ++
    content

def encodePpm (picture : Picture) : List UInt8 :=
  let header := "P6\n" ++ toString picture.width ++ " " ++ toString picture.height ++ "\n255\n"
  header.toUTF8.toList ++ picture.rows.flatMap fun row => row.flatMap colourBytes

/-- This writes rows from the top behind a header that says so. -/
def encodeTga (picture : Picture) : List UInt8 :=
  [0, 0, 2, 0, 0, 0, 0, 0, 0, 0, 0, 0] ++ littleEndian 2 picture.width ++
    littleEndian 2 picture.height ++ [24, 0x20] ++
    picture.rows.flatMap fun row =>
      row.flatMap fun colour => [colour.blue, colour.green, colour.red]

/-- This writes each colour out behind its mark, and an end mark. -/
def encodeQoi (picture : Picture) : List UInt8 :=
  "qoif".toUTF8.toList ++ bigEndian 4 picture.width ++ bigEndian 4 picture.height ++ [3, 0] ++
    (picture.rows.flatMap fun row => row.flatMap fun colour => 0xFE :: colourBytes colour) ++
    [0, 0, 0, 0, 0, 0, 0, 1]

/--
This is the content of an image file. A format without an encoder here gets the content of a PNG
file, which readers know by its first bytes.
-/
def encode (format : ImageFormat) (picture : Picture) : List UInt8 :=
  match format.name with
  | "BMP" => encodeBmp picture
  | "DIB" => encodeDib picture
  | "PPM" => encodePpm picture
  | "QOI" => encodeQoi picture
  | "TGA" => encodeTga picture
  | _ => encodePng picture

end Chip8.ImageFormat
