/-
This file lists the formats of image files and what each of them does with a picture.
-/

import Chip8.Files
import Chip8.Picture.Resampling
import Chip8.Text.LetterCase

namespace Chip8

/-- This is how a file stores the colour of a pixel. -/
inductive PixelMode where
  | colours
  /-- A pixel is the number of a colour in a list. -/
  | palette
deriving DecidableEq, Repr

def PixelMode.name : PixelMode → String
  | .colours => "RGB"
  | .palette => "P"

/-- This is what a format does with a picture. -/
inductive Writing where
  /-- The picture is stored as it is. -/
  | plain (mode : PixelMode)
  /-- The picture is stored at half its size. -/
  | icon
  /-- The picture is stored as a square of 1024 pixels. -/
  | square
  /-- Files of the format are only read. -/
  | absent
  /-- The format refuses coloured pictures. -/
  | refused (reason : FormatRefusal)
deriving DecidableEq, Repr

/-- This is a format of image files. -/
structure ImageFormat where
  name : String
  extensions : List String
  writing : Writing
deriving DecidableEq, Repr

namespace ImageFormat

/-- These formats store coloured pictures. -/
def written : List ImageFormat :=
  [⟨"AVIF", [".avif", ".avifs"], .plain .colours⟩, ⟨"BMP", [".bmp"], .plain .colours⟩,
    ⟨"DDS", [".dds"], .plain .colours⟩, ⟨"DIB", [".dib"], .plain .colours⟩,
    ⟨"EPS", [".eps", ".ps"], .plain .colours⟩, ⟨"GIF", [".gif"], .plain .palette⟩,
    ⟨"ICNS", [".icns"], .square⟩, ⟨"ICO", [".ico"], .icon⟩, ⟨"IM", [".im"], .plain .colours⟩,
    ⟨"JPEG", [".jfif", ".jpe", ".jpeg", ".jpg"], .plain .colours⟩,
    ⟨"JPEG2000", [".j2c", ".j2k", ".jp2", ".jpc", ".jpf", ".jpx"], .plain .colours⟩,
    ⟨"MPO", [".mpo"], .plain .colours⟩, ⟨"PCX", [".pcx"], .plain .colours⟩,
    ⟨"PDF", [".pdf"], .plain .colours⟩, ⟨"PNG", [".apng", ".png"], .plain .colours⟩,
    ⟨"PPM", [".pbm", ".pfm", ".pgm", ".pnm", ".ppm"], .plain .colours⟩,
    ⟨"QOI", [".qoi"], .plain .colours⟩, ⟨"SGI", [".bw", ".rgb", ".rgba", ".sgi"], .plain .colours⟩,
    ⟨"TGA", [".icb", ".tga", ".vda", ".vst"], .plain .colours⟩,
    ⟨"TIFF", [".tif", ".tiff"], .plain .colours⟩, ⟨"WEBP", [".webp"], .plain .colours⟩]

/-- These formats are known, but store no coloured picture. -/
def unwritten : List ImageFormat :=
  [⟨"BLP", [".blp"], .refused .unsupportedMode⟩, ⟨"BUFR", [".bufr"], .refused .noWriter⟩,
    ⟨"CUR", [".cur"], .absent⟩, ⟨"DCX", [".dcx"], .absent⟩, ⟨"FITS", [".fit", ".fits"], .absent⟩,
    ⟨"FLI", [".flc", ".fli"], .absent⟩, ⟨"FTEX", [".ftc", ".ftu"], .absent⟩,
    ⟨"GBR", [".gbr"], .absent⟩, ⟨"GRIB", [".grib"], .refused .noWriter⟩,
    ⟨"HDF5", [".h5", ".hdf"], .refused .noWriter⟩, ⟨"IPTC", [".iim"], .absent⟩,
    ⟨"MPEG", [".mpeg", ".mpg"], .absent⟩, ⟨"MSP", [".msp"], .refused .wrongMode⟩,
    ⟨"Palm", [".palm"], .refused .wrongMode⟩, ⟨"PCD", [".pcd"], .absent⟩,
    ⟨"PIXAR", [".pxr"], .absent⟩, ⟨"PSD", [".psd"], .absent⟩, ⟨"SUN", [".ras"], .absent⟩,
    ⟨"WMF", [".emf", ".wmf"], .refused .noWriter⟩, ⟨"XBM", [".xbm"], .refused .wrongMode⟩,
    ⟨"XPM", [".xpm"], .absent⟩]

/-- These are all formats that are known. -/
def all : List ImageFormat :=
  written ++ unwritten

/-- This is the last extension of a path in small letters; leading points begin none. -/
def extension (path : String) : String :=
  let name := (FileTree.baseName path).toList.dropWhile (· = '.')
  if name.contains '.' then
    Text.smallLetters (String.ofList ('.' :: (name.reverse.takeWhile (· ≠ '.')).reverse))
  else ""

/-- This is the format of an extension. -/
def ofExtension? (extension : String) : Option ImageFormat :=
  all.find? fun format => format.extensions.contains extension

/-- This is the picture that a file of a format holds for a given one. -/
def stored (format : ImageFormat) (picture : Picture) : Picture :=
  match format.writing with
  | .icon => picture.halve
  | .square => picture.toSquare 1024
  | _ => picture

/-- This is how a file of a format stores the colour of a pixel. -/
def mode (format : ImageFormat) : PixelMode :=
  match format.writing with
  | .plain mode => mode
  | _ => .colours

end ImageFormat

end Chip8
