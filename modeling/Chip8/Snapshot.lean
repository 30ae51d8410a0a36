/-
This file prepares pictures of the display that are to be stored.
-/

import Chip8.ImageFormat

namespace Chip8

/-- This is a picture that is to be stored under a name. -/
structure Snapshot where
  name : String
  format : ImageFormat
  picture : Picture
deriving DecidableEq

namespace Snapshot

/-- This is the format of a name, if files of it are written at all. -/
def formatOf (name : String) : Except Error ImageFormat :=
  let extension := ImageFormat.extension name
  match ImageFormat.ofExtension? extension with
  | none => .error (.unknownExtension extension)
  | some format =>
    if format.writing = .absent then .error (.readOnlyFormat format.name) else .ok format

/-- This checks that a file of a name can be created. -/
def checkPlace (storage : Storage) (name : String) : Except Error Unit :=
  if name.toList.contains '\x00' then .error .nulInPath
  else
    match storage.obstacle name with
    | some reason => .error (.snapshot name reason)
    | none => .ok ()

/-- This is what a file of a format holds for a picture. -/
def contentOf (format : ImageFormat) (picture : Picture) : Except Error Picture :=
  match format.writing with
  | .refused reason => .error (.formatRefused format.name reason)
  | _ => .ok (format.stored picture)

/--
This prepares a snapshot of a display: the format is found first, then the place of the file is
checked, and only then the format may refuse the picture.
-/
def take (storage : Storage) (name : String) (display : Display) : Except Error Snapshot := do
  let picture ← display.renderScheme Bitmap.defaultScale ColourScheme.classic.name
  let format ← formatOf name
  checkPlace storage name
  return { name, format, picture := ← contentOf format picture }

end Snapshot

end Chip8
