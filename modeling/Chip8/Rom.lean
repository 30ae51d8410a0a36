/-
This file reads program images.
-/

import Chip8.Files
import Chip8.Machine.Memory

namespace Chip8.Rom

/-- This reads the image of a name, which has to fit in memory behind the program start. -/
def read (storage : Storage) (name : String) : Except Error (List UInt8) :=
  if name.toList.contains '\x00' then .error .nulInPath
  else
    match storage.read name with
    | .error reason => .error (.rom (.unreadable name reason))
    | .ok content =>
      if Layout.maxProgramSize < content.length then
        .error (.rom (.tooLarge (FileTree.baseName name) content.length))
      else .ok content

/-- This loads the image of a name into a machine. -/
def load (storage : Storage) (name : String) (machine : Machine) : Except Error Machine := do
  let program ← read storage name
  match machine.loadProgram program with
  | .ok loaded => return loaded
  | .error fault => throw (.fault { fault, address := none })

end Chip8.Rom
