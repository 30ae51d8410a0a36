/-
This file is the program: it gives the command line the file that it names and prints what comes
of it.
-/

import Chip8.CommandLine
import Chip8.ImageFormat.Encoding

namespace Chip8.CommandLine

/-- This is the number of a system error, which some calls report as a negative one. -/
def systemCode (code : UInt32) : Nat :=
  if 0x80000000 ≤ code then (0 - code).toNat else code.toNat

/-- This is the reason for which the operating system refused a file. -/
def accessError : IO.Error → AccessError
  | .noFileOrDirectory _ _ _ => .missing
  | .permissionDenied _ _ _ => .denied
  | .inappropriateType _ code details =>
    if systemCode code = 21 then .isDirectory
    else if systemCode code = 20 then .notDirectory
    else .other details
  | .invalidArgument _ code details =>
    if systemCode code = 36 then .nameTooLong else .other details
  | error => .other (toString error)

def readFile (name : String) : IO (Except AccessError (List UInt8)) := do
  try
    let content ← IO.FS.readBinFile name
    return .ok content.toList
  catch error =>
    return .error (accessError error)

/-- This is the file that a command needs. -/
def romOf (arguments : List String) : Option String :=
  match Command.ofArguments arguments with
  | .ok (.run rom _) => some rom
  | _ => none

def usage : String :=
  "usage: " ++ programName ++ " [options] rom\n" ++
    "\n".intercalate (Switch.all.map fun switch =>
      "  " ++ ", ".intercalate switch.spellings ++ (if switch.takesValue then " VALUE" else ""))

/-- This prints a finished run and stores its snapshot. -/
def Run.deliver (run : Run) : IO UInt32 := do
  for part in run.printed do
    IO.println part.text
  match run.snapshot with
  | some snapshot =>
    let content := snapshot.format.encode snapshot.picture
    IO.FS.writeBinFile snapshot.name ⟨content.toArray⟩
  | none => pure ()
  match run.ending with
  | .helped => IO.println usage
  | .failed error => IO.eprintln error.message
  | _ => pure ()
  match run.complaint with
  | some complaint => IO.eprintln complaint
  | none => pure ()
  return UInt32.ofNat run.exitStatus

end Chip8.CommandLine

open Chip8 Chip8.CommandLine in
def main (arguments : List String) : IO UInt32 := do
  let content ←
    match romOf arguments with
    | some rom => readFile rom
    | none => pure (.error .missing)
  let storage : Storage := { read := fun _ => content, obstacle := fun _ => none }
  (run arguments storage (.finite 0)).deliver
