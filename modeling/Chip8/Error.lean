/-
This file lists the reasons for which an operation is refused, and their wording.
-/

import Chip8.ColourScheme
import Chip8.Fault
import Chip8.Level
import Chip8.Number.Decimal
import Chip8.Text.Quoted

namespace Chip8

/-- This is a reason for which time cannot be accounted for. -/
inductive TimingError where
  | negativeTime (elapsed : Binary64)
  /-- The accumulated time is infinite or undefined. -/
  | unboundedTime
  /-- The rate is too large to multiply a time by. -/
  | rateTooLarge
deriving DecidableEq

/-- This is a reason for which a file cannot be opened. -/
inductive AccessError where
  | missing
  | isDirectory
  | notDirectory
  | nameTooLong
  | denied
  | other (reason : String)
deriving DecidableEq, Repr

/-- This is a reason for which a program image is refused. -/
inductive RomError where
  | unreadable (name : String) (reason : AccessError)
  | tooLarge (name : String) (size : Nat)
deriving DecidableEq, Repr

/-- This is a reason for which a format of image files refuses a coloured picture. -/
inductive FormatRefusal where
  /-- The format holds no colours. -/
  | wrongMode
  /-- The format holds colours only by their numbers in a list. -/
  | unsupportedMode
  | noWriter
deriving DecidableEq, Repr

/-- This is a reason for which an operation is refused. -/
inductive Error where
  | fault (located : LocatedFault)
  | rom (error : RomError)
  | timing (error : TimingError)
  | notAWord (value : Int)
  | notAByte (value : Int)
  | notAKey (index : Int)
  | seedTooLarge
  | spriteTooTall (rows : Nat)
  | timerRate (rate : Int)
  | unknownLevel (name : String)
  | unlistedLevel
  | scaleTooSmall (scale : Int)
  | unknownScheme (name : String)
  | unknownExtension (extension : String)
  /-- Files of the format are only read. -/
  | readOnlyFormat (format : String)
  | formatRefused (format : String) (reason : FormatRefusal)
  /-- A path may not hold the character NUL. -/
  | nulInPath
  | snapshot (name : String) (reason : AccessError)
  /-- The rate of instructions was cleared. -/
  | rateCleared
  /-- The name of the log level was cleared. -/
  | levelCleared
  /-- The limit of ticks was cleared. -/
  | limitCleared
  /-- The limit of ticks is too large for a number. -/
  | limitTooLarge
deriving DecidableEq

/-- This is the complaint about an integer beyond all binary64 numbers. -/
def tooLargeNumberText : String := "int too large to convert to float"

namespace TimingError

def message : TimingError → String
  | .negativeTime elapsed => "Elapsed time cannot be negative, got " ++ elapsed.text
  | .unboundedTime => "cannot convert float NaN to integer"
  | .rateTooLarge => tooLargeNumberText

end TimingError

namespace AccessError

def message : AccessError → String
  | .missing => "No such file or directory"
  | .isDirectory => "Is a directory"
  | .notDirectory => "Not a directory"
  | .nameTooLong => "File name too long"
  | .denied => "Permission denied"
  | .other reason => reason

/-- This is the number of an access error on Unix systems. -/
def code : AccessError → Nat
  | .missing => 2
  | .isDirectory => 21
  | .notDirectory => 20
  | .nameTooLong => 36
  | .denied => 13
  | .other _ => 5

end AccessError

namespace RomError

/-- This is the name of a refused image in log lines. -/
def name : RomError → String := fun _ => "RomError"

def message : RomError → String
  | .unreadable name reason => "Could not read ROM " ++ Text.quote name ++ ": " ++ reason.message
  | .tooLarge name size =>
    "ROM " ++ Text.quote name ++ " is " ++ toString size ++ " bytes, at most " ++
      toString Layout.maxProgramSize ++ " fit in memory"

end RomError

def FormatRefusal.message (format : String) : FormatRefusal → String
  | .wrongMode => "cannot write mode RGB as " ++ format
  | .unsupportedMode => "Unsupported " ++ format ++ " image mode"
  | .noWriter => format ++ " save handler not installed"

/-- This writes a list of names as messages do. -/
def quotedNames (names : List String) : String :=
  "[" ++ ", ".intercalate (names.map Text.quote) ++ "]"

/-- This says that an integer fits in a signed word of 64 bits. -/
def fitsWord (value : Int) : Bool :=
  -9223372036854775808 ≤ value && value ≤ 9223372036854775807

namespace Error

/-- This is the complaint about an integer of more than 64 bits. -/
def tooLargeText : String := "Python int too large to convert to C long"

def message : Error → String
  | .fault located => located.fault.message
  | .rom error => error.message
  | .timing error => error.message
  | .notAWord value => "Instruction word must fit in 16 bits, got " ++ Text.markedHex 0 value
  | .notAByte value =>
    if fitsWord value then "Python integer " ++ toString value ++ " out of bounds for uint8"
    else tooLargeText
  | .notAKey index =>
    "Key index must be in 0.." ++ toString (Layout.keyCount - 1) ++ ", got " ++ toString index
  | .seedTooLarge => tooLargeText
  | .spriteTooTall rows => "Sprite has " ++ toString rows ++ " rows, at most " ++
    toString Layout.screenHeight ++ " allowed"
  | .timerRate rate => "Timer rate must be positive, got " ++ toString rate
  | .unknownLevel name =>
    "Unknown log level '" ++ name ++ "'. Available: " ++ quotedNames (Level.all.map Level.name)
  | .unlistedLevel => "tuple.index(x): x not in tuple"
  | .scaleTooSmall scale => "Scale must be at least 1, got " ++ toString scale
  | .unknownScheme name =>
    "Unknown color scheme '" ++ name ++ "'. Available: " ++
      quotedNames (ColourScheme.all.map ColourScheme.name)
  | .unknownExtension extension => "unknown file extension: " ++ extension
  | .readOnlyFormat format => Text.quote format
  | .formatRefused format reason => reason.message format
  | .nulInPath => "embedded null byte"
  | .snapshot name reason =>
    "[Errno " ++ toString reason.code ++ "] " ++ reason.message ++ ": " ++ Text.quote name
  | .rateCleared => "'<=' not supported between instances of 'list' and 'int'"
  | .levelCleared => "'list' object has no attribute 'upper'"
  | .limitCleared => "'<' not supported between instances of 'int' and 'list'"
  | .limitTooLarge => tooLargeNumberText

end Error

/-- This is the byte of an integer. -/
def byteOf (value : Int) : Except Error UInt8 :=
  if 0 ≤ value ∧ value ≤ Layout.byteMask then .ok (UInt8.ofInt value) else .error (.notAByte value)

/-- These are the bytes of integers; the first integer that is no byte is reported. -/
def bytesOf (values : List Int) : Except Error (List UInt8) :=
  values.mapM byteOf

/-- The byte of an integer is its rest modulo 256. -/
theorem toNat_byte_ofInt (value : Int) : (UInt8.ofInt value).toNat = (value % 256).toNat := by
  have bound : (value % 256).toNat < 256 := by omega
  exact (UInt8.toNat_ofNat' (n := (value % 256).toNat)).trans (Nat.mod_eq_of_lt bound)

theorem byte_ofInt_toNat (byte : UInt8) : UInt8.ofInt byte.toNat = byte := by
  have bound := byte.toNat_lt
  apply UInt8.toNat_inj.mp
  rw [toNat_byte_ofInt]
  omega

/-- A byte is the byte of its integer. -/
theorem byteOf_toNat (byte : UInt8) : byteOf byte.toNat = .ok byte := by
  have bound : byte.toNat ≤ Layout.byteMask := Nat.le_of_lt_succ byte.toNat_lt
  rw [byteOf, if_pos (by omega), byte_ofInt_toNat]

/-- Bytes are the bytes of their integers. -/
theorem bytesOf_map_toNat (bytes : List UInt8) :
    bytesOf (bytes.map fun byte => (byte.toNat : Int)) = .ok bytes := by
  induction bytes with
  | nil => rfl
  | cons byte rest ih =>
      rw [bytesOf] at ih ⊢
      rw [List.map_cons, List.mapM_cons, byteOf_toNat, ih]
      rfl

end Chip8
