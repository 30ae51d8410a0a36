/-
This file reads configurations from loosely typed settings and reports every setting that is wrong.
-/

import Chip8.Config
import Chip8.Number.Numeral

namespace Chip8

/-- This is a setting as it is given. -/
inductive Setting where
  | missing
  | flag (value : Bool)
  | integer (value : Int)
  | real (value : Binary64)
  | text (value : String)
  | composite
deriving DecidableEq

/-- This is a reason for which a setting is refused. -/
inductive SettingProblem where
  | notInteger
  | unreadableInteger
  | fractional
  | oversized
  | notFinite
  | above (bound : Int)
  | below (bound : Int)
  | notAbove (bound : Int)
  | notFlag
  | unreadableFlag
  | notPolicy
  | notLevel
  | frozen
deriving DecidableEq, Repr

namespace SettingProblem

/-- This is the code of a problem in reports. -/
def code : SettingProblem → String
  | .notInteger => "int_type"
  | .unreadableInteger => "int_parsing"
  | .fractional => "int_from_float"
  | .oversized => "int_parsing_size"
  | .notFinite => "finite_number"
  | .above _ => "less_than_equal"
  | .below _ => "greater_than_equal"
  | .notAbove _ => "greater_than"
  | .notFlag => "bool_type"
  | .unreadableFlag => "bool_parsing"
  | .notPolicy => "enum"
  | .notLevel => "literal_error"
  | .frozen => "frozen_instance"

/-- This writes names as a choice between them. -/
def choice (names : List String) : String :=
  let quoted := names.map fun name => "'" ++ name ++ "'"
  ", ".intercalate quoted.dropLast ++ " or " ++ quoted.getLastD ""

def message : SettingProblem → String
  | .notInteger => "Input should be a valid integer"
  | .unreadableInteger =>
    "Input should be a valid integer, unable to parse string as an integer"
  | .fractional => "Input should be a valid integer, got a number with a fractional part"
  | .oversized => "Unable to parse input string as an integer, exceeded maximum size"
  | .notFinite => "Input should be a finite number"
  | .above bound => "Input should be less than or equal to " ++ toString bound
  | .below bound => "Input should be greater than or equal to " ++ toString bound
  | .notAbove bound => "Input should be greater than " ++ toString bound
  | .notFlag => "Input should be a valid boolean"
  | .unreadableFlag => "Input should be a valid boolean, unable to interpret input"
  | .notPolicy => "Input should be " ++ choice (ErrorPolicy.all.map ErrorPolicy.name)
  | .notLevel => "Input should be " ++ choice (Level.all.map Level.name)
  | .frozen => "Instance is frozen"

end SettingProblem

namespace Setting

/--
This reads an integer in its plain form: perhaps a minus, then digits of which the first one is
zero only if it is the only one.
-/
def plainInteger? (characters : List Char) : Option Int :=
  let (negative, digits) :=
    match characters with
    | '-' :: digits => (true, digits)
    | digits => (false, digits)
  if digits = ['0'] then some 0
  else if digits.isEmpty || digits.head? = some '0' || !digits.all Char.isDigit then none
  else if Numeral.digitLimit < digits.length then none
  else some (Numeral.signed negative (Numeral.ofDigits (digits.filterMap Text.digit?)))

/-- This says that a text starts like a plain integer of too many digits, whatever follows. -/
def startsOversized (characters : List Char) : Bool :=
  let digits := if characters.head? = some '-' then characters.drop 1 else characters
  digits.head? ≠ some '0' && Numeral.digitLimit < (digits.takeWhile Char.isDigit).length

/--
This drops zeros and underscores that follow a first zero. It stops in front of another digit or a
minus; in front of a point or the end it keeps one character.
-/
def dropZeros? (previous : Char) : List Char → Option (List Char)
  | [] => some [previous]
  | next :: rest =>
    if next = '0' || next = '_' then dropZeros? next rest
    else if next.isDigit || next = '-' then some (next :: rest)
    else if next = '.' then some (previous :: next :: rest)
    else none

/-- This drops the zeros in front of an integer, which has to start with a digit or a minus. -/
def dropLeadingZeros? : List Char → Option (List Char)
  | [] => none
  | first :: rest =>
    if first = '0' then dropZeros? first rest
    else if first.isDigit || first = '-' then some (first :: rest)
    else none

/-- This drops a point with one zero or more behind it from the end of an integer. -/
def dropZeroFraction (characters : List Char) : List Char :=
  let zeros := (characters.dropWhile (· ≠ '.')).drop 1
  if !zeros.isEmpty && zeros.all (· = '0') then characters.takeWhile (· ≠ '.') else characters

/-- This says that two underscores stand side by side. -/
def hasDoubleUnderscore : List Char → Bool
  | '_' :: '_' :: _ => true
  | _ :: rest => hasDoubleUnderscore rest
  | [] => false

/-- This drops underscores unless there is one at an end or beside another one. -/
def dropUnderscores (characters : List Char) : List Char :=
  if characters.head? = some '_' || characters.getLast? = some '_' ||
      hasDoubleUnderscore characters then characters
  else characters.filter (· ≠ '_')

/--
This brings an integer into its plain form: blanks around it, a plus, leading zeros, a fraction of
zeros and underscores are dropped.
-/
def cleanInteger? (characters : List Char) : Option (List Char) :=
  let clean (digits : List Char) : Option (List Char) :=
    (dropLeadingZeros? digits).map fun rest => dropUnderscores (dropZeroFraction rest)
  match Text.trim characters with
  | '-' :: rest => (clean rest).map ('-' :: ·)
  | '+' :: '-' :: _ => none
  | '+' :: rest => clean rest
  | rest => clean rest

/-- This reads an integer, which is brought into its plain form if it is not in it. -/
def integerOfText (text : String) : Except SettingProblem Int :=
  if startsOversized text.toList then .error .oversized
  else
    match plainInteger? text.toList with
    | some value => .ok value
    | none =>
      match (cleanInteger? text.toList).bind plainInteger? with
      | some value => .ok value
      | none => .error .unreadableInteger

/-- Integers below this bound and not below its negative fit in a word of 64 bits. -/
def wordBound : Int := 9223372036854775808

/-- This reads an integer off a number that is one. -/
def integerOfReal (number : Binary64) : Except SettingProblem Int :=
  if !number.isFinite then .error .notFinite
  else if number.real.den ≠ 1 then .error .fractional
  else if wordBound ≤ number.real.num.natAbs then .error .oversized
  else .ok number.real.num

def readInteger : Setting → Except SettingProblem Int
  | .flag value => .ok (if value then 1 else 0)
  | .integer value => .ok value
  | .real number => integerOfReal number
  | .text written => integerOfText written
  | .missing => .error .notInteger
  | .composite => .error .notInteger

/-- This reads an integer from zero to 255. -/
def readByte (setting : Setting) : Except SettingProblem UInt8 := do
  let value ← setting.readInteger
  if 255 < value then throw (.above 255)
  if value < 0 then throw (.below 0)
  return UInt8.ofInt value

/-- This reads an integer above zero. -/
def readPositive (setting : Setting) : Except SettingProblem { value : Int // 0 < value } := do
  let value ← setting.readInteger
  if positive : 0 < value then return ⟨value, positive⟩ else throw (.notAbove 0)

/-- These words stand for false, in any case. -/
def falseWords : List String := ["0", "off", "f", "false", "n", "no"]

/-- These words stand for true, in any case. -/
def trueWords : List String := ["1", "on", "t", "true", "y", "yes"]

/-- This reads a truth value off zero or one; an integer of more than 64 bits is no candidate. -/
def flagOfInteger (value : Int) : Except SettingProblem Bool :=
  if value = 0 then .ok false
  else if value = 1 then .ok true
  else if -wordBound ≤ value ∧ value < wordBound then .error .unreadableFlag
  else .error .notFlag

def readFlag : Setting → Except SettingProblem Bool
  | .flag value => .ok value
  | .integer value => flagOfInteger value
  | .real number =>
    match integerOfReal number with
    | .ok value => flagOfInteger value
    | .error _ => .error .notFlag
  | .text written =>
    let word := String.ofList (written.toList.map Char.toLower)
    if falseWords.contains word then .ok false
    else if trueWords.contains word then .ok true
    else .error .unreadableFlag
  | .missing => .error .notFlag
  | .composite => .error .notFlag

def readPolicy : Setting → Except SettingProblem ErrorPolicy
  | .text name =>
    match ErrorPolicy.ofName? name with
    | some policy => .ok policy
    | none => .error .notPolicy
  | _ => .error .notPolicy

def readLevel : Setting → Except SettingProblem Level
  | .text name =>
    match Level.ofName? name with
    | some level => .ok level
    | none => .error .notLevel
  | _ => .error .notLevel

end Setting

/-- These are settings by name; a name that no field has is ignored. -/
structure Settings where
  entries : List (String × Setting)

namespace Settings

/-- This is the value of a field, with the problem of its setting under the name of the field. -/
def field {α : Type} (settings : Settings) (name : String) (default : α)
    (read : Setting → Except SettingProblem α) : Except (String × SettingProblem) α :=
  match settings.entries.lookup name with
  | none => .ok default
  | some setting =>
    match read setting with
    | .ok value => .ok value
    | .error problem => .error (name, problem)

/-- This is the problem of a field, if it has one. -/
def problem {α : Type} : Except (String × SettingProblem) α → List (String × SettingProblem)
  | .ok _ => []
  | .error problem => [problem]

/-- This reads a configuration or reports the problems of all fields in the order of the fields. -/
def read (settings : Settings) : Except (List (String × SettingProblem)) Config :=
  let delay := settings.field "delay_timer" 0 Setting.readByte
  let sound := settings.field "sound_timer" 0 Setting.readByte
  let policy := settings.field "error_policy" .halt Setting.readPolicy
  let modern := settings.field "modern_mode" true Setting.readFlag
  let seed := settings.field "seed" 0 Setting.readInteger
  let rate := settings.field "timer_rate_hz" ⟨Layout.timerRate, by decide⟩ Setting.readPositive
  let level := settings.field "log_level" .info Setting.readLevel
  let trace := settings.field "trace" false Setting.readFlag
  match delay, sound, policy, modern, seed, rate, level, trace with
  | .ok delay, .ok sound, .ok policy, .ok modern, .ok seed, .ok rate, .ok level, .ok trace =>
    .ok
      { delayTimer := delay
        soundTimer := sound
        errorPolicy := policy
        modern := modern
        seed := seed
        timerRate := rate.val
        logLevel := level
        trace := trace
        ratePositive := rate.property }
  | _, _, _, _, _, _, _, _ =>
    .error
      (problem delay ++ problem sound ++ problem policy ++ problem modern ++ problem seed ++
        problem rate ++ problem level ++ problem trace)

end Settings

/-- This refuses to change a field of a configuration; names with a leading underscore are free. -/
def Config.assign (_ : Config) (name : String) : List (String × SettingProblem) :=
  if name.toList.head? = some '_' then [] else [(name, .frozen)]

end Chip8
