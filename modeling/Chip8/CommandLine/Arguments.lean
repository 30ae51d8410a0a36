/-
This file reads the arguments of the command line.
-/

import Chip8.CommandLine.Options

namespace Chip8.CommandLine

/-- This is the value that an option carries in its own argument. -/
structure Attached where
  /-- The option is written as a single letter. -/
  toShort : Bool
  value : List Char
deriving DecidableEq, Repr

/-- This is an argument by its role. -/
inductive Token where
  | operand (text : String)
  | endMark
  | named (switch : Switch) (attached : Option Attached)
  | unknown (text : String)
deriving DecidableEq, Repr

namespace Token

/-- This splits an argument at its first equals sign. -/
def splitEquals (characters : List Char) : List Char × Option Attached :=
  match characters.dropWhile (· ≠ '=') with
  | [] => (characters, none)
  | _ :: value =>
    let toShort := !(['-', '-'].isPrefixOf characters)
    (characters.takeWhile (· ≠ '='), some { toShort, value })

/-- This says that an argument reads as a negative number, perhaps with a line break behind it. -/
def isNegativeNumber (characters : List Char) : Bool :=
  let isDigit (character : Char) : Bool := (Text.digit? character).isSome
  let body := (characters.drop 1)
  let body := if body.getLast? = some '\n' then body.dropLast else body
  let whole := body.takeWhile isDigit
  match body.dropWhile isDigit with
  | [] => !whole.isEmpty
  | '.' :: fraction => !fraction.isEmpty && fraction.all isDigit
  | _ => false

/-- These are the options that an argument may abbreviate, with the value that it attaches. -/
def candidates (characters : List Char) : List (String × Switch × Option Attached) :=
  match characters with
  | '-' :: '-' :: _ =>
    let (start, attached) := splitEquals characters
    (Switch.table.filter fun entry => start.isPrefixOf entry.1.toList).map
      fun (spelling, switch) => (spelling, switch, attached)
  | _ =>
    Switch.table.filterMap fun (spelling, switch) =>
      if spelling.toList = characters.take 2 then
        some (spelling, switch, some { toShort := true, value := characters.drop 2 })
      else if characters.isPrefixOf spelling.toList then some (spelling, switch, none)
      else none

/--
This finds the role of an argument. An option may be written out, with a value behind an equals
sign, or by a start of it that no other option has. Of the rest, negative numbers and texts with
a blank are operands.
-/
def ofArgument (argument : String) : Except UsageError Token :=
  let characters := argument.toList
  if !(characters.head? = some '-') then .ok (.operand argument)
  else
    match Switch.table.lookup argument with
    | some switch => .ok (.named switch none)
    | none =>
      if characters.length = 1 then .ok (.operand argument)
      else
        let (start, attached) := splitEquals characters
        match attached, Switch.table.lookup (String.ofList start) with
        | some attached, some switch => .ok (.named switch (some attached))
        | _, _ =>
          match candidates characters with
          | [(_, switch, attached)] => .ok (.named switch attached)
          | [] =>
            if isNegativeNumber characters || characters.contains ' ' then .ok (.operand argument)
            else .ok (.unknown argument)
          | several => .error (.ambiguous argument (several.map Prod.fst))

/-- This finds the roles of all arguments; behind the first end mark all are operands. -/
def ofArguments : List String → Except UsageError (List Token)
  | [] => .ok []
  | argument :: rest =>
    if argument = endMarkText then .ok (.endMark :: rest.map .operand)
    else do
      let token ← ofArgument argument
      return token :: (← ofArguments rest)

end Token

/-- This is what the command line asks for. -/
inductive Command where
  | help
  | run (rom : String) (options : Options)
deriving DecidableEq

/-- This is what was read so far. -/
structure Reading where
  options : Options := {}
  rom : Option String := none
  leftOver : List String := []
  /-- The argument before was the name of the program; an end mark right behind it is dropped. -/
  afterRom : Bool := false

namespace Reading

/-- This refuses what is attached to the short option for help, unless it is that option again. -/
def checkHelp : List Char → Except UsageError Unit
  | [] => .error (.valueUnwanted .help "")
  | first :: rest =>
    if first ≠ 'h' then .error (.valueUnwanted .help (String.ofList (first :: rest)))
    else if rest.isEmpty then .ok ()
    else checkHelp rest

/-- This is the command that is left when all arguments are read. -/
def finish (reading : Reading) : Except UsageError Command :=
  match reading.rom with
  | none => .error .romMissing
  | some rom =>
    if reading.leftOver.isEmpty then .ok (.run rom reading.options)
    else .error (.unrecognized reading.leftOver)

/-- This reads arguments from the left; the first operand names the program. -/
def consume (reading : Reading) : List Token → Except UsageError Command
  | [] => reading.finish
  | .operand text :: rest =>
    match reading.rom with
    | none => consume { reading with rom := some text, afterRom := true } rest
    | some _ =>
      consume { reading with leftOver := reading.leftOver ++ [text], afterRom := false } rest
  | .endMark :: rest =>
    if reading.rom.isNone || reading.afterRom then consume { reading with afterRom := false } rest
    else consume { reading with leftOver := reading.leftOver ++ [endMarkText] } rest
  | .unknown text :: rest =>
    consume { reading with leftOver := reading.leftOver ++ [text], afterRom := false } rest
  | .named switch attached :: rest =>
    if switch.takesValue then
      match attached, rest with
      | some attached, rest => do
        let options ← reading.options.attach switch (String.ofList attached.value)
        consume { reading with options, afterRom := false } rest
      | none, .operand value :: rest => do
        let options ← reading.options.assign switch value
        consume { reading with options, afterRom := false } rest
      | none, _ => .error (.valueMissing switch)
    else
      match attached with
      | some attached =>
        if attached.toShort then do
          checkHelp attached.value
          return .help
        else .error (.valueUnwanted switch (String.ofList attached.value))
      | none =>
        if switch = .help then .ok .help
        else
          consume { reading with options := reading.options.enable switch, afterRom := false } rest

end Reading

/-- This reads a command off the arguments. -/
def Command.ofArguments (arguments : List String) : Except UsageError Command := do
  let tokens ← Token.ofArguments arguments
  Reading.consume {} tokens

end Chip8.CommandLine
