/-
This file quotes text in messages.
-/

import Chip8.Text.Digits
import Chip8.Text.Printable

namespace Chip8.Text

/-- This says how quoted text is marked. -/
structure QuoteStyle where
  usual : Char
  /-- This mark is used for a text that holds the usual mark but not this one. -/
  other : Char
  escape : Char
  /-- These characters are escaped by a letter. -/
  letters : List (Char × Char)

/-- Names in messages stand between single quotes, or double ones if that saves an escape. -/
def messageQuotes : QuoteStyle where
  usual := '\x27'
  other := '\x22'
  escape := '\x5c'
  letters := [('\t', 't'), ('\n', 'n'), ('\r', 'r')]

/-- This writes an unprintable character by its code. -/
def codeEscape (character : Char) : List Char :=
  let code := character.toNat
  let (mark, width) :=
    if code < 0x100 then ('x', 2) else if code < 0x10000 then ('u', 4) else ('U', 8)
  mark :: (padLeft width '0' (smallHex code)).toList

/-- This writes a character between given quotes. -/
def quoteCharacter (style : QuoteStyle) (mark character : Char) : List Char :=
  if character = mark || character = style.escape then [style.escape, character]
  else
    match style.letters.lookup character with
    | some letter => [style.escape, letter]
    | none =>
      if isPrintable character then [character] else style.escape :: codeEscape character

def quoteWith (style : QuoteStyle) (text : String) : String :=
  let characters := text.toList
  let mark :=
    if characters.contains style.usual && !characters.contains style.other then style.other
    else style.usual
  String.ofList (mark :: characters.flatMap (quoteCharacter style mark) ++ [mark])

/-- This quotes a text as messages do. -/
def quote (text : String) : String :=
  quoteWith messageQuotes text

end Chip8.Text
