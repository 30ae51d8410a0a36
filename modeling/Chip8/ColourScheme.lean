/-
This file defines colours and the named pairs of them.
-/

namespace Chip8

/-- This is a colour by its red, green and blue parts. -/
structure Colour where
  red : UInt8
  green : UInt8
  blue : UInt8
deriving DecidableEq, Repr

namespace Colour

def black : Colour := { red := 0, green := 0, blue := 0 }

def lime : Colour := { red := 0, green := 255, blue := 0 }

end Colour

/-- These are the colours of lit and unlit pixels. -/
structure ColourPair where
  lit : Colour
  unlit : Colour
deriving DecidableEq, Repr

/-- This is a named pair of colours. -/
inductive ColourScheme where
  | classic
  | amber
  | white
  | blue
deriving DecidableEq, Repr

namespace ColourScheme

def all : List ColourScheme :=
  [.classic, .amber, .white, .blue]

def name : ColourScheme → String
  | .classic => "classic"
  | .amber => "amber"
  | .white => "white"
  | .blue => "blue"

def ofName? (name : String) : Option ColourScheme :=
  all.find? fun scheme => scheme.name = name

def colours : ColourScheme → ColourPair
  | .classic => { lit := Colour.lime, unlit := Colour.black }
  | .amber => { lit := { red := 255, green := 176, blue := 0 }, unlit := Colour.black }
  | .white => { lit := { red := 255, green := 255, blue := 255 }, unlit := Colour.black }
  | .blue =>
    { lit := { red := 0, green := 255, blue := 255 }
      unlit := { red := 0, green := 0, blue := 64 } }

end ColourScheme

end Chip8
