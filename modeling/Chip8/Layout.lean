/-
This file fixes the sizes and addresses of the machine.
-/

namespace Chip8.Layout

abbrev memorySize : Nat := 4096

/-- Programs start behind the area that holds the glyphs. -/
abbrev programStart : Nat := 0x200

abbrev maxProgramSize : Nat := memorySize - programStart

abbrev registerCount : Nat := 16

/-- This register receives carries, shifted bits and collisions. -/
abbrev flagRegister : Nat := 0xF

abbrev stackSize : Nat := 16

abbrev keyCount : Nat := 16

abbrev screenWidth : Nat := 64

abbrev screenHeight : Nat := 32

abbrev spriteWidth : Nat := 8

abbrev addressMask : Nat := 0xFFF

abbrev wordMask : Nat := 0xFFFF

abbrev byteMask : Nat := 0xFF

/-- Both timers count down this many times in a second unless configured otherwise. -/
abbrev timerRate : Nat := 60

abbrev fontStart : Nat := 0

/-- Every glyph of the font has this many rows. -/
abbrev glyphSize : Nat := 5

end Chip8.Layout
