import Chip8.Ram.Basic

/-!
# What lies where in memory

    0x0000-0x004f  glyphs of the sixteen hexadecimal digits, five bytes each
    0x0050-0x015f  unused
    0x0160-0x017f  call stack, sixteen words
    0x0180-0x01ff  unused
    0x0200-...     program, up to the end of memory

Programs start at `Layout.programStart`. A memory of its own (`Ram.ofCapacity`) has room past that
address and no byte that a 16-bit address cannot reach.
-/

namespace Chip8

namespace Layout

/-- The size of memory when none is asked for. -/
def defaultCapacity : Nat := 4096

/-- One past the largest 16-bit address. -/
def maxCapacity : Nat := 0x10000

/-- The address of the first instruction. -/
def programStart : Nat := 0x200

/-- The address of the oldest return address. -/
def stackStart : Nat := 0x160

/-- How many return addresses the call stack holds. -/
def stackSlots : Nat := 16

/-- The address of the glyph of 0. -/
def fontStart : Nat := 0

/-- The height of a glyph, one byte a row. -/
def glyphBytes : Nat := 5

/-- The glyphs of the digits 0 to F, four pixels wide. -/
def font : List UInt8 := [
  0xF0, 0x90, 0x90, 0x90, 0xF0,
  0x20, 0x60, 0x20, 0x20, 0x70,
  0xF0, 0x10, 0xF0, 0x80, 0xF0,
  0xF0, 0x10, 0xF0, 0x10, 0xF0,
  0x90, 0x90, 0xF0, 0x10, 0x10,
  0xF0, 0x80, 0xF0, 0x10, 0xF0,
  0xF0, 0x80, 0xF0, 0x90, 0xF0,
  0xF0, 0x10, 0x20, 0x40, 0x40,
  0xF0, 0x90, 0xF0, 0x90, 0xF0,
  0xF0, 0x90, 0xF0, 0x10, 0xF0,
  0xF0, 0x90, 0xF0, 0x90, 0x90,
  0xE0, 0x90, 0xE0, 0x90, 0xE0,
  0xF0, 0x80, 0x80, 0x80, 0xF0,
  0xE0, 0x90, 0x90, 0x90, 0xE0,
  0xF0, 0x80, 0xF0, 0x80, 0xF0,
  0xF0, 0x80, 0xF0, 0x80, 0x80]

theorem length_font : font.length = 16 * glyphBytes := rfl

end Layout

namespace Ram

/-- Zeroed memory of a chosen size. -/
def ofCapacity (capacity : Nat) : Except Fault Ram :=
  if Layout.programStart < capacity ∧ capacity ≤ Layout.maxCapacity then .ok (zeroed capacity)
  else .error (.invalidCapacity capacity)

/-- Puts the glyphs at the bottom of memory. -/
def installFont (r : Ram) : Except Fault Ram :=
  r.write Layout.fontStart Layout.font

/-- Copies a program to `Layout.programStart`; also answers the address after its last byte. -/
def loadProgram (r : Ram) (program : List UInt8) : Except Fault (Ram × Nat) :=
  let required := Layout.programStart + program.length
  if r.capacity < required then .error (.insufficientMemory required r.capacity)
  else (r.write Layout.programStart program).map (·, required)

end Ram

end Chip8
