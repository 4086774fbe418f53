import Chip8.Text.Hex

/-!
# Instruction words

An instruction is a 16-bit word, stored with its high byte first. Its operands are fields of the
word, written `NNN` (address), `NN` (constant), `N` (nibble), `X` and `Y` (registers):

    15..12   11..8   7..4   3..0
    family     X       Y      N
               ------- NNN ------
                       --- NN ---
-/

namespace Chip8

/-- An instruction word. -/
structure Word where
  bits : UInt16
  deriving DecidableEq, Repr, Inhabited

namespace Word

/-- The word stored as the byte `hi` followed by the byte `lo`. -/
def ofBytes (hi lo : UInt8) : Word :=
  ⟨(hi.toUInt16 <<< 8) ||| lo.toUInt16⟩

/-- The high byte. -/
def high (w : Word) : UInt8 :=
  (w.bits >>> 8).toUInt8

/-- The low byte, which is also the constant `NN`. -/
def constant (w : Word) : UInt8 :=
  w.bits.toUInt8

/-- The address `NNN`. -/
def address (w : Word) : UInt16 :=
  w.bits &&& 0x0FFF

/-- The nibble `N`. -/
def nibble (w : Word) : UInt8 :=
  w.bits.toUInt8 &&& 0x0F

/-- The register number `X`. -/
def x (w : Word) : Fin 16 :=
  Fin.ofNat 16 (w.bits >>> 8).toNat

/-- The register number `Y`. -/
def y (w : Word) : Fin 16 :=
  Fin.ofNat 16 (w.bits >>> 4).toNat

/-- Four upper-case hexadecimal digits. -/
def text (w : Word) : String :=
  Hex.upper 4 w.bits.toNat

end Word

end Chip8
