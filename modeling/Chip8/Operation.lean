import Chip8.DecodeTable
import Chip8.RegisterOp

/-!
# The instruction set

`Operation` lists what an instruction can do, `Operation.entries` says which words do it, and
`instructionSet` is the table that a machine decodes with. System calls share their family nibble
with the two words that clear the screen and return; the tier of whole words tells them apart.
-/

namespace Chip8

/-- What an instruction does. Its operands are fields of its word. -/
inductive Operation where
  /-- Runs code of another processor; there is none. -/
  | systemCall
  | clearScreen
  | ret
  | jump
  | call
  | skipEqualConstant
  | skipUnequalConstant
  | skipEqualRegister
  | loadConstant
  | addConstant
  | register (op : RegisterOp)
  | skipUnequalRegister
  | loadIndex
  | jumpOffset
  | random
  | draw
  | skipPressed
  | skipReleased
  | readDelay
  | awaitKey
  | setDelay
  | setSound
  | addIndex
  | loadGlyph
  | storeDecimal
  | storeRegisters
  | loadRegisters
  deriving DecidableEq, Repr, Inhabited

namespace Operation

/-- The words of every operation, with its mnemonic. -/
def entries : List (DecodeEntry Operation) := [
  ⟨.family, 0x0000, "SYS NNN", systemCall⟩,
  ⟨.whole, 0x00E0, "CLS", clearScreen⟩,
  ⟨.whole, 0x00EE, "RET", ret⟩,
  ⟨.family, 0x1000, "JP NNN", jump⟩,
  ⟨.family, 0x2000, "CALL NNN", call⟩,
  ⟨.family, 0x3000, "SE VX, NN", skipEqualConstant⟩,
  ⟨.family, 0x4000, "SNE VX, NN", skipUnequalConstant⟩,
  ⟨.family, 0x5000, "SE VX, VY", skipEqualRegister⟩,
  ⟨.family, 0x6000, "LD VX, NN", loadConstant⟩,
  ⟨.family, 0x7000, "ADD VX, NN", addConstant⟩,
  ⟨.familyAndNibble, 0x8000, "LD VX, VY", register .copy⟩,
  ⟨.familyAndNibble, 0x8001, "OR VX, VY", register .or⟩,
  ⟨.familyAndNibble, 0x8002, "AND VX, VY", register .and⟩,
  ⟨.familyAndNibble, 0x8003, "XOR VX, VY", register .xor⟩,
  ⟨.familyAndNibble, 0x8004, "ADD VX, VY", register .add⟩,
  ⟨.familyAndNibble, 0x8005, "SUB VX, VY", register .sub⟩,
  ⟨.familyAndNibble, 0x8006, "SHR VX", register .shiftRight⟩,
  ⟨.familyAndNibble, 0x8007, "SUBN VX, VY", register .subFrom⟩,
  ⟨.familyAndNibble, 0x800E, "SHL VX", register .shiftLeft⟩,
  ⟨.family, 0x9000, "SNE VX, VY", skipUnequalRegister⟩,
  ⟨.family, 0xA000, "LD I, NNN", loadIndex⟩,
  ⟨.family, 0xB000, "JP V0, NNN", jumpOffset⟩,
  ⟨.family, 0xC000, "RND VX, NN", random⟩,
  ⟨.family, 0xD000, "DRW VX, VY, N", draw⟩,
  ⟨.familyAndByte, 0xE09E, "SKP VX", skipPressed⟩,
  ⟨.familyAndByte, 0xE0A1, "SKNP VX", skipReleased⟩,
  ⟨.familyAndByte, 0xF007, "LD VX, DT", readDelay⟩,
  ⟨.familyAndByte, 0xF00A, "LD VX, K", awaitKey⟩,
  ⟨.familyAndByte, 0xF015, "LD DT, VX", setDelay⟩,
  ⟨.familyAndByte, 0xF018, "LD ST, VX", setSound⟩,
  ⟨.familyAndByte, 0xF01E, "ADD I, VX", addIndex⟩,
  ⟨.familyAndByte, 0xF029, "LD F, VX", loadGlyph⟩,
  ⟨.familyAndByte, 0xF033, "LD B, VX", storeDecimal⟩,
  ⟨.familyAndByte, 0xF055, "LD [I], VX", storeRegisters⟩,
  ⟨.familyAndByte, 0xF065, "LD VX, [I]", loadRegisters⟩]

end Operation

/-- The table that machines decode with. -/
def instructionSet : DecodeTable Operation :=
  .ofList Operation.entries

end Chip8
