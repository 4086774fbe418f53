import Mathlib.Tactic
import Chip8.Machine.Basic
import Chip8.Proofs.Decoding

/-!
# A machine in natural numbers

The instruction set once more, in the plainest terms: registers and memory are natural numbers, an
instruction is read digit by digit, and what it does is arithmetic. Nothing here can fail; a
`PlainMachine` says what a machine does whenever it does not fail.
-/

namespace Chip8

/-- A machine whose registers and memory cells are numbers. Only the random stream and the device
are kept as they are. -/
structure PlainMachine (σ : Type) where
  capacity : Nat
  cells : Nat → Nat
  v : Fin 16 → Nat
  i : Nat
  pc : Nat
  programEnd : Nat
  delayTimer : Nat
  soundTimer : Nat
  depth : Nat
  state : RunState
  random : RandomStream
  device : σ

namespace PlainMachine

/-- The address after an instruction; it stays at the largest 16-bit address. -/
def nextOf (pc : Nat) : Nat :=
  min (pc + 2) 0xFFFF

/-- Where slot `k` of the call stack lies. -/
def slot (k : Nat) : Nat :=
  0x160 + 2 * k

/-- The key that a register value names. -/
def keyOf (value : Nat) : UInt8 :=
  UInt8.ofNat (value % 16)

/-- What an operation makes of `VX` and `VY`, and the flag if it writes one. -/
def combine (op : RegisterOp) (vx vy : Nat) : Nat × Option Nat :=
  match op with
  | .copy => (vy, none)
  | .or => (vx ||| vy, none)
  | .and => (vx &&& vy, none)
  | .xor => (vx ^^^ vy, none)
  | .add => ((vx + vy) % 256, some (if 256 ≤ vx + vy then 1 else 0))
  | .sub => ((vx + 256 - vy) % 256, some (if vy ≤ vx then 1 else 0))
  | .shiftRight => (vx / 2, some (vx % 2))
  | .subFrom => ((vy + 256 - vx) % 256, some (if vx ≤ vy then 1 else 0))
  | .shiftLeft => (2 * vx % 256, some (vx / 128))

section Registers

variable {σ : Type}

/-- Writes `VX`. -/
def setReg (m : PlainMachine σ) (x : Fin 16) (value : Nat) : PlainMachine σ :=
  { m with v := Function.update m.v x value }

/-- Writes a result to `VX` and then, if there is a flag, the flag to `VF`. -/
def setResult (m : PlainMachine σ) (x : Fin 16) : Nat × Option Nat → PlainMachine σ
  | (value, none) => m.setReg x value
  | (value, some flag) => (m.setReg x value).setReg 0xF flag

/-- Passes over the next instruction if the condition holds. -/
def skipIf (m : PlainMachine σ) (condition : Prop) [Decidable condition] : PlainMachine σ :=
  if condition then { m with pc := nextOf m.pc } else m

/-- Writes bytes from an address on. -/
def store (m : PlainMachine σ) (addr : Nat) (data : List Nat) : PlainMachine σ :=
  { m with
    cells := fun a =>
      if addr ≤ a ∧ a < addr + data.length then data.getD (a - addr) 0 else m.cells a }

/-- The word at an address, high byte first. -/
def word (m : PlainMachine σ) (addr : Nat) : Nat :=
  0x100 * m.cells addr + m.cells (addr + 1)

/-- The pixels of the sprite of `height` rows at `I` with its corner at `(x, y)`, row after row and
each row from its highest bit on. -/
def pixels (m : PlainMachine σ) (x y height : Nat) : List (Nat × Nat) :=
  (List.range height).flatMap fun row =>
    ((List.range 8).filter fun col => (m.cells (m.i + row)).testBit (7 - col)).map fun col =>
      (x + col, y + row)

end Registers

variable {σ : Type} [Device σ]

/-- Flips pixels one after the other; also whether one of them is answered to have been lit. -/
def toggleAll (d : σ) : List (Nat × Nat) → σ × Bool
  | [] => (d, false)
  | (x, y) :: rest =>
    let reply := Device.toggle d x y
    let (d, hit) := toggleAll reply.state rest
    (d, decide (reply.answer = Answer.value true) || hit)

/-- Asks about a key, at most `patience` times, until the answer is not that it is not down. -/
def askUntilDown (key : UInt8) : Nat → σ → σ
  | 0, d => d
  | patience + 1, d =>
    let reply := Device.pressed d key
    if reply.answer = Answer.value false then askUntilDown key patience reply.state else reply.state

/-- Draws a sprite at `I`; `VF` tells whether a lit pixel was met. -/
def draw (m : PlainMachine σ) (x y height : Nat) : PlainMachine σ :=
  let (device, hit) := toggleAll m.device (m.pixels x y height)
  { m with device }.setReg 0xF (if hit then 1 else 0)

/-- Asks about the key that a register value names and skips if the answer is `expected`. -/
def skipIfPressed (m : PlainMachine σ) (value : Nat) (expected : Bool) : PlainMachine σ :=
  let reply := Device.pressed m.device (keyOf value)
  { m with device := reply.state }.skipIf (reply.answer = Answer.value expected)

/-- What an operation does with the operands in `d`. The counter is already past the instruction. -/
def execute (m : PlainMachine σ) (patience : Nat) (d : Digits) : Operation → PlainMachine σ
  | .systemCall => m
  | .clearScreen => { m with device := (Device.clear m.device).state }
  | .ret => { m with pc := m.word (slot (m.depth - 1)), depth := m.depth - 1 }
  | .jump => { m with pc := d.address }
  | .call =>
    { m.store (slot m.depth) [m.pc / 0x100, m.pc % 0x100] with
      depth := m.depth + 1
      pc := d.address }
  | .skipEqualConstant => m.skipIf (m.v d.x = d.constant)
  | .skipUnequalConstant => m.skipIf (m.v d.x ≠ d.constant)
  | .skipEqualRegister => m.skipIf (m.v d.x = m.v d.y)
  | .skipUnequalRegister => m.skipIf (m.v d.x ≠ m.v d.y)
  | .loadConstant => m.setReg d.x d.constant
  | .addConstant => m.setReg d.x ((m.v d.x + d.constant) % 256)
  | .register op => m.setResult d.x (combine op (m.v d.x) (m.v d.y))
  | .loadIndex => { m with i := d.address }
  | .jumpOffset => { m with pc := d.address + m.v 0 }
  | .random =>
    { m with random := m.random.next.2 }.setReg d.x (m.random.next.1.toNat &&& d.constant)
  | .draw => m.draw (m.v d.x) (m.v d.y) d.n
  | .skipPressed => m.skipIfPressed (m.v d.x) true
  | .skipReleased => m.skipIfPressed (m.v d.x) false
  | .readDelay => m.setReg d.x m.delayTimer
  | .awaitKey => { m with device := askUntilDown (keyOf (m.v d.x)) patience m.device }
  | .setDelay => { m with delayTimer := m.v d.x }
  | .setSound => { m with soundTimer := m.v d.x }
  | .addIndex => { m with i := (m.i + m.v d.x) % 0x10000 }
  | .loadGlyph => { m with i := 5 * (m.v d.x % 16) }
  | .storeDecimal => m.store m.i [m.v d.x / 100, m.v d.x / 10 % 10, m.v d.x % 10]
  | .storeRegisters => m.store m.i (((List.finRange 16).take (d.x.val + 1)).map m.v)
  | .loadRegisters =>
    { m with v := fun x => if x ≤ d.x then m.cells (m.i + x) else m.v x }

/-- Executes the instruction at the program counter. A word that names no operation is passed
over. -/
def step (m : PlainMachine σ) (patience : Nat) : PlainMachine σ :=
  let d := Digits.ofNat (m.word m.pc)
  let m := { m with pc := nextOf m.pc }
  match Operation.ofDigits? d with
  | some op => m.execute patience d op
  | none => m

end PlainMachine

end Chip8
