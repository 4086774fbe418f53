import Chip8.Checked
import Chip8.Machine.Basic
import Chip8.Operation
import Chip8.Sprite

/-!
# Executing one instruction

`Machine.execute` says what each operation does. The program counter already points past the
instruction. An operation that faults has written nothing: it checks before it writes.

Two operations talk to the device more than once. `Painting.paint` flips the cells of a sprite one
by one and goes on after a failure. `KeyWait.await` asks about a key until it is down; it is willing
to sleep a given number of times, its patience.
-/

namespace Chip8

/-- The address of the next instruction. It never wraps around to 0 but stays at the largest
address. -/
def nextAddress (pc : UInt16) : UInt16 :=
  UInt16.ofNat (min (pc.toNat + 2) 0xFFFF)

/-- A sprite that is being drawn. -/
structure Painting (σ : Type) where
  device : σ
  notices : Array Notice := #[]
  /-- Whether a lit pixel was turned off. -/
  collision : Bool := false
  /-- The last failure. -/
  failure : Option IoError := none

namespace Painting

variable {σ : Type} [Device σ]

/-- Flips the given pixels of a sprite with its corner at `(x, y)` in order. Only an abort ends this
early. -/
def paint (x y : Nat) (p : Painting σ) : List (Nat × Nat) → Painting σ × Except Abort Unit
  | [] => (p, .ok ())
  | cell :: rest =>
    match Sprite.place x y cell with
    | .error cause => (p, .error cause)
    | .ok (px, py) =>
      let reply := Device.toggle p.device px py
      let p := { p with device := reply.state, notices := p.notices ++ reply.notices }
      match reply.answer with
      | .value wasLit => paint x y { p with collision := p.collision || wasLit } rest
      | .failed error => paint x y { p with failure := some error } rest
      | .aborted cause => (p, .error cause)

end Painting

/-- The end of a wait for a key. -/
structure KeyWait (σ : Type) where
  device : σ
  effects : Effects
  result : Except Stop Unit

namespace KeyWait

variable {σ : Type} [Device σ]

/-- Asks about a key until it is down, sleeping after each answer that it is not, at most `patience`
times. -/
def await (key : UInt8) : Nat → σ → Effects → KeyWait σ
  | 0, device, effects => { device, effects, result := .error .unanswered }
  | patience + 1, device, effects =>
    let reply := Device.pressed device key
    let effects := effects.withNotices reply.notices
    match reply.answer with
    | .value true => { device := reply.state, effects, result := .ok () }
    | .value false =>
      await key patience reply.state (effects.withPause (Device.pollInterval reply.state))
    | .failed error =>
      { device := reply.state, effects, result := .error (.fault (.device error)) }
    | .aborted cause => { device := reply.state, effects, result := .error (.abort cause) }

end KeyWait

namespace Machine

variable {σ : Type}

/-- The key that a byte names: its lower nibble. -/
def keyOf (value : UInt8) : UInt8 :=
  value &&& 0x0F

/-- The decimal digits of a byte: hundreds, tens and ones. -/
def decimalDigits (value : UInt8) : List UInt8 :=
  [value / 100, value / 10 % 10, value % 10]

/-- The machine with other registers. -/
def withRegisters (m : Machine σ) (registers : Registers) : Machine σ :=
  { m with registers }

/-- The machine about to execute the instruction at `pc`. -/
def withPc (m : Machine σ) (pc : UInt16) : Machine σ :=
  { m with registers := { m.registers with pc } }

/-- The machine with another byte in `VX`. -/
def withReg (m : Machine σ) (x : Fin 16) (value : UInt8) : Machine σ :=
  { m with registers := m.registers.setReg x value }

/-- The machine with another address in `I`. -/
def withIndex (m : Machine σ) (i : UInt16) : Machine σ :=
  { m with registers := { m.registers with i } }

/-- The machine past its next instruction, if the condition holds. -/
def skipIf (m : Machine σ) (condition : Bool) : Machine σ :=
  if condition then m.withPc (nextAddress m.registers.pc) else m

/-- An outcome without effects. -/
def done (m : Machine σ) : Outcome σ Unit :=
  { machine := m, result := .ok () }

/-- An operation that stops and changes nothing. -/
def stop (m : Machine σ) (cause : Stop) : Outcome σ Unit :=
  { machine := m, result := .error cause }

/-- Writes the result of a computation that may stop into the machine. -/
def update {ε α : Type} (m : Machine σ) (cause : ε → Stop) (computed : Except ε α)
    (write : α → Machine σ) : Outcome σ Unit :=
  match computed with
  | .ok value => (write value).done
  | .error e => m.stop (cause e)

/-- Replaces `VX` by the result of an operation on `VX` and `VY`. -/
def combine (m : Machine σ) (op : RegisterOp) (x y : Fin 16) : Machine σ :=
  match op.apply (m.registers.reg x) (m.registers.reg y) with
  | (value, some flag) => m.withRegisters (m.registers.setWithFlag x value flag)
  | (value, none) => m.withReg x value

/-- The address of the glyph of a digit. -/
def glyphAddress (digit : UInt8) : Except Abort UInt16 := do
  let offset ← Checked.mulWord digit.toUInt16 (UInt16.ofNat Layout.glyphBytes)
  Checked.addWord (UInt16.ofNat Layout.fontStart) offset

/-- Memory with the first `count` registers written at `I`. -/
def dumpRegisters (m : Machine σ) (count : Nat) : Except Stop Ram := do
  let bytes ← (m.registers.first count).mapError .abort
  m.ram.copyTo m.registers.i.toNat count bytes

/-- Registers of which the first `count` are read from memory at `I`. -/
def fetchRegisters (m : Machine σ) (count : Nat) : Except Stop Registers := do
  let bytes ← (m.ram.read m.registers.i.toNat count).mapError .fault
  (m.registers.restoreFirst count bytes.toList).mapError .abort

variable [Device σ]

/-- Makes the screen dark. A failure is only told. -/
def clearScreen (m : Machine σ) : Outcome σ Unit :=
  let reply := Device.clear m.device
  let m := { m with device := reply.state }
  match reply.answer with
  | .value () => { machine := m, effects := { notices := reply.notices }, result := .ok () }
  | .failed error =>
    { machine := m
      effects := { notices := reply.notices.push (.clearFailed error) }
      result := .ok () }
  | .aborted cause =>
    { machine := m, effects := { notices := reply.notices }, result := .error (.abort cause) }

/-- Flips the pixels of the sprite of `height` rows at `I`, with its corner at the given place. The
flag tells whether a lit pixel was turned off; failures are told once, by the last one. -/
def drawSprite (m : Machine σ) (x y : UInt8) (height : UInt8) : Outcome σ Unit :=
  match m.ram.read m.registers.i.toNat height.toNat with
  | .error fault => m.stop (.fault fault)
  | .ok rows =>
    let (p, painted) := Painting.paint x.toNat y.toNat { device := m.device }
      (Sprite.cells rows.toList)
    let m := { m with device := p.device }
    match painted with
    | .error cause =>
      { machine := m, effects := { notices := p.notices }, result := .error (.abort cause) }
    | .ok () =>
      let notices := match p.failure with
        | none => p.notices
        | some error => p.notices.push (.spriteFailed x.toNat y.toNat error)
      { machine := m.withRegisters (m.registers.setFlag p.collision)
        effects := { notices }
        result := .ok () }

/-- Skips an instruction if the answer about a key is `expected`. -/
def skipIfPressed (m : Machine σ) (key : UInt8) (expected : Bool) : Outcome σ Unit :=
  let reply := Device.pressed m.device key
  let m := { m with device := reply.state }
  match reply.answer.toExcept with
  | .ok answer =>
    { machine := m.skipIf (answer == expected)
      effects := { notices := reply.notices }
      result := .ok () }
  | .error cause =>
    { machine := m, effects := { notices := reply.notices }, result := .error cause }

/-- Waits until a key is down. -/
def awaitKey (m : Machine σ) (patience : Nat) (key : UInt8) : Outcome σ Unit :=
  let wait := KeyWait.await key patience m.device (.notice (.waitingForKey key))
  { machine := { m with device := wait.device }, effects := wait.effects, result := wait.result }

/-- Executes an operation with the operands of a word. -/
def execute (m : Machine σ) (patience : Nat) (op : Operation) (w : Word) : Outcome σ Unit :=
  let r := m.registers
  let vx := r.reg w.x
  let vy := r.reg w.y
  match op with
  | .systemCall => { m.done with effects := .notice (.ignoredSystemCall w.address) }
  | .clearScreen => m.clearScreen
  | .ret =>
    m.update id (m.stack.pop m.ram) fun (pc, stack) =>
      { m with depth := stack.depth }.withPc pc
  | .jump => (m.withPc w.address).done
  | .call =>
    m.update id (m.stack.push m.ram r.pc) fun (stack, ram) =>
      { m with ram, depth := stack.depth }.withPc w.address
  | .skipEqualConstant => (m.skipIf (vx == w.constant)).done
  | .skipUnequalConstant => (m.skipIf (vx != w.constant)).done
  | .skipEqualRegister => (m.skipIf (vx == vy)).done
  | .loadConstant => (m.withReg w.x w.constant).done
  | .addConstant => (m.withReg w.x (vx + w.constant)).done
  | .register op => (m.combine op w.x w.y).done
  | .skipUnequalRegister => (m.skipIf (vx != vy)).done
  | .loadIndex => (m.withIndex w.address).done
  | .jumpOffset => m.update .abort (Checked.addWord w.address (r.reg 0).toUInt16) m.withPc
  | .random =>
    let (byte, random) := m.random.next
    ({ m with random }.withReg w.x (byte &&& w.constant)).done
  | .draw => m.drawSprite vx vy w.nibble
  | .skipPressed => m.skipIfPressed (keyOf vx) true
  | .skipReleased => m.skipIfPressed (keyOf vx) false
  | .readDelay => (m.withReg w.x r.delayTimer).done
  | .awaitKey => m.awaitKey patience (keyOf vx)
  | .setDelay => (m.withRegisters { r with delayTimer := vx }).done
  | .setSound => (m.withRegisters { r with soundTimer := vx }).done
  | .addIndex => (m.withIndex (r.i + vx.toUInt16)).done
  | .loadGlyph => m.update .abort (glyphAddress (vx &&& 0x0F)) m.withIndex
  | .storeDecimal =>
    m.update id (m.ram.copyTo r.i.toNat 3 (decimalDigits vx)) fun ram => { m with ram }
  | .storeRegisters => m.update id (m.dumpRegisters (w.x.val + 1)) fun ram => { m with ram }
  | .loadRegisters => m.update id (m.fetchRegisters (w.x.val + 1)) m.withRegisters

end Machine

end Chip8
