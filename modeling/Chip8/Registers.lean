import Chip8.Ram.Layout

/-!
# Registers

Sixteen byte registers `V0` to `VF`, the address register `I`, the program counter, the end of the
loaded program and two timers. `VF` is also the flag that arithmetic and drawing leave behind.
-/

namespace Chip8

/-- The registers of a machine. -/
structure Registers where
  v : Vector UInt8 16
  /-- The address register. -/
  i : UInt16
  /-- The address of the next instruction. -/
  pc : UInt16
  /-- The address after the last byte of the loaded program. -/
  programEnd : Nat
  delayTimer : UInt8
  soundTimer : UInt8
  deriving DecidableEq, Repr

namespace Registers

/-- How many byte registers there are. -/
def count : Nat := 16

/-- The number of the register that holds the flag. -/
def flagRegister : Fin 16 := 15

/-- The registers when the power comes on: no program is loaded. -/
def initial : Registers where
  v := Vector.replicate 16 0
  i := 0
  pc := UInt16.ofNat Layout.programStart
  programEnd := Layout.programStart
  delayTimer := 0
  soundTimer := 0

instance : Inhabited Registers := ⟨initial⟩

/-- The value of `VX`. -/
def reg (r : Registers) (x : Fin 16) : UInt8 :=
  r.v[x]

/-- Writes `VX`. -/
def setReg (r : Registers) (x : Fin 16) (value : UInt8) : Registers :=
  { r with v := r.v.set x value }

/-- The flag. -/
def flag (r : Registers) : UInt8 :=
  r.reg flagRegister

/-- Sets the flag to 1 or 0. -/
def setFlag (r : Registers) (on : Bool) : Registers :=
  r.setReg flagRegister on.toUInt8

/-- Writes a result to `VX` and a flag to `VF`. The flag is written last, so that it is what is left
when `VX` is `VF`. -/
def setWithFlag (r : Registers) (x : Fin 16) (value flag : UInt8) : Registers :=
  (r.setReg x value).setReg flagRegister flag

/-- A register number, or a fault. -/
def number (x : Nat) : Except Fault (Fin 16) :=
  if h : x < 16 then .ok ⟨x, h⟩ else .error (.registerOutOfRange x)

/-- The first `count` registers. There have to be as many. -/
def first (r : Registers) (count : Nat) : Except Abort (List UInt8) :=
  if count ≤ Registers.count then .ok (r.v.toList.take count)
  else .error (.indexOutOfBounds count Registers.count)

/-- Overwrites `V0`, `V1`, … with the given bytes; bytes past `VF` are dropped. -/
def restore (r : Registers) (bytes : List UInt8) : Registers :=
  { r with v := Vector.ofFn fun x => bytes.getD x.val (r.v[x]) }

/-- Overwrites the first `count` registers, of which there have to be as many, with `count`
bytes. -/
def restoreFirst (r : Registers) (count : Nat) (bytes : List UInt8) : Except Abort Registers :=
  if count ≤ Registers.count then
    if bytes.length = count then .ok (r.restore bytes)
    else .error (.lengthMismatch count bytes.length)
  else .error (.indexOutOfBounds count Registers.count)

/-- Counts both timers down by one; a timer stops at zero. -/
def tick (r : Registers) : Registers :=
  { r with
    delayTimer := UInt8.ofNat (r.delayTimer.toNat - 1)
    soundTimer := UInt8.ofNat (r.soundTimer.toNat - 1) }

theorem reg_setReg (r : Registers) (x y : Fin 16) (value : UInt8) :
    (r.setReg x value).reg y = if x = y then value else r.reg y := by
  simp [reg, setReg, Vector.getElem_set, Fin.ext_iff]

@[simp]
theorem reg_setReg_self (r : Registers) (x : Fin 16) (value : UInt8) :
    (r.setReg x value).reg x = value := by
  simp [reg_setReg]

theorem first_of_le (r : Registers) {n : Nat} (h : n ≤ count) :
    r.first n = .ok (r.v.toList.take n) :=
  if_pos h

theorem restoreFirst_of_le (r : Registers) {bytes : List UInt8} (h : bytes.length ≤ count) :
    r.restoreFirst bytes.length bytes = .ok (r.restore bytes) := by
  rw [restoreFirst, if_pos h, if_pos rfl]

theorem reg_restore (r : Registers) (bytes : List UInt8) (x : Fin 16) :
    (r.restore bytes).reg x = bytes.getD x.val (r.reg x) := by
  simp [reg, restore]

end Registers

end Chip8
