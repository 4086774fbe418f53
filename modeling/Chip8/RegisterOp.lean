/-!
# Operations between two registers

The operations of the instruction family 8. Each takes the bytes of `VX` and `VY` and gives the new
`VX`, and some give a new flag as well.
-/

namespace Chip8

/-- An operation between two registers. -/
inductive RegisterOp where
  | copy
  | or
  | and
  | xor
  | add
  | sub
  | shiftRight
  | subFrom
  | shiftLeft
  deriving DecidableEq, Repr, Inhabited

namespace RegisterOp

/-- The last nibble of the instruction. -/
def code : RegisterOp → Nat
  | copy => 0x0
  | or => 0x1
  | and => 0x2
  | xor => 0x3
  | add => 0x4
  | sub => 0x5
  | shiftRight => 0x6
  | subFrom => 0x7
  | shiftLeft => 0xE

/-- The sum modulo 256 and the carry. -/
def addCarry (a b : UInt8) : UInt8 × UInt8 :=
  (a + b, if 256 ≤ a.toNat + b.toNat then 1 else 0)

/-- The difference modulo 256, and 0 if it borrows, 1 if it does not. -/
def subBorrow (a b : UInt8) : UInt8 × UInt8 :=
  (a - b, if a < b then 0 else 1)

/-- The upper seven bits moved down, and the bit that falls out. -/
def shiftOutRight (a : UInt8) : UInt8 × UInt8 :=
  (a >>> 1, a &&& 0x01)

/-- The lower seven bits moved up, and the bit that falls out. -/
def shiftOutLeft (a : UInt8) : UInt8 × UInt8 :=
  (a <<< 1, (a &&& 0x80) >>> 7)

/-- A result together with a flag. -/
def flagged (r : UInt8 × UInt8) : UInt8 × Option UInt8 :=
  (r.1, some r.2)

/-- The new `VX`, and the new flag if the operation writes one. -/
def apply (op : RegisterOp) (vx vy : UInt8) : UInt8 × Option UInt8 :=
  match op with
  | copy => (vy, none)
  | or => (vx ||| vy, none)
  | and => (vx &&& vy, none)
  | xor => (vx ^^^ vy, none)
  | add => flagged (addCarry vx vy)
  | sub => flagged (subBorrow vx vy)
  | shiftRight => flagged (shiftOutRight vx)
  | subFrom => flagged (subBorrow vy vx)
  | shiftLeft => flagged (shiftOutLeft vx)

end RegisterOp

end Chip8
