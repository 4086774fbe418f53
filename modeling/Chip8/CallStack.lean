import Chip8.Checked
import Chip8.Ram.Layout

/-!
# The call stack

The stack has no store of its own: it is a window of `slots` words over memory, starting at `base`,
of which the first `depth` are live. `CallStack.pending` reads the live words back, oldest first.
-/

namespace Chip8

/-- A stack of words that lies in memory. -/
structure CallStack where
  base : UInt16
  slots : Nat
  depth : Nat := 0
  deriving DecidableEq, Repr, Inhabited

namespace CallStack

/-- The bytes of a word. -/
def wordBytes : Nat := 2

/-- The stack of return addresses of a machine. -/
def returnAddresses : CallStack :=
  { base := UInt16.ofNat Layout.stackStart, slots := Layout.stackSlots }

/-- Whether no word is live. -/
def isEmpty (s : CallStack) : Bool :=
  s.depth = 0

/-- Forgets every word; memory stays as it is. -/
def clear (s : CallStack) : CallStack :=
  { s with depth := 0 }

/-- Where a slot starts, as a size. -/
def slotStart (s : CallStack) (slot : Nat) : Except Abort Nat := do
  Checked.addSize s.base.toNat (← Checked.mulSize slot wordBytes)

/-- The address of a slot, which has to be a 16-bit address. -/
def slotAddress (s : CallStack) (slot : Nat) : Except Stop Nat :=
  match s.slotStart slot with
  | .error cause => .error (.abort cause)
  | .ok addr =>
    if addr < Layout.maxCapacity then .ok addr
    else .error (.fault (.addressOutOfRange addr wordBytes Layout.maxCapacity))

/-- Puts a word on top. -/
def push (s : CallStack) (r : Ram) (value : UInt16) : Except Stop (CallStack × Ram) :=
  if s.slots ≤ s.depth then .error (.fault (.stackOverflow s.slots))
  else do
    let addr ← s.slotAddress s.depth
    let r ← (r.writeWord addr value).mapError .fault
    return ({ s with depth := s.depth + 1 }, r)

/-- Takes the word on top away. -/
def pop (s : CallStack) (r : Ram) : Except Stop (UInt16 × CallStack) :=
  match s.depth with
  | 0 => .error (.fault .stackUnderflow)
  | below + 1 => do
    let addr ← s.slotAddress below
    let value ← (r.readWord addr).mapError .fault
    return (value, { s with depth := below })

/-- The live words, oldest first. -/
def pending (s : CallStack) (r : Ram) : Except Stop (List UInt16) :=
  (List.range s.depth).mapM fun slot => do
    (r.readWord (← s.slotAddress slot)).mapError .fault

theorem push_full {s : CallStack} (h : s.slots ≤ s.depth) (r : Ram) (value : UInt16) :
    s.push r value = .error (.fault (.stackOverflow s.slots)) := by
  simp [push, h]

theorem pop_empty {s : CallStack} (h : s.depth = 0) (r : Ram) :
    s.pop r = .error (.fault .stackUnderflow) := by
  simp [pop, h]

end CallStack

end Chip8
