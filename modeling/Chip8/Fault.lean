import Chip8.Text.Hex

/-!
# Why an operation stops

Three different things can keep an operation from its answer. A *fault* is told to the caller, who
may go on with the machine; `Fault.message` is its wording. An *abort* is a broken bound of the
program itself: arithmetic that leaves its width, a division by zero, an index past the end of its
data. A wait for a key can also stay *unanswered* for longer than the caller was willing to wait.
-/

namespace Chip8

/-- The kinds of failure of the outside world that a caller may want to tell apart. -/
inductive IoKind where
  | interrupted
  | notFound
  | other
  deriving DecidableEq, Repr, Inhabited

/-- A failure of the outside world, with its own wording. -/
structure IoError where
  kind : IoKind
  text : String
  deriving DecidableEq, Repr, Inhabited

namespace IoError

/-- A key query was made after the user had asked to quit. -/
def quitRequested : IoError := ⟨.interrupted, "quit requested while reading keys"⟩

/-- The program file does not exist. -/
def noSuchFile : IoError := ⟨.notFound, "No such file or directory (os error 2)"⟩

end IoError

/-- The causes that can end an operation of the machine or of one of its parts. -/
inductive Fault where
  /-- A program needs more memory than there is. -/
  | insufficientMemory (required capacity : Nat)
  /-- An access of `len` bytes at `addr` leaves the memory. -/
  | addressOutOfRange (addr len capacity : Nat)
  | registerOutOfRange (x : Nat)
  | stackOverflow (capacity : Nat)
  | stackUnderflow
  | invalidCapacity (capacity : Nat)
  /-- The device behind the machine failed. -/
  | device (error : IoError)
  deriving DecidableEq, Repr, Inhabited

namespace Fault

/-- The wording of a fault. -/
def message : Fault → String
  | insufficientMemory required capacity =>
    s!"memory insufficient: need {required} bytes, have {capacity}"
  | addressOutOfRange addr len capacity =>
    s!"address 0x{Hex.lower 4 addr} (+{len}) is out of range for {capacity} bytes of memory"
  | registerOutOfRange x => s!"invalid register: V{Hex.upper 1 x}"
  | stackOverflow capacity => s!"stack overflow (capacity {capacity})"
  | stackUnderflow => "stack underflow"
  | invalidCapacity capacity => s!"invalid memory capacity: {capacity} bytes"
  | device error => error.text

end Fault

/-- The bounds that a program may break in itself. -/
inductive Abort where
  /-- The result of an addition, subtraction or multiplication does not fit its width. -/
  | overflow
  | divisionByZero
  | indexOutOfBounds (index size : Nat)
  /-- A range of `expected` bytes is to be overwritten by `actual` bytes. -/
  | lengthMismatch (expected actual : Nat)
  /-- A decode table has no tier for a mask. -/
  | unsupportedMask (mask : UInt16)
  deriving DecidableEq, Repr, Inhabited

/-- All the ways in which an operation can end without its answer. -/
inductive Stop where
  | fault (cause : Fault)
  | abort (cause : Abort)
  /-- A key wait used up the patience of the caller. -/
  | unanswered
  deriving DecidableEq, Repr, Inhabited

end Chip8
