import Chip8.Notice

/-!
# What a machine asks of the outside world

A machine knows a screen on which pixels can be flipped and a pad of sixteen keys. A `Device` is
anything that answers these questions; it keeps a state of its own, so that an answer may depend on
all questions so far. An answer is a value, a failure, or an abort of the device itself, and a
device may have something to tell with every answer.
-/

namespace Chip8

/-- The answer to a question. -/
inductive Answer (α : Type) where
  | value (answer : α)
  | failed (error : IoError)
  | aborted (cause : Abort)
  deriving DecidableEq, Repr

namespace Answer

variable {α : Type}

/-- The answer as the result of an operation. -/
def toExcept : Answer α → Except Stop α
  | value answer => .ok answer
  | failed error => .error (.fault (.device error))
  | aborted cause => .error (.abort cause)

end Answer

/-- An answer with the state that follows it. -/
structure Reply (σ α : Type) where
  state : σ
  answer : Answer α
  notices : Array Notice := #[]

namespace Reply

variable {σ τ α β : Type}

/-- A value and nothing to tell. -/
def value (state : σ) (answer : α) : Reply σ α :=
  { state, answer := .value answer }

/-- A failure and nothing to tell. -/
def failed (state : σ) (error : IoError) : Reply σ α :=
  { state, answer := .failed error }

/-- An abort and nothing to tell. -/
def aborted (state : σ) (cause : Abort) : Reply σ α :=
  { state, answer := .aborted cause }

/-- The reply of a part as the reply of the whole that `embed` puts the part into. -/
def mapState (embed : σ → τ) (r : Reply σ α) : Reply τ α :=
  { state := embed r.state, answer := r.answer, notices := r.notices }

/-- A reply and, if it is a value, the next one. What both have to tell is told in order. -/
def andThen (r : Reply σ α) (next : σ → α → Reply σ β) : Reply σ β :=
  match r.answer with
  | .value answer =>
    let later := next r.state answer
    { later with notices := r.notices ++ later.notices }
  | .failed error => { state := r.state, answer := .failed error, notices := r.notices }
  | .aborted cause => { state := r.state, answer := .aborted cause, notices := r.notices }

end Reply

/-- A screen and a key pad, as a machine sees them. -/
class Device (σ : Type) where
  /-- Makes the whole screen dark. -/
  clear : σ → Reply σ Unit
  /-- Flips the pixel at `(x, y)`, wrapped to the geometry of the screen, and answers whether it was
  lit before. -/
  toggle : σ → Nat → Nat → Reply σ Bool
  /-- Whether a key is down. -/
  pressed : σ → UInt8 → Reply σ Bool
  /-- The milliseconds that a waiting machine sleeps between two questions about a key. -/
  pollInterval : σ → Nat

end Chip8
