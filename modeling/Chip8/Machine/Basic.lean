import Chip8.CallStack
import Chip8.Device.Basic
import Chip8.RandomStream
import Chip8.Registers

/-!
# The machine and the outcome of its operations

A machine owns its memory, registers, random stream and device. Its call stack is a fixed window of
the memory, so all that the machine keeps of it is its depth. An operation gives an `Outcome`: the
machine afterwards, the effects it had on the way, and its result. The machine of an outcome is
meaningful also where the result is a fault: what was done before it stays done.
-/

namespace Chip8

/-- Whether a machine still executes instructions. -/
inductive RunState where
  | running
  /-- The program counter has left the program; only a reset or a load ends this. -/
  | halted
  deriving DecidableEq, Repr, Inhabited

/-- A machine with a device of type `σ`. -/
structure Machine (σ : Type) where
  ram : Ram
  registers : Registers
  /-- How many return addresses are pending. -/
  depth : Nat
  state : RunState
  random : RandomStream
  device : σ

/-- What an operation did beside changing the machine: the notices it gave, and the milliseconds of
each sleep between two questions about a key. -/
@[ext]
structure Effects where
  notices : Array Notice := #[]
  pauses : Array Nat := #[]
  deriving DecidableEq, Repr, Inhabited

namespace Effects

/-- No effect. -/
def empty : Effects := {}

/-- A single notice. -/
def notice (n : Notice) : Effects :=
  { notices := #[n] }

/-- One effect after the other. -/
def append (a b : Effects) : Effects :=
  { notices := a.notices ++ b.notices, pauses := a.pauses ++ b.pauses }

instance : Append Effects := ⟨append⟩

/-- The effects `a` followed by more notices. -/
def withNotices (a : Effects) (notices : Array Notice) : Effects :=
  { a with notices := a.notices ++ notices }

/-- The effects `a` followed by a sleep. -/
def withPause (a : Effects) (milliseconds : Nat) : Effects :=
  { a with pauses := a.pauses.push milliseconds }

theorem notices_append (a b : Effects) : (a ++ b).notices = a.notices ++ b.notices := rfl

theorem pauses_append (a b : Effects) : (a ++ b).pauses = a.pauses ++ b.pauses := rfl

@[simp]
theorem empty_append (a : Effects) : empty ++ a = a := by
  ext1 <;> simp [notices_append, pauses_append, empty]

@[simp]
theorem append_empty (a : Effects) : a ++ empty = a := by
  ext1 <;> simp [notices_append, pauses_append, empty]

theorem append_assoc (a b c : Effects) : a ++ b ++ c = a ++ (b ++ c) := by
  ext1 <;> simp [notices_append, pauses_append]

end Effects

/-- What an operation of a machine comes to. -/
structure Outcome (σ α : Type) where
  machine : Machine σ
  effects : Effects := {}
  result : Except Stop α

namespace Outcome

variable {σ α β : Type}

/-- The same outcome after earlier effects. -/
def after (earlier : Effects) (o : Outcome σ α) : Outcome σ α :=
  { o with effects := earlier ++ o.effects }

/-- The same outcome with another value as its result. -/
def map (f : α → β) (o : Outcome σ α) : Outcome σ β :=
  { machine := o.machine, effects := o.effects, result := o.result.map f }

end Outcome

namespace Machine

variable {σ : Type}

/-- The call stack. -/
def stack (m : Machine σ) : CallStack :=
  { CallStack.returnAddresses with depth := m.depth }

/-- A machine on the given memory, which gets the glyphs of the digits. No program is loaded. -/
def powerOn (ram : Ram) (device : σ) (random : RandomStream) :
    Except Fault (Machine σ × Array Notice) :=
  if ram.capacity ≤ Layout.programStart then .error (.invalidCapacity ram.capacity)
  else do
    let ram ← ram.installFont
    let machine : Machine σ :=
      { ram, device, random
        registers := .initial
        depth := 0
        state := .running }
    return (machine, #[.initialised ram.capacity])

/-- Registers, call stack and run state as after power on. Memory, random stream and device stay. -/
def restarted (m : Machine σ) : Machine σ :=
  { m with registers := .initial, depth := m.stack.clear.depth, state := .running }

/-- Restarts the machine. The program stays in memory, but where it ends is forgotten. -/
def reset (m : Machine σ) : Outcome σ Unit :=
  { machine := m.restarted, effects := .notice .reset, result := .ok () }

/-- Counts the timers down by one. The caller does so sixty times a second. -/
def tick (m : Machine σ) : Machine σ :=
  { m with registers := m.registers.tick }

/-- Counts the timers down by `n`. -/
def ticks (m : Machine σ) : Nat → Machine σ
  | 0 => m
  | n + 1 => m.tick.ticks n

end Machine

end Chip8
