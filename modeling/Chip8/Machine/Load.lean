import Chip8.Machine.Basic

/-!
# Loading programs

A program is copied into memory and the machine starts over; a program that does not fit changes
nothing. `Machine.loadFrom` takes the program from a source that hands its bytes out in pieces.
-/

namespace Chip8

/-- What one attempt to read from a source gives. -/
inductive ReadAttempt where
  /-- Some bytes; no bytes mean the end of the source. -/
  | bytes (data : List UInt8)
  /-- The attempt was interrupted and has to be repeated. -/
  | interrupted
  deriving DecidableEq, Repr, Inhabited

/-- A source of bytes: what the attempts to read give, and how the source ends after them. -/
structure ByteSource where
  attempts : List ReadAttempt
  /-- The failure of the next attempt; without one the source is at its end. -/
  failure : Option IoError := none
  deriving Repr, Inhabited

namespace ByteSource

/-- Reads until the source ends, or fails. -/
def readAll (failure : Option IoError) : List ReadAttempt → Except IoError (List UInt8)
  | [] =>
    match failure with
    | none => .ok []
    | some error => .error error
  | .interrupted :: rest => readAll failure rest
  | .bytes [] :: _ => .ok []
  | .bytes (b :: bs) :: rest => (readAll failure rest).map (b :: bs ++ ·)

/-- All bytes of a source. -/
def contents (s : ByteSource) : Except IoError (List UInt8) :=
  readAll s.failure s.attempts

end ByteSource

namespace Machine

variable {σ : Type}

/-- Copies a program into memory and restarts the machine. -/
def load (m : Machine σ) (program : List UInt8) : Outcome σ Unit :=
  match m.ram.loadProgram program with
  | .error fault => { machine := m, result := .error (.fault fault) }
  | .ok (ram, programEnd) =>
    let started := { m with ram }.restarted
    { machine := { started with registers := { started.registers with programEnd } }
      effects := { notices := #[.reset, .loaded program.length programEnd] }
      result := .ok () }

/-- Loads all bytes of a source. A source that fails changes nothing. -/
def loadFrom (m : Machine σ) (source : ByteSource) : Outcome σ Unit :=
  match source.contents with
  | .error error => { machine := m, result := .error (.fault (.device error)) }
  | .ok program => m.load program

end Machine

end Chip8
