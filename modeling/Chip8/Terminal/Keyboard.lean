import Chip8.Device.Board

/-!
# Keys from a terminal

A keyboard puts its terminal into raw mode and then reads events. Events arrive in batches: one
drain reads the rest of the current batch and stops at its end. Mapped characters are remembered in
order until they are flushed, Escape asks to quit for good, and a failure in the middle of a batch
keeps what was read before it and leaves the rest for the next drain.
-/

namespace Chip8

namespace IoError

/-- Asking for events failed. -/
def pollFailed : IoError := ⟨.other, "poll failed"⟩

/-- Reading an event failed. -/
def readFailed : IoError := ⟨.other, "read failed"⟩

end IoError

/-- What a terminal reports, or how asking it fails. -/
inductive KeyEvent where
  | character (c : Char)
  | escape
  /-- A key that is not a character. -/
  | otherKey
  /-- An event that is no key. -/
  | notKey
  /-- Asking whether there is an event fails. -/
  | pollFails (error : IoError := .pollFailed)
  /-- There is an event, but reading it fails. -/
  | readFails (error : IoError := .readFailed)
  deriving DecidableEq, Repr, Inhabited

/-- What a keyboard does to its terminal. -/
inductive KeyboardCall where
  | enableRawMode
  | drain
  | disableRawMode
  deriving DecidableEq, Repr, Inhabited

/-- A terminal that keys are read from. -/
structure Keyboard where
  /-- The calls that the terminal refuses. -/
  refused : List KeyboardCall := []
  /-- The events to come; the first batch is the current one. -/
  batches : List (List KeyEvent) := []
  /-- The keys read since the last flush, in order. -/
  buffer : Array UInt8 := #[]
  /-- Whether Escape was ever read. -/
  quitRequested : Bool := false
  /-- The calls made, in order. -/
  calls : Array KeyboardCall := #[]
  deriving Repr, Inhabited

namespace Keyboard

/-- The characters for the sixteen keys: the left side of a keyboard with the rows `1234`, `qwer`,
`asdf` and `zxcv`. -/
def keymap : List (Char × UInt8) := [
  ('x', 0x0), ('1', 0x1), ('2', 0x2), ('3', 0x3),
  ('q', 0x4), ('w', 0x5), ('e', 0x6), ('a', 0x7),
  ('s', 0x8), ('d', 0x9), ('z', 0xA), ('c', 0xB),
  ('4', 0xC), ('r', 0xD), ('f', 0xE), ('v', 0xF)]

/-- The terminal does not enter raw mode. -/
def enableFailure : IoError := ⟨.other, "raw mode refused"⟩

/-- The terminal does not leave raw mode. -/
def disableFailure : IoError := ⟨.other, "raw mode stuck"⟩

/-- Puts a terminal with the given events into raw mode. -/
def start (refused : List KeyboardCall) (batches : List (List KeyEvent)) : Reply Keyboard Unit :=
  let k : Keyboard := { refused, batches, calls := #[.enableRawMode] }
  if refused.contains .enableRawMode then .failed k enableFailure else .value k ()

/-- Takes the terminal out of raw mode. A refusal is only told. -/
def close (k : Keyboard) : Reply Keyboard Unit :=
  let k := { k with calls := k.calls.push .disableRawMode }
  let notices :=
    if k.refused.contains .disableRawMode then #[.terminalNotRestored disableFailure] else #[]
  { state := k, answer := .value (), notices }

/-- A drain that fails before the events `rest` of the current batch. -/
def breakOff (k : Keyboard) (rest : List KeyEvent) (error : IoError) (notices : Array Notice) :
    Reply Keyboard Unit :=
  { state := { k with batches := rest :: k.batches.tail }, answer := .failed error, notices }

/-- Reads the events of the current batch up to its end or to a failure. -/
def consume (k : Keyboard) (notices : Array Notice) : List KeyEvent → Reply Keyboard Unit
  | [] => { state := { k with batches := k.batches.tail }, answer := .value (), notices }
  | .character c :: rest =>
    match keymap.lookup c with
    | some key => consume { k with buffer := k.buffer.push key } notices rest
    | none => consume k (notices.push (.unmappedKey c)) rest
  | .escape :: rest => consume { k with quitRequested := true } notices rest
  | .otherKey :: rest => consume k notices rest
  | .notKey :: rest => consume k notices rest
  | .pollFails error :: rest => k.breakOff rest error notices
  | .readFails error :: rest => k.breakOff rest error notices

/-- Reads the events that are there. -/
def drain (k : Keyboard) : Reply Keyboard Unit :=
  consume { k with calls := k.calls.push .drain } #[] (k.batches.headD [])

/-- The keys read since the last flush. -/
def peek (k : Keyboard) : Reply Keyboard (Array UInt8) :=
  k.drain.andThen fun k () => .value k k.buffer

/-- Forgets the keys read so far. Escape is not forgotten. -/
def flush (k : Keyboard) : Reply Keyboard Unit :=
  k.drain.andThen fun k () => .value { k with buffer := #[] } ()

/-- Whether a key was read since the last flush. After Escape the question fails, which is how a
wait for a key ends. -/
def pressed (k : Keyboard) (key : UInt8) : Reply Keyboard Bool :=
  k.drain.andThen fun k () =>
    if k.quitRequested then .failed k .quitRequested else .value k (k.buffer.contains key)

instance : KeySource Keyboard where
  pressed := pressed

end Keyboard

end Chip8
