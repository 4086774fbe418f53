import Chip8.Host.Options
import Chip8.Machine.Load
import Chip8.Machine.Run
import Chip8.Terminal.Canvas
import Chip8.Terminal.Keyboard

/-!
# Running a program on a terminal

A session runs a program in frames of a sixtieth of a second. A frame is a number of instructions,
then a tick of the timers, a picture on the terminal, and a flush of the keys. The session ends when
the program halts, the step limit is reached, the user asks to quit, or a step or a flush fails.

`Session.advance` is one small step of this: an instruction, or the end of a frame. `Session.finish`
gives the terminal back, whatever the session ended with.
-/

namespace Chip8

/-- A board on a terminal. -/
abbrev Console := Board Canvas Keyboard

/-- What a session finds when it starts. -/
structure Environment where
  /-- The bytes of the program file, if there is one. -/
  program : Option (List UInt8)
  /-- The calls that the terminal refuses to the canvas. -/
  canvasRefuses : List CanvasCall := []
  /-- How the drawings, numbered from 0, fail on a terminal that does not refuse them all. -/
  canvasLoses : Nat → Option IoError := fun _ => none
  /-- The calls that the terminal refuses to the keyboard. -/
  keyboardRefuses : List KeyboardCall := []
  /-- What the user types. -/
  batches : List (List KeyEvent) := []
  /-- The random bytes when no seed is given. -/
  entropy : RandomStream := .ofSeed 0
  deriving Inhabited

/-- The random bytes of a session: those of the seed, if one is given. -/
def Environment.random (e : Environment) (o : Options) : RandomStream :=
  (o.seed.map RandomStream.ofSeed).getD e.entropy

/-- Why a session fails. -/
inductive SessionError where
  | badLogLevel (text : String)
  | stopped (cause : Stop)
  deriving DecidableEq, Repr, Inhabited

namespace SessionError

/-- The wording of an unknown log level. -/
def badLogLevelMessage (text : String) : String :=
  s!"bad log level {Quoted.text text}: " ++
    "attempted to convert a string that doesn't match an existing log level"

/-- The failure of the outside world. -/
def io (error : IoError) : SessionError :=
  .stopped (.fault (.device error))

end SessionError

/-- What is left of a session. -/
structure Report where
  result : Except SessionError Unit
  canvas : Canvas := {}
  keyboard : Keyboard := {}
  notices : Array Notice := #[]

namespace Report

/-- The empty lines that follow the last picture of a session that went well, so that it is not
overwritten. -/
def trailingLines (r : Report) : Nat :=
  match r.result with
  | .ok () => 12
  | .error _ => 0

/-- The lines of the log. -/
def log (r : Report) (v : Verbosity) : List String :=
  (r.notices.toList.filter (v.admits ·.level)).map Notice.line

end Report

/-- A program being run. -/
structure Session where
  machine : Machine Console
  /-- Everything told so far. -/
  notices : Array Notice := #[]
  /-- The instructions of a frame. -/
  perFrame : Nat
  limit : Option Nat := none
  /-- The instructions executed so far. -/
  steps : Nat := 0
  /-- The instructions that are left of the current frame. -/
  left : Nat

/-- Where a session is after a small step. -/
inductive Progress where
  | going (session : Session)
  /-- The key that the program waits for is not down. The program counter is back at the
  instruction, so that the session tries it again. -/
  | waiting (session : Session)
  | ended (session : Session) (result : Except Stop Unit)

namespace Session

/-- The frames of a second. -/
def framesPerSecond : Nat := 60

/-- The instructions of a frame, at least one. -/
def instructionsPerFrame (hz : Nat) : Nat :=
  max 1 (hz / framesPerSecond)

/-- The keyboard of a session. -/
def keyboard (s : Session) : Keyboard :=
  s.machine.device.keys

/-- The session with another device. -/
def withDevice (s : Session) (device : Console) : Session :=
  { s with machine := { s.machine with device } }

/-- The session after more notices. -/
def tell (s : Session) (notices : Array Notice) : Session :=
  { s with notices := s.notices ++ notices }

/-- Gives the terminal back. -/
def finish (s : Session) (result : Except Stop Unit) : Report :=
  let closed := s.keyboard.close
  { result := result.mapError .stopped
    canvas := s.machine.device.display
    keyboard := closed.state
    notices := s.notices ++ closed.notices }

/-- Loads the program of the environment. -/
def loadProgram (s : Session) (program : Option (List UInt8)) : Except Report Session :=
  match program with
  | none => .error (s.finish (.error (.fault (.device .noSuchFile))))
  | some bytes =>
    let o := s.machine.loadFrom { attempts := [.bytes bytes] }
    let s := { s with machine := o.machine }.tell o.effects.notices
    match o.result with
    | .ok () => .ok s
    | .error cause => .error (s.finish (.error cause))

/-- Puts a machine on the given memory, canvas and keyboard. -/
def ofParts (o : Options) (e : Environment) (ram : Ram) (canvas : Canvas) (keyboard : Keyboard) :
    Except Report Session :=
  match Machine.powerOn ram (Board.ofParts canvas keyboard) (e.random o) with
  | .error fault =>
    let closed := keyboard.close
    .error
      { result := .error (.stopped (.fault fault))
        canvas
        keyboard := closed.state
        notices := closed.notices }
  | .ok (machine, notices) =>
    let perFrame := instructionsPerFrame o.hz
    .ok { machine, notices, perFrame, limit := o.maxSteps, left := perFrame }

/-- Opens the terminal, makes a machine and loads the program; or reports why that fails. -/
def start (o : Options) (e : Environment) : Except Report Session :=
  match o.verbosity? with
  | none => .error { result := .error (.badLogLevel o.logLevel) }
  | some _ =>
    match Ram.ofCapacity o.memory with
    | .error fault => .error { result := .error (.stopped (.fault fault)) }
    | .ok ram =>
      let canvas := Canvas.start e.canvasRefuses e.canvasLoses
      match canvas.answer.toExcept with
      | .error cause => .error { result := .error (.stopped cause), canvas := canvas.state }
      | .ok () =>
        let keyboard := Keyboard.start e.keyboardRefuses e.batches
        match keyboard.answer.toExcept with
        | .error cause =>
          .error
            { result := .error (.stopped cause)
              canvas := canvas.state
              keyboard := keyboard.state }
        | .ok () => do
          let s ← ofParts o e ram canvas.state keyboard.state
          s.loadProgram e.program

/-- Whether a fault is the user's wish to quit rather than a failure. -/
def isInterruption : Fault → Bool
  | .device error => error.kind = .interrupted
  | _ => false

/-- Counts an executed instruction, after which `left` remain in the frame. -/
def countStep (s : Session) (left : Nat) : Progress :=
  let s := { s with steps := s.steps + 1, left }
  match s.limit with
  | none => .going s
  | some limit =>
    if limit ≤ s.steps then .ended (s.tell #[.stepLimitReached s.steps]) (.ok ()) else .going s

/-- Executes an instruction, after which `left` remain in the frame. -/
def stepMachine (s : Session) (patience left : Nat) : Progress :=
  let pc := s.machine.registers.pc
  let o := s.machine.step patience
  let s := { s with machine := o.machine }.tell o.effects.notices
  match o.result with
  | .ok .running => s.countStep left
  | .ok .halted => .ended (s.tell #[.finished s.steps]) (.ok ())
  | .error .unanswered => .waiting { s with machine := s.machine.withPc pc }
  | .error (.abort cause) => .ended s (.error (.abort cause))
  | .error (.fault fault) =>
    if isInterruption fault then .ended s (.ok ())
    else .ended (s.tell #[.stopped s.steps fault]) (.error (.fault fault))

/-- Forgets the keys of the frame and starts the next one. -/
def flushKeys (s : Session) : Progress :=
  let flushed := s.keyboard.flush
  let s := (s.withDevice { s.machine.device with keys := flushed.state }).tell flushed.notices
  match flushed.answer.toExcept with
  | .ok () => .going { s with left := s.perFrame }
  | .error cause => .ended s (.error cause)

/-- Ends a frame: ticks the timers, shows the screen and flushes the keys. A picture that fails is
only told. -/
def endFrame (s : Session) : Progress :=
  let s := { s with machine := s.machine.tick }
  let shown := s.machine.device.refresh
  let s := (s.withDevice shown.state).tell shown.notices
  match shown.answer with
  | .aborted cause => .ended s (.error (.abort cause))
  | answer =>
    let s := match answer with
      | .failed error => s.tell #[.refreshFailed error]
      | _ => s
    if s.keyboard.quitRequested then .ended s (.ok ()) else s.flushKeys

/-- One small step: an instruction, or the end of the frame. -/
def advance (s : Session) (patience : Nat) : Progress :=
  match s.left with
  | 0 => s.endFrame
  | left + 1 => s.stepMachine patience left

/-- Runs a session to its end in at most `fuel` small steps. There is no report if that is not
enough, or if a key wait lasts longer than `patience`. -/
def run (patience : Nat) : Nat → Session → Option Report
  | 0, _ => none
  | fuel + 1, s =>
    match s.advance patience with
    | .going s => run patience fuel s
    | .waiting _ => none
    | .ended s result => some (s.finish result)

/-- The pictures and notices of a session so far, and the session without them. -/
def collect (s : Session) : Array Scene × Array Notice × Session :=
  let device := s.machine.device
  let emptied := { device with display := { device.display with scenes := #[] } }
  (device.display.scenes, s.notices, { s.withDevice emptied with notices := #[] })

/-- Adds to what the user types. -/
def receive (s : Session) (batches : List (List KeyEvent)) : Session :=
  let keys := { s.keyboard with batches := s.keyboard.batches ++ batches }
  s.withDevice { s.machine.device with keys }

end Session

end Chip8
