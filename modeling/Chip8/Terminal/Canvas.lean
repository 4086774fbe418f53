import Chip8.Device.Board
import Chip8.Screen.Scene

/-!
# Showing bitmaps on a terminal

A canvas is opened and cleared once and then drawn on. It records what was asked of the terminal and
the scenes that the terminal accepted. A terminal may refuse any kind of call, and a drawing may
fail now and then.
-/

namespace Chip8

/-- What a canvas asks of its terminal. -/
inductive CanvasCall where
  | open
  | clear
  | draw
  deriving DecidableEq, Repr, Inhabited

namespace CanvasCall

/-- The name of a call in the wording of its failure. -/
def name : CanvasCall → String
  | .open => "new"
  | .clear => "clear"
  | .draw => "draw"

/-- The failure of a refused call. -/
def refusal (c : CanvasCall) : IoError :=
  ⟨.other, s!"terminal {c.name} failed"⟩

end CanvasCall

/-- A terminal that scenes are drawn on. -/
structure Canvas where
  /-- The calls that the terminal refuses. -/
  refused : List CanvasCall := []
  /-- How the drawings, numbered from 0, fail on a terminal that does not refuse them all. -/
  lost : Nat → Option IoError := fun _ => none
  /-- The calls made, in order. -/
  calls : Array CanvasCall := #[]
  /-- The scenes drawn, in order. -/
  scenes : Array Scene := #[]
  deriving Inhabited

namespace Canvas

/-- How often something was drawn, failures included. -/
def drawCalls (c : Canvas) : Nat :=
  c.calls.toList.count .draw

/-- How the next call of a kind fails, if it does. -/
def failure? (c : Canvas) (what : CanvasCall) : Option IoError :=
  if c.refused.contains what then some what.refusal
  else if what = .draw then c.lost c.drawCalls
  else none

/-- Makes a call, which may fail. -/
def call (c : Canvas) (what : CanvasCall) : Reply Canvas Unit :=
  let called := { c with calls := c.calls.push what }
  match c.failure? what with
  | some error => .failed called error
  | none => .value called ()

/-- A canvas on a terminal with the given refusals and failures: opened, then cleared. -/
def start (refused : List CanvasCall) (lost : Nat → Option IoError := fun _ => none) :
    Reply Canvas Unit :=
  (call { refused, lost } .open).andThen fun c () => c.call .clear

/-- Draws a bitmap. -/
def draw (c : Canvas) (b : Bitmap) : Reply Canvas Unit :=
  (c.call .draw).andThen fun c () =>
    match Scene.ofBitmap b with
    | .ok scene => .value { c with scenes := c.scenes.push scene } ()
    | .error cause => .aborted c cause

instance : Display Canvas where
  draw := draw

end Canvas

end Chip8
