import Chip8.Screen.Bitmap

/-!
# What a canvas is asked to show

A scene is the picture of a bitmap as a drawing surface with real coordinates gets it: a bordered
box of the size of the screen, the range of both coordinates, and the lit pixels as points. The
first row of the screen is at the top, so its points have the largest `y`.
-/

namespace Chip8

/-- A rectangle of character cells. -/
structure Rect where
  x : UInt16
  y : UInt16
  width : UInt16
  height : UInt16
  deriving DecidableEq, Repr, Inhabited

/-- A picture for a canvas. -/
structure Scene where
  rect : Rect
  title : String
  xBounds : Int × Int
  yBounds : Int × Int
  /-- The lit pixels in drawing order. -/
  points : List (Int × Int)
  deriving DecidableEq, Repr, Inhabited

namespace Scene

/-- The room that the border takes in each direction. -/
def border : UInt16 := 2

/-- The picture of a bitmap. A bitmap without pixels has none. -/
def ofBitmap (b : Bitmap) : Except Abort Scene := do
  let width ← Checked.addWord border (UInt16.ofNat b.width)
  let height ← Checked.addWord border (UInt16.ofNat b.height)
  let right ← Checked.subSize b.width 1
  let bottom ← Checked.subSize b.height 1
  return {
    rect := ⟨0, 0, width, height⟩
    title := "CHIP-8"
    xBounds := (0, right)
    yBounds := (-bottom, 0)
    points := ← b.points }

/-- One row of the picture as characters. -/
def renderRow (s : Scene) (y : Int) : String :=
  let lit := s.points.filterMap fun p => if p.2 = y then some p.1 else none
  String.ofList <| (List.range (s.xBounds.2 + 1).toNat).map fun (x : Nat) =>
    if lit.contains (x : Int) then '█' else ' '

/-- The picture as text inside its border. -/
def render (s : Scene) : List String :=
  let width := (s.xBounds.2 + 1).toNat
  let rows := (List.range (1 - s.yBounds.1).toNat).map fun (y : Nat) =>
    "│" ++ s.renderRow (-(y : Int)) ++ "│"
  let top := "┌" ++ s.title ++ "".pushn '─' (width - s.title.length) ++ "┐"
  let bottom := "└" ++ "".pushn '─' width ++ "┘"
  top :: rows ++ [bottom]

end Scene

end Chip8
