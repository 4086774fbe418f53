import Chip8.Device.Basic
import Chip8.Screen.Bitmap

/-!
# A screen in memory, with a display and keys

A board is the device that programs usually run on: pixels are flipped in a bitmap, keys are asked
of a `KeySource`, and a `Display` shows the bitmap whenever it is told to.
-/

namespace Chip8

/-- Something that shows bitmaps. -/
class Display (δ : Type) where
  draw : δ → Bitmap → Reply δ Unit

/-- Something that knows which keys are down. -/
class KeySource (κ : Type) where
  pressed : κ → UInt8 → Reply κ Bool

/-- A bitmap with a display for it and a source of keys. -/
structure Board (δ κ : Type) where
  screen : Bitmap
  display : δ
  keys : κ

namespace Board

variable {δ κ : Type}

/-- The milliseconds between two questions of a waiting machine: about a sixtieth of a second. -/
def pollInterval : Nat := 16

/-- A board with a dark screen. -/
def ofParts (display : δ) (keys : κ) : Board δ κ :=
  ⟨Bitmap.standard, display, keys⟩

/-- Flips a pixel of the bitmap. -/
def toggle (b : Board δ κ) (x y : Nat) : Reply (Board δ κ) Bool :=
  match b.screen.toggle x y with
  | .ok (wasLit, screen) => .value { b with screen } wasLit
  | .error cause => .aborted b cause

instance [KeySource κ] : Device (Board δ κ) where
  clear b := .value { b with screen := b.screen.clear } ()
  toggle := toggle
  pressed b key := (KeySource.pressed b.keys key).mapState fun keys => { b with keys }
  pollInterval _ := pollInterval

/-- Shows the bitmap. -/
def refresh [Display δ] (b : Board δ κ) : Reply (Board δ κ) Unit :=
  (Display.draw b.display b.screen).mapState fun display => { b with display }

end Board

end Chip8
