import Chip8.Device.Board

/-!
# Parts without a terminal

A `Keypad` is a list of keys that are down until they are flushed, and a `DrawCounter` is a display
that only counts what it is shown.
-/

namespace Chip8

/-- Keys that are down, in the order in which they were pressed. -/
structure Keypad where
  held : List UInt8 := []
  deriving DecidableEq, Repr, Inhabited

namespace Keypad

/-- Presses a key. -/
def press (k : Keypad) (key : UInt8) : Keypad :=
  ⟨k.held ++ [key]⟩

/-- Lets every key go. -/
def flush (_ : Keypad) : Keypad :=
  ⟨[]⟩

/-- Whether a key is down. -/
def isPressed (k : Keypad) (key : UInt8) : Bool :=
  k.held.contains key

instance : KeySource Keypad where
  pressed k key := .value k (k.isPressed key)

end Keypad

/-- A display that counts the pictures it is given. -/
structure DrawCounter where
  drawn : Nat := 0
  deriving DecidableEq, Repr, Inhabited

instance : Display DrawCounter where
  draw c _ := .value ⟨c.drawn + 1⟩ ()

end Chip8
