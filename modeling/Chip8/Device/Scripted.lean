import Chip8.Device.Basic
import Chip8.Screen.Bitmap

/-!
# A device that follows a script

A `ScriptedDevice` has a bitmap of any size. Which questions fail and which keys are down is fixed
beforehand, by the number of the question, and every question is recorded.
-/

namespace Chip8

/-- A question to a device. -/
inductive DeviceCall where
  | clear
  | toggle (x y : Nat)
  | pressed (key : UInt8)
  deriving DecidableEq, Repr, Inhabited

/-- What a scripted device answers. Questions about pixels and about keys are numbered from 0. -/
structure Script where
  clearFails : Bool := false
  togglesFail : Bool := false
  failingToggles : List Nat := []
  /-- From this question about a key on, the questions fail. -/
  keysFailFrom : Option Nat := none
  /-- The keys that are down at each question; the last entry stays. -/
  keys : List (List UInt8) := []
  interval : Nat := 5
  deriving Repr, Inhabited

/-- A device with a script and a record of the questions so far. -/
structure ScriptedDevice where
  script : Script
  screen : Bitmap
  toggles : Nat := 0
  queries : Nat := 0
  calls : Array DeviceCall := #[]
  deriving Repr, Inhabited

namespace ScriptedDevice

/-- Whether flip number `n` fails. -/
def toggleFails (s : Script) (n : Nat) : Bool :=
  s.togglesFail || s.failingToggles.contains n

/-- Whether question number `n` about a key fails. -/
def queryFails (s : Script) (n : Nat) : Bool :=
  match s.keysFailFrom with
  | none => false
  | some first => first ≤ n

/-- The keys that are down at question number `n`. -/
def keysAt (s : Script) (n : Nat) : List UInt8 :=
  s.keys.getD (min n (s.keys.length - 1)) []

/-- Makes the bitmap dark, unless that fails. -/
def clear (d : ScriptedDevice) : Reply ScriptedDevice Unit :=
  let d := { d with calls := d.calls.push .clear }
  if d.script.clearFails then .failed d ⟨.other, "no screen"⟩
  else .value { d with screen := d.screen.clear } ()

/-- Flips a pixel of the bitmap, unless that fails. -/
def toggle (d : ScriptedDevice) (x y : Nat) : Reply ScriptedDevice Bool :=
  let n := d.toggles
  let d := { d with toggles := n + 1, calls := d.calls.push (.toggle x y) }
  if toggleFails d.script n then .failed d ⟨.other, s!"pixel {n} lost"⟩
  else match d.screen.toggle x y with
    | .ok (wasLit, screen) => .value { d with screen } wasLit
    | .error cause => .aborted d cause

/-- Looks a key up in the script. -/
def pressed (d : ScriptedDevice) (key : UInt8) : Reply ScriptedDevice Bool :=
  let n := d.queries
  let d := { d with queries := n + 1, calls := d.calls.push (.pressed key) }
  if queryFails d.script n then .failed d ⟨.interrupted, "cancelled"⟩
  else .value d ((keysAt d.script n).contains key)

instance : Device ScriptedDevice where
  clear := clear
  toggle := toggle
  pressed := pressed
  pollInterval d := d.script.interval

end ScriptedDevice

end Chip8
