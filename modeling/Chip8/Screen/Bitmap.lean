import Chip8.Screen.Resolution

/-!
# The packed screen

A bitmap has one bit for each pixel, row after row, the leftmost pixel of eight in the highest bit.
Coordinates wrap around at the edges, so the screen is a torus. There are as many bytes as the
pixels fill completely (`Bitmap.size_bytes`): where their number is no multiple of eight, the last
pixels have no bit and reaching for one is an abort. `Bitmap.bit` is the view by position,
`Bitmap.get` the one by coordinates. To be drawn, a bitmap is walked through backwards:
`Bitmap.next` is one turn of the walk, `Bitmap.walk` all of them.
-/

namespace Chip8

/-- A screen of one bit for each pixel. -/
structure Bitmap where
  width : Nat
  height : Nat
  bytes : Array UInt8
  size_bytes : bytes.size = width * height / 8
  deriving DecidableEq, Repr

namespace Bitmap

/-- The width of the screen that programs draw on. -/
def standardWidth : Nat := 64

/-- The height of the screen that programs draw on. -/
def standardHeight : Nat := 32

/-- A screen on which no pixel is lit. -/
def dark (width height : Nat) : Bitmap where
  width := width
  height := height
  bytes := Array.replicate (width * height / 8) 0
  size_bytes := Array.size_replicate

/-- A dark screen, if its size can be counted. -/
def blank (width height : Nat) : Except Abort Bitmap := do
  let _ ← Resolution.byteCount ⟨width, height, 1⟩
  return dark width height

/-- The dark screen that programs draw on. -/
def standard : Bitmap :=
  dark standardWidth standardHeight

instance : Inhabited Bitmap := ⟨standard⟩

/-- The geometry of a bitmap: one plane. -/
def resolution (b : Bitmap) : Resolution :=
  ⟨b.width, b.height, 1⟩

/-- The same screen with every pixel dark. -/
def clear (b : Bitmap) : Bitmap :=
  dark b.width b.height

/-- The position of a pixel, counted row after row. -/
def position (b : Bitmap) (x y : Nat) : Except Abort Nat :=
  if b.height = 0 ∨ b.width = 0 then .error .divisionByZero
  else Checked.size ((y % b.height) * b.width + x % b.width)

/-- The bit of a position within its byte. -/
def mask (k : Nat) : UInt8 :=
  0x80 >>> UInt8.ofNat (k % 8)

/-- The bit at position `k`. -/
def bit (b : Bitmap) (k : Nat) : Except Abort Bool :=
  if h : k / 8 < b.bytes.size then .ok (b.bytes[k / 8] &&& mask k != 0)
  else .error (.indexOutOfBounds (k / 8) b.bytes.size)

/-- The bitmap with the bit at position `k` flipped. -/
def flip (b : Bitmap) (k : Nat) : Bitmap :=
  { b with
    bytes := b.bytes.modify (k / 8) (· ^^^ mask k)
    size_bytes := by rw [Array.size_modify, b.size_bytes] }

/-- Whether a pixel is lit. -/
def get (b : Bitmap) (x y : Nat) : Except Abort Bool := do
  b.bit (← b.position x y)

/-- Flips a pixel; also answers whether it was lit before. -/
def toggle (b : Bitmap) (x y : Nat) : Except Abort (Bool × Bitmap) := do
  let k ← b.position x y
  let wasLit ← b.bit k
  return (wasLit, b.flip k)

/-- How many bits of a byte are set. -/
def popCount (byte : UInt8) : Nat :=
  (List.range 8).countP fun k => byte &&& mask k != 0

/-- How many pixels are lit. -/
def lit (b : Bitmap) : Nat :=
  (b.bytes.toList.map popCount).foldr (· + ·) 0

/-- Where a position is drawn: `x` to the right, `y` upwards, so that the first row is at 0. -/
def place (width k : Nat) : Int × Int :=
  ((k % width : Nat), -((k / width : Nat) : Int))

/-- The bit at position `k` as a number, shifted down to the last place of its byte. -/
def shiftedBit (b : Bitmap) (k : Nat) : Except Abort UInt8 :=
  if h : k / 8 < b.bytes.size then .ok (1 &&& (b.bytes[k / 8] >>> UInt8.ofNat (7 - k % 8)))
  else .error (.indexOutOfBounds (k / 8) b.bytes.size)

/-- One turn of the walk through the positions, which has come down to `count`: it looks at one
position after the other below that, and stops at the first one whose bit is `plane`. -/
def next (b : Bitmap) (plane : UInt8) : Nat → Except Abort (Option Nat)
  | 0 => .ok none
  | k + 1 =>
    match b.shiftedBit k with
    | .error cause => .error cause
    | .ok bit => if bit = plane then .ok (some k) else b.next plane k

/-- The walk goes downwards. -/
theorem next_lt {b : Bitmap} {plane : UInt8} {count k : Nat}
    (h : b.next plane count = .ok (some k)) : k < count := by
  induction count with
  | zero => cases h
  | succ n ih =>
    rw [next] at h
    split at h
    · cases h
    · split at h
      · obtain rfl : n = k := Option.some.inj (Except.ok.inj h)
        exact Nat.lt_succ_self n
      · exact Nat.lt_succ_of_lt (ih h)

/-- Where the walk stops from `count` on, until it is at the end. -/
def walk (b : Bitmap) (plane : UInt8) (count : Nat) : Except Abort (List Nat) :=
  match h : b.next plane count with
  | .error cause => .error cause
  | .ok none => .ok []
  | .ok (some k) =>
    have _ := next_lt h
    (b.walk plane k).map (k :: ·)
termination_by count

/-- The positions whose bit is `plane`, the last one first. -/
def positions (b : Bitmap) (plane : UInt8) : Except Abort (List Nat) := do
  b.walk plane (← b.resolution.pixelCount)

/-- Where the lit pixels are drawn, the last position first. -/
def points (b : Bitmap) : Except Abort (List (Int × Int)) := do
  return (← b.positions 1).map (place b.width)

/-- A blank screen holds as many bytes as its resolution counts. -/
theorem byteCount_of_blank {width height : Nat} {b : Bitmap} (h : blank width height = .ok b) :
    b.resolution.byteCount = .ok b.bytes.size := by
  unfold blank at h
  cases hCount : Resolution.byteCount ⟨width, height, 1⟩ with
  | error cause =>
    rw [hCount] at h
    cases h
  | ok size =>
    rw [hCount] at h
    obtain rfl := Except.ok.inj h
    have hSize := Resolution.eq_of_byteCount hCount
    rw [Nat.mul_one] at hSize
    rw [show (dark width height).resolution = ⟨width, height, 1⟩ from rfl, hCount,
      (dark width height).size_bytes, hSize]
    rfl

theorem blank_standard : blank standardWidth standardHeight = .ok standard := rfl

/-- Row after row, the wrapped coordinates of a pixel stay below the number of pixels. -/
theorem rowMajor_lt {width height : Nat} (hWidth : 0 < width) (hHeight : 0 < height) (x y : Nat) :
    y % height * width + x % width < height * width := by
  have hRow : y % height < height := Nat.mod_lt _ hHeight
  have hColumn : x % width < width := Nat.mod_lt _ hWidth
  calc y % height * width + x % width
      < y % height * width + width := by omega
    _ = (y % height + 1) * width := by rw [Nat.add_mul, Nat.one_mul]
    _ ≤ height * width := Nat.mul_le_mul_right _ hRow

end Bitmap

end Chip8
