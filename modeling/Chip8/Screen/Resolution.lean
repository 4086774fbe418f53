import Chip8.Checked

/-!
# Screen geometry

A resolution counts pixels, and bytes of pixel data with one bit for each pixel and plane. The
byte count is rounded down.
-/

namespace Chip8

/-- Width and height in pixels, and the number of bits for each pixel. -/
structure Resolution where
  width : Nat
  height : Nat
  planes : Nat
  deriving DecidableEq, Repr, Inhabited

namespace Resolution

/-- How many pixels there are. -/
def pixelCount (r : Resolution) : Except Abort Nat :=
  Checked.mulSize r.width r.height

/-- How many whole bytes the pixels fill. -/
def byteCount (r : Resolution) : Except Abort Nat := do
  let bits ← Checked.mulSize (← r.pixelCount) r.planes
  return bits / 8

/-- Where bytes can be counted, there is one for eight bits. -/
theorem eq_of_byteCount {r : Resolution} {size : Nat} (h : r.byteCount = .ok size) :
    size = r.width * r.height * r.planes / 8 := by
  obtain ⟨pixels, hPixels, hRest⟩ := Checked.exists_of_bind h
  obtain ⟨bits, hBits, hSize⟩ := Checked.exists_of_bind hRest
  obtain rfl := Except.ok.inj hSize
  obtain ⟨rfl, -⟩ := Checked.size_eq_ok_iff.1 hBits
  obtain ⟨rfl, -⟩ := Checked.size_eq_ok_iff.1 hPixels
  rfl

end Resolution

end Chip8
