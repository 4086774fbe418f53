import Mathlib.Tactic
import Chip8.Proofs.Pictures

/-!
# Pixels without a bit

A screen has as many bytes as its pixels fill completely. Where the number of pixels is no multiple
of eight, the last pixels have no bit: reading or toggling one of them is an abort, and so is
drawing the screen, which looks at every pixel (`pixels_have_bits_iff`).
-/

namespace Chip8

namespace Bitmap

variable {b : Bitmap}

theorem bit_outside {k : Nat} (h : ¬k / 8 < b.bytes.size) :
    b.bit k = .error (.indexOutOfBounds (k / 8) b.bytes.size) :=
  dif_neg h

theorem shiftedBit_outside {k : Nat} (h : ¬k / 8 < b.bytes.size) :
    b.shiftedBit k = .error (.indexOutOfBounds (k / 8) b.bytes.size) :=
  dif_neg h

/-- The byte of a position is at most one past the end. -/
theorem byte_eq_size {k : Nat} (hk : k < b.width * b.height) (hOutside : ¬k / 8 < b.bytes.size) :
    k / 8 = b.bytes.size := by
  rw [b.size_bytes] at hOutside ⊢
  omega

section

variable (hWidth : 0 < b.width) (hHeight : 0 < b.height)
  (hCount : b.width * b.height < Checked.sizeLimit)
include hWidth hHeight hCount

theorem position_of_count (x y : Nat) : b.position x y = .ok (b.index x y) :=
  position_eq_index hWidth hHeight (Nat.mul_comm b.width b.height ▸ hCount.le) x y

theorem access_inside {x y : Nat} (hInside : b.index x y / 8 < b.bytes.size) :
    b.get x y = .ok (b.isLit (b.index x y)) ∧
      b.toggle x y = .ok (b.isLit (b.index x y), b.flip (b.index x y)) := by
  have hPosition := position_of_count hWidth hHeight hCount x y
  exact ⟨get_of_position hPosition hInside, toggle_of_position hPosition hInside⟩

theorem access_outside {x y : Nat} (hOutside : ¬b.index x y / 8 < b.bytes.size) :
    b.get x y = .error (.indexOutOfBounds b.bytes.size b.bytes.size) ∧
      b.toggle x y = .error (.indexOutOfBounds b.bytes.size b.bytes.size) := by
  have hByte := byte_eq_size (index_lt hWidth hHeight x y) hOutside
  rw [get, toggle, position_of_count hWidth hHeight hCount]
  change b.bit (b.index x y) = _ ∧ (b.bit (b.index x y) >>= _) = _
  rw [bit_outside hOutside, hByte]
  exact ⟨rfl, rfl⟩

omit hCount in
/-- If pixels are left over, the last one has no bit. -/
theorem last_outside (hBits : ¬8 ∣ b.width * b.height) :
    b.index (b.width - 1) (b.height - 1) = b.width * b.height - 1 ∧
      ¬(b.width * b.height - 1) / 8 < b.bytes.size := by
  obtain ⟨w, hw⟩ := Nat.exists_eq_succ_of_ne_zero hWidth.ne'
  obtain ⟨h, hh⟩ := Nat.exists_eq_succ_of_ne_zero hHeight.ne'
  constructor
  · rw [index, hw, hh, Nat.succ_sub_one, Nat.succ_sub_one, Nat.mod_eq_of_lt (Nat.lt_succ_self w),
      Nat.mod_eq_of_lt (Nat.lt_succ_self h), Nat.succ_mul_succ_eq]
    rw [Nat.mul_succ, Nat.mul_comm h w]
    omega
  · rw [b.size_bytes]
    omega

theorem points_outside (hBits : ¬8 ∣ b.width * b.height) :
    b.points = .error (.indexOutOfBounds b.bytes.size b.bytes.size) := by
  obtain ⟨-, hOutside⟩ := last_outside hWidth hHeight hBits
  have hPositive : 0 < b.width * b.height := Nat.mul_pos hWidth hHeight
  have hByte := byte_eq_size (Nat.sub_lt hPositive Nat.one_pos) hOutside
  obtain ⟨last, hLast⟩ := Nat.exists_eq_succ_of_ne_zero hPositive.ne'
  rw [hLast, Nat.succ_sub_one] at hOutside hByte
  -- The walk starts at the last position, so it sees no other bit first.
  rw [points, positions_of_count hCount, hLast, walk_succ, shiftedBit_outside hOutside, hByte]
  rfl

end

/-- Screens of any geometry whose pixels can be counted. The byte of a pixel is that of its wrapped
coordinates, counted row after row; where there is such a byte, reading and toggling the pixel
succeed, and where there is none they abort. Every pixel has a byte exactly if the number of pixels
is a multiple of eight, and only then can the screen be drawn. -/
theorem pixels_have_bits_iff (hWidth : 0 < b.width) (hHeight : 0 < b.height)
    (hCount : b.width * b.height < Checked.sizeLimit) :
    b.resolution.byteCount = .ok (b.width * b.height / 8) ∧
    b.bytes.size = b.width * b.height / 8 ∧
    (∀ x y, b.position x y = .ok (b.index x y) ∧
      (b.index x y / 8 < b.width * b.height / 8 →
        ∃ lit b', b.get x y = .ok lit ∧ b.toggle x y = .ok (lit, b')) ∧
      (¬b.index x y / 8 < b.width * b.height / 8 →
        b.get x y = .error (.indexOutOfBounds b.bytes.size b.bytes.size) ∧
          b.toggle x y = .error (.indexOutOfBounds b.bytes.size b.bytes.size))) ∧
    (8 ∣ b.width * b.height ↔ ∀ x y, b.index x y / 8 < b.width * b.height / 8) ∧
    (8 ∣ b.width * b.height ↔ ∃ points, b.points = .ok points) ∧
    (¬8 ∣ b.width * b.height →
      b.points = .error (.indexOutOfBounds b.bytes.size b.bytes.size)) := by
  have hBlank : blank b.width b.height = .ok (dark b.width b.height) :=
    blank_eq_ok_iff.2 ⟨hCount, rfl⟩
  have hBytes : b.resolution.byteCount = .ok (b.width * b.height / 8) :=
    (byteCount_of_blank hBlank).trans (congrArg Except.ok (dark b.width b.height).size_bytes)
  have hDraws := points_outside hWidth hHeight hCount
  rw [← b.size_bytes] at hBytes ⊢
  refine ⟨hBytes, rfl, ?_, ?_, ?_, hDraws⟩
  · intro x y
    refine ⟨position_of_count hWidth hHeight hCount x y, ?_, access_outside hWidth hHeight hCount⟩
    intro hInside
    exact ⟨_, _, access_inside hWidth hHeight hCount hInside⟩
  · constructor
    · intro hBits
      exact (whole_of_dvd hWidth hHeight hCount hBits).index_inside
    · intro hInside
      by_contra hBits
      obtain ⟨hLast, hOutside⟩ := last_outside hWidth hHeight hBits
      exact hOutside (hLast ▸ hInside _ _)
  · constructor
    · intro hBits
      exact ⟨_, (whole_of_dvd hWidth hHeight hCount hBits).points_eq hCount⟩
    · rintro ⟨points, hPoints⟩
      by_contra hBits
      rw [hDraws hBits] at hPoints
      cases hPoints

/-- Of nine pixels, the eighth has a bit and the ninth has none. -/
theorem pixels_have_bits_iff_nine :
    0 < (dark 3 3).width ∧ 0 < (dark 3 3).height ∧
      (dark 3 3).width * (dark 3 3).height < Checked.sizeLimit ∧
      (∃ lit, (dark 3 3).get 301 5 = .ok lit) ∧
      (dark 3 3).toggle 302 5 = .error (.indexOutOfBounds 1 1) := by
  have hCount : (dark 3 3).width * (dark 3 3).height < Checked.sizeLimit := by decide
  obtain ⟨-, -, hAccess, -⟩ :=
    pixels_have_bits_iff (by decide : 0 < (dark 3 3).width) (by decide) hCount
  obtain ⟨-, hInside, -⟩ := hAccess 301 5
  obtain ⟨-, -, hOutside⟩ := hAccess 302 5
  obtain ⟨lit, b', hGet, -⟩ := hInside (by decide)
  exact ⟨by decide, by decide, hCount, ⟨lit, hGet⟩, (hOutside (by decide)).2⟩

/-- On a screen of three rows of three pixels, the last pixel can be neither read nor toggled, and
the screen cannot be drawn. -/
theorem not_every_pixel_has_bit :
    ∃ b, blank 3 3 = .ok b ∧ b.resolution.byteCount = .ok 1 ∧
      b.get 1 2 = .ok false ∧
      b.get 2 2 = .error (.indexOutOfBounds 1 1) ∧
      b.toggle 2 2 = .error (.indexOutOfBounds 1 1) ∧
      b.points = .error (.indexOutOfBounds 1 1) :=
  ⟨dark 3 3, rfl, rfl, rfl, rfl, rfl,
    points_outside (by decide) (by decide) (by decide) (by decide)⟩

end Bitmap

end Chip8
