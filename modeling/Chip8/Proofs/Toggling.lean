import Mathlib.Tactic
import Chip8.Proofs.Torus

/-!
# Toggling pixels of a torus

A pixel is lit exactly if it was toggled an odd number of times since the screen was last cleared,
whichever of its coordinates were used. So the screen does not know the order of the toggles, only
how often each pixel was hit (`pixels_count_toggles`). This needs that every pixel has a bit.
-/

namespace Chip8

/-- What can be done to a screen. -/
inductive Stroke where
  | toggle (x y : Nat)
  | clear

namespace Stroke

/-- The coordinates toggled since the last clear, after those of `earlier`. -/
def sinceClear (earlier : List (Nat × Nat)) : List Stroke → List (Nat × Nat)
  | [] => earlier
  | .toggle x y :: rest => sinceClear (earlier ++ [(x, y)]) rest
  | .clear :: rest => sinceClear [] rest

theorem sinceClear_cons (earlier : List (Nat × Nat)) (s : Stroke) (rest : List Stroke) :
    sinceClear earlier (s :: rest) = sinceClear (sinceClear earlier [s]) rest := by
  cases s with
  | toggle x y => rfl
  | clear => rfl

end Stroke

namespace Bitmap

/-- The screen after a stroke. -/
def stroke (b : Bitmap) : Stroke → Except Abort Bitmap
  | .toggle x y => return (← b.toggle x y).2
  | .clear => return b.clear

/-- The screen after strokes, one after the other. -/
def strokes (b : Bitmap) (ss : List Stroke) : Except Abort Bitmap :=
  ss.foldlM stroke b

/-- The positions of pixels given by any of their coordinates. -/
def indices (b : Bitmap) (pixels : List (Nat × Nat)) : List Nat :=
  pixels.map fun p => b.index p.1 p.2

/-- A dark screen with the given pixels toggled. -/
def toggled (width height : Nat) (pixels : List (Nat × Nat)) : Bitmap :=
  (dark width height).flipAll ((dark width height).indices pixels)

section

variable {width height : Nat}

@[simp]
theorem width_toggled (pixels : List (Nat × Nat)) : (toggled width height pixels).width = width :=
  width_flipAll _ _

@[simp]
theorem height_toggled (pixels : List (Nat × Nat)) :
    (toggled width height pixels).height = height :=
  height_flipAll _ _

theorem toggled_append (pixels : List (Nat × Nat)) (x y : Nat) :
    toggled width height (pixels ++ [(x, y)]) =
      (toggled width height pixels).flip ((toggled width height pixels).index x y) := by
  rw [toggled, indices, List.map_append, flipAll, List.foldl_append, toggled, index_flipAll]
  rfl

theorem clear_toggled (pixels : List (Nat × Nat)) :
    (toggled width height pixels).clear = toggled width height [] := by
  rw [clear, width_toggled, height_toggled]
  rfl

variable (h : (dark width height).Whole)
include h

theorem whole_toggled (pixels : List (Nat × Nat)) : (toggled width height pixels).Whole :=
  h.flipAll _

/-- One stroke: no abort, and what was toggled since the last clear is toggled. -/
theorem stroke_toggled (earlier : List (Nat × Nat)) (s : Stroke) :
    (toggled width height earlier).stroke s =
      .ok (toggled width height (Stroke.sinceClear earlier [s])) := by
  cases s with
  | toggle x y =>
      rw [stroke, (whole_toggled h earlier).toggle_eq, Stroke.sinceClear, Stroke.sinceClear,
        toggled_append]
      rfl
  | clear =>
      rw [stroke, clear_toggled]
      rfl

/-- All strokes, one after the other. -/
theorem strokes_toggled (earlier : List (Nat × Nat)) (ss : List Stroke) :
    (toggled width height earlier).strokes ss =
      .ok (toggled width height (Stroke.sinceClear earlier ss)) := by
  induction ss generalizing earlier with
  | nil => rfl
  | cons s rest ih =>
      rw [strokes, List.foldlM_cons, stroke_toggled h, Stroke.sinceClear_cons earlier s rest]
      exact ih _

/-- A position is lit if its pixel occurs an odd number of times. -/
theorem isLit_toggled (pixels : List (Nat × Nat)) (x y : Nat) :
    (toggled width height pixels).isLit ((toggled width height pixels).index x y) =
      decide (pixels.countP (fun p => p.1 % width = x % width ∧ p.2 % height = y % height) % 2 =
        1) := by
  have hInside : ∀ k ∈ (dark width height).indices pixels,
      k / 8 < (dark width height).bytes.size := by
    intro k hk
    obtain ⟨p, -, rfl⟩ := List.mem_map.1 hk
    exact h.index_inside _ _
  have hOccurs : ((dark width height).indices pixels).count ((dark width height).index x y) =
      pixels.countP (fun p => p.1 % width = x % width ∧ p.2 % height = y % height) := by
    rw [indices, List.count_eq_countP, List.countP_map]
    refine List.countP_congr fun p _ => ?_
    rw [decide_eq_true_iff]
    exact beq_iff_eq.trans (index_eq_iff h.width)
  rw [toggled, index_flipAll, isLit_flipAll hInside, isLit_dark, Bool.false_xor, hOccurs]

theorem toggled_eq_of_perm {pixels pixels' : List (Nat × Nat)} (hPerm : pixels.Perm pixels') :
    toggled width height pixels = toggled width height pixels' := by
  have hWhole := whole_toggled h pixels
  have hWidth : (toggled width height pixels').width = (toggled width height pixels).width := by
    rw [width_toggled, width_toggled]
  have hHeight : (toggled width height pixels').height = (toggled width height pixels).height := by
    rw [height_toggled, height_toggled]
  apply hWhole.eq_of_get hWidth hHeight
  intro x _ y _
  rw [hWhole.get_eq, (whole_toggled h pixels').get_eq, isLit_toggled h, isLit_toggled h,
    hPerm.countP_eq]

end

namespace Whole

variable {b : Bitmap}

/-- The lit pixels of the screen, counted column by column and row by row. -/
theorem card_lit (h : b.Whole) :
    ((Finset.range b.width ×ˢ Finset.range b.height).filter
      fun p => b.get p.1 p.2 = .ok true).card = b.lit := by
  have hPositions : ((Finset.range (b.width * b.height)).filter fun k => b.isLit k).card =
      b.lit := by
    rw [lit_eq_countP, h.eight_mul_size, List.countP_eq_length_filter,
      ← List.toFinset_card_of_nodup (List.nodup_range.filter _), List.toFinset_filter,
      List.toFinset_range]
  rw [← hPositions]
  -- Pixels of the grid and positions correspond, by row-major order and back by division.
  refine Finset.card_nbij' (fun p => b.index p.1 p.2) (fun k => (k % b.width, k / b.width))
    ?_ ?_ ?_ ?_
  · intro p hp
    obtain ⟨-, hLit⟩ := Finset.mem_filter.1 hp
    rw [h.get_eq] at hLit
    have hk := index_lt h.width h.height p.1 p.2
    exact Finset.mem_coe.2 (Finset.mem_filter.2 ⟨Finset.mem_range.2 hk, Except.ok.inj hLit⟩)
  · intro k hk
    obtain ⟨hRange, hLit⟩ := Finset.mem_filter.1 hk
    have hRange := Finset.mem_range.1 hRange
    have hColumn : k % b.width < b.width := Nat.mod_lt k h.width
    have hRow : k / b.width < b.height := Nat.div_lt_of_lt_mul hRange
    refine Finset.mem_coe.2 (Finset.mem_filter.2 ⟨?_, ?_⟩)
    · exact Finset.mem_product.2 ⟨Finset.mem_range.2 hColumn, Finset.mem_range.2 hRow⟩
    · rw [h.get_eq, index_of_position hRange, hLit]
  · intro p hp
    obtain ⟨hGrid, -⟩ := Finset.mem_filter.1 hp
    obtain ⟨hx, hy⟩ := Finset.mem_product.1 hGrid
    refine Prod.ext ?_ ?_
    · exact (index_mod_width b p.1 p.2).trans (Nat.mod_eq_of_lt (Finset.mem_range.1 hx))
    · exact (index_div_width h.width p.1 p.2).trans (Nat.mod_eq_of_lt (Finset.mem_range.1 hy))
  · intro k hk
    obtain ⟨hRange, -⟩ := Finset.mem_filter.1 hk
    exact index_of_position (Finset.mem_range.1 hRange)

/-- The bit of a pixel within the bytes. -/
theorem byte_of_position (h : b.Whole) {k : Nat} (hk : k < b.width * b.height) :
    ∃ byte, b.bytes[k / 8]? = some byte ∧
      b.get (k % b.width) (k / b.width) = .ok (byte.toNat.testBit (7 - k % 8)) := by
  have hSize : k / 8 < b.bytes.size := by
    have hBits := h.eight_mul_size
    omega
  refine ⟨b.bytes[k / 8], Array.getElem?_eq_getElem hSize, ?_⟩
  have hColumn : k % 8 < Sprite.width := Nat.mod_lt k (by decide)
  rw [h.get_eq, index_of_position hk, isLit, Array.getD_eq_getD_getElem?,
    Array.getElem?_eq_getElem hSize, Option.getD_some, Sprite.isSet_eq_testBit _ hColumn]

end Whole

/-- Screens of any geometry with a bit for every pixel, rows of whole bytes or not. A screen can be
made if its pixels can be counted; then no stroke aborts, and a pixel is lit exactly if it was
toggled an odd number of times since the last clear, by any of its coordinates. Every toggle tells
whether the pixel was lit. The lit pixels are counted right, the bits lie row after row, the highest
of a byte first, and only how often each pixel was toggled since the last clear matters. -/
theorem pixels_count_toggles {width height : Nat} (hWidth : 0 < width) (hHeight : 0 < height)
    (hBits : 8 ∣ width * height) :
    ((∃ b, blank width height = .ok b) ↔ width * height < Checked.sizeLimit) ∧
    ∀ b ss, blank width height = .ok b → ∃ b', b.strokes ss = .ok b' ∧
      (∀ x y, b'.get x y = .ok (decide ((Stroke.sinceClear [] ss).countP
        (fun p => p.1 % width = x % width ∧ p.2 % height = y % height) % 2 = 1))) ∧
      (∀ x y, ∃ wasLit b'', b'.get x y = .ok wasLit ∧ b'.toggle x y = .ok (wasLit, b'') ∧
        b.strokes (ss ++ [.toggle x y]) = .ok b'') ∧
      b'.lit = ((Finset.range width ×ˢ Finset.range height).filter
        fun p => b'.get p.1 p.2 = .ok true).card ∧
      (∀ k < width * height, ∃ byte, b'.bytes[k / 8]? = some byte ∧
        b'.get (k % width) (k / width) = .ok (byte.toNat.testBit (7 - k % 8))) ∧
      ∀ ss', (Stroke.sinceClear [] ss').Perm (Stroke.sinceClear [] ss) →
        b.strokes ss' = .ok b' := by
  constructor
  · constructor
    · rintro ⟨b, hBlank⟩
      exact (blank_eq_ok_iff.1 hBlank).1
    · intro hCount
      exact ⟨_, blank_eq_ok_iff.2 ⟨hCount, rfl⟩⟩
  intro b ss hBlank
  obtain ⟨hCount, rfl⟩ := blank_eq_ok_iff.1 hBlank
  have hDark : (dark width height).Whole := whole_of_dvd hWidth hHeight hCount hBits
  -- Every run ends at the screen `toggled`; the rest are facts about that screen.
  have hStrokes (ss : List Stroke) : (dark width height).strokes ss =
      .ok (toggled width height (Stroke.sinceClear [] ss)) := strokes_toggled hDark [] ss
  have hWhole := whole_toggled hDark (Stroke.sinceClear [] ss)
  have hCard := hWhole.card_lit
  have hByte := fun k => hWhole.byte_of_position (k := k)
  rw [width_toggled, height_toggled] at hCard hByte
  refine ⟨_, hStrokes ss, ?_, ?_, hCard.symm, hByte, ?_⟩
  · intro x y
    rw [hWhole.get_eq, isLit_toggled hDark]
  · intro x y
    refine ⟨_, _, hWhole.get_eq x y, hWhole.toggle_eq x y, ?_⟩
    have hToggle := hWhole.toggle_eq x y
    have hBefore := hStrokes ss
    rw [strokes] at hBefore ⊢
    rw [List.foldlM_append, hBefore]
    change ((toggled width height _).stroke (.toggle x y) >>= _) = _
    rw [stroke, hToggle]
    rfl
  · intro ss' hPerm
    rw [hStrokes, toggled_eq_of_perm hDark hPerm]

/-- Rows of three pixels share their bytes; one pixel is toggled by two of its coordinates, another
by three, and what came before the clear is forgotten. -/
theorem pixels_count_toggles_shared :
    ∃ b b', 8 ∣ 3 * 8 ∧ blank 3 8 = .ok b ∧
      b.strokes [.toggle 0 0, .clear, .toggle 1 2, .toggle 2 7, .toggle 4 10, .toggle 5 15,
        .toggle 2 15] = .ok b' ∧
      b'.get 1 2 = .ok false ∧ b'.get 2 7 = .ok true ∧ b'.get 0 0 = .ok false ∧
      b'.get 302 407 = .ok true := by
  have hBlank : blank 3 8 = .ok (dark 3 8) := rfl
  obtain ⟨-, hAll⟩ :=
    pixels_count_toggles (by decide : 0 < 3) (by decide : 0 < 8) (by decide)
  obtain ⟨b', hStrokes, hGet, -⟩ := hAll _ _ hBlank
  refine ⟨_, b', by decide, hBlank, hStrokes, ?_, ?_, ?_, ?_⟩
  · rw [hGet]
    decide
  · rw [hGet]
    decide
  · rw [hGet]
    decide
  · rw [hGet]
    decide

end Bitmap

end Chip8
