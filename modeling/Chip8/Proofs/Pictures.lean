import Mathlib.Tactic
import Chip8.Proofs.Torus
import Chip8.Terminal.Canvas

/-!
# What a canvas shows

The points of a bitmap are its lit pixels, each of them once, the last position first
(`Bitmap.Whole.points_eq`). So a drawing that a terminal accepts shows the bitmap it was made of: a
canvas shows the points of its last scene, and it shows a bitmap (`Canvas.Shows`) if these are
exactly the lit pixels. A bitmap is determined by what shows it.
-/

namespace Chip8

namespace Bitmap

theorem walk_eq (b : Bitmap) (plane : UInt8) (count : Nat) :
    b.walk plane count =
      match b.next plane count with
      | .error cause => .error cause
      | .ok none => .ok []
      | .ok (some k) => (b.walk plane k).map (k :: ·) := by
  rw [walk]
  split
  · rename_i hNext
    rw [hNext]
  · rename_i hNext
    rw [hNext]
  · rename_i hNext
    simp only [hNext]

/-- The walk down from a position and the one from the position below it. -/
theorem walk_succ (b : Bitmap) (plane : UInt8) (k : Nat) :
    b.walk plane (k + 1) =
      match b.shiftedBit k with
      | .error cause => .error cause
      | .ok bit => if bit = plane then (b.walk plane k).map (k :: ·) else b.walk plane k := by
  rw [walk_eq, next]
  cases b.shiftedBit k with
  | error cause => rfl
  | ok bit =>
      by_cases hBit : bit = plane
      · simp only [if_pos hBit]
      · simp only [if_neg hBit]
        rw [walk_eq b plane k]

/-- The walk through positions that have a bit stops at the lit ones. -/
theorem walk_inside {b : Bitmap} {count : Nat} (hInside : ∀ k < count, k / 8 < b.bytes.size) :
    b.walk 1 count = .ok ((List.range count).filter b.isLit).reverse := by
  induction count with
  | zero => rw [walk_eq, next, List.range_zero, List.filter_nil, List.reverse_nil]
  | succ k ih =>
      have hRest := ih fun k' hk' => hInside k' (Nat.lt_succ_of_lt hk')
      rw [walk_succ, shiftedBit_eq (hInside k (Nat.lt_succ_self k)), hRest, List.range_succ,
        List.filter_append, List.reverse_append]
      cases hLit : b.isLit k with
      | false => simp [hLit]
      | true => simp [hLit, Except.map]

/-- Where pixels can be counted, the walk begins behind the last one. -/
theorem positions_of_count {b : Bitmap} (hCount : b.width * b.height < Checked.sizeLimit)
    (plane : UInt8) : b.positions plane = b.walk plane (b.width * b.height) := by
  have hPixels : b.resolution.pixelCount = .ok (b.width * b.height) := Checked.mulSize_of_lt hCount
  rw [positions, hPixels]
  rfl

theorem Whole.positions_eq {b : Bitmap} (h : b.Whole)
    (hCount : b.width * b.height < Checked.sizeLimit) :
    b.positions 1 = .ok ((List.range (b.width * b.height)).filter b.isLit).reverse := by
  rw [positions_of_count hCount]
  refine walk_inside fun k hk => ?_
  have hBits := h.eight_mul_size
  omega

theorem Whole.points_eq {b : Bitmap} (h : b.Whole)
    (hCount : b.width * b.height < Checked.sizeLimit) :
    b.points =
      .ok (((List.range (b.width * b.height)).filter b.isLit).reverse.map (place b.width)) := by
  rw [points, h.positions_eq hCount]
  rfl

/-- A pixel is lit at the place where a terminal shows it. -/
def LitAt (b : Bitmap) (p : Int × Int) : Prop :=
  ∃ x y : Nat, x < b.width ∧ y < b.height ∧ b.get x y = .ok true ∧ p = ((x : Int), -(y : Int))

theorem place_index {b : Bitmap} {x y : Nat} (hx : x < b.width) (hy : y < b.height) :
    place b.width (b.index x y) = ((x : Int), -(y : Int)) := by
  have hWidth : 0 < b.width := by omega
  rw [place, index_mod_width, index_div_width hWidth, Nat.mod_eq_of_lt hx, Nat.mod_eq_of_lt hy]

/-- The points of a bitmap are its lit pixels. -/
theorem Whole.mem_points_iff {b : Bitmap} (h : b.Whole)
    (hCount : b.width * b.height < Checked.sizeLimit) {points : List (Int × Int)}
    (hPoints : b.points = .ok points) {p : Int × Int} : p ∈ points ↔ b.LitAt p := by
  rw [h.points_eq hCount] at hPoints
  obtain rfl := Except.ok.inj hPoints
  simp only [List.mem_map, List.mem_reverse, List.mem_filter, List.mem_range]
  constructor
  · rintro ⟨k, ⟨hk, hLit⟩, rfl⟩
    obtain ⟨x, y, hx, hy, rfl⟩ := exists_index hk
    exact ⟨x, y, hx, hy, by rw [h.get_eq, hLit], place_index hx hy⟩
  · rintro ⟨x, y, hx, hy, hGet, rfl⟩
    rw [h.get_eq] at hGet
    have hk := index_lt (Nat.zero_lt_of_lt hx) (Nat.zero_lt_of_lt hy) x y
    exact ⟨b.index x y, ⟨hk, Except.ok.inj hGet⟩, place_index hx hy⟩

theorem LitAt.get {b : Bitmap} {x y : Nat} (h : b.LitAt ((x : Int), -(y : Int))) :
    b.get x y = .ok true := by
  obtain ⟨x', y', -, -, hGet, hPlace⟩ := h
  obtain ⟨hx, hy⟩ := Prod.mk.inj hPlace
  obtain rfl : x = x' := Int.ofNat.inj hx
  obtain rfl : y = y' := Int.ofNat.inj (Int.neg_inj.1 hy)
  exact hGet

/-- Bitmaps of one geometry with the same lit pixels are the same. -/
theorem Whole.eq_of_litAt {b b' : Bitmap} (h : b.Whole) (hWidth : b'.width = b.width)
    (hHeight : b'.height = b.height) (hLit : ∀ p, b.LitAt p ↔ b'.LitAt p) : b = b' := by
  have h' : b'.Whole := h.congr hWidth hHeight
  apply h.eq_of_get hWidth hHeight
  intro x hx y hy
  have hIff : b.get x y = .ok true ↔ b'.get x y = .ok true := by
    constructor
    · intro hGet
      exact ((hLit _).1 ⟨x, y, hx, hy, hGet, rfl⟩).get
    · intro hGet
      exact ((hLit _).2 ⟨x, y, hWidth ▸ hx, hHeight ▸ hy, hGet, rfl⟩).get
  rw [h.get_eq, h'.get_eq, Except.ok.injEq, Except.ok.injEq] at hIff
  rw [h.get_eq, h'.get_eq, Bool.eq_iff_iff.2 hIff]

theorem not_litAt_standard (p : Int × Int) : ¬ standard.LitAt p := by
  rintro ⟨x, y, -, -, hGet, -⟩
  rw [whole_standard.get_eq, standard, isLit_dark] at hGet
  cases hGet

/-- The geometry of the screen that programs draw on. -/
structure Standard (b : Bitmap) : Prop where
  width : b.width = standardWidth
  height : b.height = standardHeight

namespace Standard

variable {b : Bitmap}

theorem whole (h : b.Standard) : b.Whole :=
  whole_of_standard h.width h.height

theorem count (h : b.Standard) : b.width * b.height < Checked.sizeLimit := by
  rw [h.width, h.height]
  decide

end Standard

end Bitmap

namespace Scene

/-- The screen that programs draw on has a picture. -/
theorem exists_ofBitmap {b : Bitmap} (h : b.Standard) :
    ∃ scene, ofBitmap b = .ok scene ∧ b.points = .ok scene.points := by
  have hPoints := h.whole.points_eq h.count
  refine ⟨⟨⟨0, 0, 66, 34⟩, "CHIP-8", (0, 63), (-31, 0), _⟩, ?_, hPoints⟩
  rw [ofBitmap, hPoints, h.width, h.height]
  rfl

end Scene

namespace Canvas

/-- What the terminal shows: the points of the last scene, if there is one. -/
def shown (c : Canvas) : List (Int × Int) :=
  match c.scenes.back? with
  | some scene => scene.points
  | none => []

/-- The terminal shows exactly the lit pixels of a bitmap. -/
def Shows (c : Canvas) (b : Bitmap) : Prop :=
  ∀ p, p ∈ c.shown ↔ b.LitAt p

/-- What a terminal shows determines the bitmap. -/
theorem Shows.iff_eq {c : Canvas} {b b' : Bitmap} (h : c.Shows b) (hStandard : b.Standard)
    (hStandard' : b'.Standard) : c.Shows b' ↔ b' = b := by
  constructor
  · intro h'
    have hWidth := hStandard'.width.trans hStandard.width.symm
    have hHeight := hStandard'.height.trans hStandard.height.symm
    exact (hStandard.whole.eq_of_litAt hWidth hHeight fun p => (h p).symm.trans (h' p)).symm
  · rintro rfl
    exact h

/-- The terminal accepts the drawing of a number, counted from 0. -/
def Accepts (c : Canvas) (n : Nat) : Prop :=
  .draw ∉ c.refused ∧ c.lost n = none

/-- Nothing was drawn, or the terminal accepted the last drawing. -/
def LastAccepted (c : Canvas) : Prop :=
  ∀ n, c.drawCalls = n + 1 → c.Accepts n

theorem failure?_draw_eq_none_iff (c : Canvas) :
    c.failure? .draw = none ↔ c.Accepts c.drawCalls := by
  by_cases hRefused : .draw ∈ c.refused
  · simp [failure?, Accepts, hRefused]
  · simp [failure?, Accepts, hRefused]

/-- What drawing comes to. -/
theorem draw_cases (c : Canvas) {b : Bitmap} (h : b.Standard) :
    (∃ error, c.failure? .draw = some error ∧
      c.draw b = .failed { c with calls := c.calls.push .draw } error) ∨
    c.failure? .draw = none ∧ ∃ scene, b.points = .ok scene.points ∧
      c.draw b =
        .value { c with calls := c.calls.push .draw, scenes := c.scenes.push scene } () := by
  obtain ⟨scene, hScene, hPoints⟩ := Scene.exists_ofBitmap h
  cases hFailure : c.failure? .draw with
  | some error =>
      refine Or.inl ⟨error, rfl, ?_⟩
      rw [draw, call, hFailure]
      rfl
  | none =>
      refine Or.inr ⟨rfl, scene, hPoints, ?_⟩
      rw [draw, call, hFailure]
      simp only [Reply.andThen, Reply.value, hScene, Array.append_empty]

/-- Drawing never aborts. -/
theorem draw_unaborted (c : Canvas) {b : Bitmap} (h : b.Standard) (cause : Abort) :
    (c.draw b).answer ≠ .aborted cause := by
  rcases c.draw_cases h with ⟨error, -, hDraw⟩ | ⟨-, scene, -, hDraw⟩
  · rw [hDraw]
    exact nofun
  · rw [hDraw]
    exact nofun

/-- What a terminal accepts does not depend on what was drawn. -/
theorem accepts_draw (c : Canvas) {b : Bitmap} (h : b.Standard) :
    (c.draw b).state.Accepts = c.Accepts := by
  rcases c.draw_cases h with ⟨error, -, hDraw⟩ | ⟨-, scene, -, hDraw⟩
  · rw [hDraw]
    rfl
  · rw [hDraw]
    rfl

/-- A drawing counts, whether or not the terminal accepts it. -/
theorem drawCalls_draw (c : Canvas) {b : Bitmap} (h : b.Standard) :
    (c.draw b).state.drawCalls = c.drawCalls + 1 := by
  have hPushed : (c.calls.push .draw).toList.count .draw = c.calls.toList.count .draw + 1 := by
    rw [Array.toList_push, List.count_append]
    rfl
  rcases c.draw_cases h with ⟨error, -, hDraw⟩ | ⟨-, scene, -, hDraw⟩
  · rw [hDraw]
    exact hPushed
  · rw [hDraw]
    exact hPushed

/-- A drawing that the terminal accepts shows the bitmap. -/
theorem draw_shows {c : Canvas} {b : Bitmap} (h : b.Standard)
    (hLast : (c.draw b).state.LastAccepted) : (c.draw b).state.Shows b := by
  have hAccepts := hLast c.drawCalls (c.drawCalls_draw h)
  rw [c.accepts_draw h, ← failure?_draw_eq_none_iff] at hAccepts
  rcases c.draw_cases h with ⟨error, hFailure, -⟩ | ⟨-, scene, hPoints, hDrawn⟩
  · rw [hAccepts] at hFailure
    cases hFailure
  · intro p
    rw [hDrawn, shown]
    simp only [Reply.value, Array.back?_push]
    exact h.whole.mem_points_iff h.count hPoints

end Canvas

end Chip8
