import Mathlib.Tactic
import Chip8.Proofs.Pictures

/-!
# The points of a picture

Drawing goes through the positions of a screen backwards and shifts each bit out of its byte;
reading a pixel masks it. Both see the same pixels: the points of a picture are the lit pixels, each
of them once, from the last position down to the first (`points_are_lit`).
-/

namespace Chip8

namespace Bitmap

/-- The position that a point was made of. -/
def rank (width : Nat) (p : Int × Int) : Int :=
  -p.2 * width + p.1

theorem rank_place (width k : Nat) : rank width (place width k) = k := by
  have hPosition := Nat.div_add_mod' k width
  change -(-((k / width : Nat) : Int)) * width + ((k % width : Nat) : Int) = k
  rw [Int.neg_neg]
  exact_mod_cast hPosition

namespace Whole

variable {b : Bitmap} {points : List (Int × Int)}

/-- The points come in falling order of their positions. -/
theorem points_falling (h : b.Whole) (hCount : b.width * b.height < Checked.sizeLimit)
    (hPoints : b.points = .ok points) :
    points.Pairwise fun p q => rank b.width q < rank b.width p := by
  rw [h.points_eq hCount] at hPoints
  obtain rfl := Except.ok.inj hPoints
  rw [List.pairwise_map, List.pairwise_reverse]
  refine (List.pairwise_lt_range.filter _).imp fun {k j} hLess => ?_
  rw [rank_place, rank_place]
  exact Int.ofNat_lt.2 hLess

theorem points_nodup (h : b.Whole) (hCount : b.width * b.height < Checked.sizeLimit)
    (hPoints : b.points = .ok points) : points.Nodup := by
  refine (h.points_falling hCount hPoints).imp fun {p q} hFalls hSame => ?_
  rw [hSame] at hFalls
  exact lt_irrefl _ hFalls

theorem length_points (h : b.Whole) (hCount : b.width * b.height < Checked.sizeLimit)
    (hPoints : b.points = .ok points) : points.length = b.lit := by
  rw [h.points_eq hCount] at hPoints
  obtain rfl := Except.ok.inj hPoints
  rw [List.length_map, List.length_reverse, ← List.countP_eq_length_filter, lit_eq_countP,
    h.eight_mul_size]

theorem count_points (h : b.Whole) (hCount : b.width * b.height < Checked.sizeLimit)
    (hPoints : b.points = .ok points) {x y : Nat} (hx : x < b.width) (hy : y < b.height) :
    points.count ((x : Int), -(y : Int)) = if b.get x y = .ok true then 1 else 0 := by
  rw [(h.points_nodup hCount hPoints).count]
  refine if_congr ?_ rfl rfl
  rw [h.mem_points_iff hCount hPoints]
  constructor
  · exact LitAt.get
  · intro hGet
    exact ⟨x, y, hx, hy, hGet, rfl⟩

/-- Screens of one geometry with the same points are the same. -/
theorem eq_of_points (h : b.Whole) (hCount : b.width * b.height < Checked.sizeLimit)
    (hPoints : b.points = .ok points) {b' : Bitmap} (hWidth : b'.width = b.width)
    (hHeight : b'.height = b.height) (hPoints' : b'.points = .ok points) : b = b' := by
  have h' : b'.Whole := h.congr hWidth hHeight
  have hCount' : b'.width * b'.height < Checked.sizeLimit := by rwa [hWidth, hHeight]
  apply h.eq_of_litAt hWidth hHeight
  intro p
  rw [← h.mem_points_iff hCount hPoints, ← h'.mem_points_iff hCount' hPoints']

end Whole

theorem LitAt.bounds {b : Bitmap} {p : Int × Int} (h : b.LitAt p) :
    0 ≤ p.1 ∧ p.1 ≤ (b.width - 1 : Nat) ∧ -((b.height - 1 : Nat) : Int) ≤ p.2 ∧ p.2 ≤ 0 := by
  obtain ⟨x, y, hx, hy, -, rfl⟩ := h
  simp only
  omega

end Bitmap

namespace Scene

/-- A picture has the points of its bitmap, and its bounds are those of the screen. -/
theorem eq_of_ofBitmap {b : Bitmap} {scene : Scene} (h : ofBitmap b = .ok scene) :
    b.points = .ok scene.points ∧ scene.xBounds = (0, ((b.width - 1 : Nat) : Int)) ∧
      scene.yBounds = (-((b.height - 1 : Nat) : Int), 0) := by
  obtain ⟨width, -, hRest⟩ := Checked.exists_of_bind h
  obtain ⟨height, -, hRest⟩ := Checked.exists_of_bind hRest
  obtain ⟨right, hRight, hRest⟩ := Checked.exists_of_bind hRest
  obtain ⟨bottom, hBottom, hRest⟩ := Checked.exists_of_bind hRest
  obtain ⟨points, hPoints, hScene⟩ := Checked.exists_of_bind hRest
  obtain rfl := Except.ok.inj hScene
  obtain ⟨-, rfl⟩ := Checked.subSize_eq_ok_iff.1 hRight
  obtain ⟨-, rfl⟩ := Checked.subSize_eq_ok_iff.1 hBottom
  exact ⟨hPoints, rfl, rfl⟩

/-- A screen with points has a picture, if its box can be measured in 16 bits. -/
theorem exists_of_points {b : Bitmap} {points : List (Int × Int)} (hPoints : b.points = .ok points)
    (hWidth : 0 < b.width) (hHeight : 0 < b.height) (hColumns : b.width % 0x10000 < 0xFFFE)
    (hRows : b.height % 0x10000 < 0xFFFE) : ∃ scene, ofBitmap b = .ok scene := by
  have hBorder (n : Nat) (hn : n % 0x10000 < 0xFFFE) :
      Checked.addWord border (UInt16.ofNat n) = .ok (border + UInt16.ofNat n) := by
    refine Checked.addWord_eq_ok_iff.2 ⟨?_, rfl⟩
    change 2 + (UInt16.ofNat n).toNat < 0x10000
    rw [UInt16.toNat_ofNat']
    omega
  rw [ofBitmap, hBorder _ hColumns, hBorder _ hRows, hPoints,
    Checked.subSize_eq_ok_iff.2 ⟨hWidth, rfl⟩, Checked.subSize_eq_ok_iff.2 ⟨hHeight, rfl⟩]
  exact ⟨_, rfl⟩

end Scene

namespace Bitmap

/-- On every screen with a bit for each pixel, whatever is on it, drawing yields a point for each
lit pixel exactly once and no other points, in strictly falling order of their positions. There are
as many as there are lit pixels, they lie within the bounds of the picture, and they determine the
screen. -/
theorem points_are_lit {b blankScreen : Bitmap} (hWidth : 0 < b.width) (hHeight : 0 < b.height)
    (hBits : 8 ∣ b.width * b.height) (hMade : blank b.width b.height = .ok blankScreen) :
    ∃ points, b.points = .ok points ∧
      (∀ x < b.width, ∀ y < b.height,
        points.count ((x : Int), -(y : Int)) = if b.get x y = .ok true then 1 else 0) ∧
      (∀ p ∈ points, ∃ x y : Nat, x < b.width ∧ y < b.height ∧ b.get x y = .ok true ∧
        p = ((x : Int), -(y : Int))) ∧
      points.Pairwise (fun p q => -q.2 * (b.width : Int) + q.1 < -p.2 * (b.width : Int) + p.1) ∧
      points.length = b.lit ∧
      (∀ p ∈ points, 0 ≤ p.1 ∧ p.1 ≤ (b.width - 1 : Nat) ∧
        -((b.height - 1 : Nat) : Int) ≤ p.2 ∧ p.2 ≤ 0) ∧
      (∀ scene, Scene.ofBitmap b = .ok scene → scene.points = points ∧
        scene.xBounds = (0, ((b.width - 1 : Nat) : Int)) ∧
        scene.yBounds = (-((b.height - 1 : Nat) : Int), 0)) ∧
      (b.width % 0x10000 < 0xFFFE → b.height % 0x10000 < 0xFFFE →
        ∃ scene, Scene.ofBitmap b = .ok scene) ∧
      ∀ b', b'.width = b.width → b'.height = b.height →
        (b'.points = .ok points ↔ b' = b) := by
  obtain ⟨hCount, -⟩ := blank_eq_ok_iff.1 hMade
  have h : b.Whole := whole_of_dvd hWidth hHeight hCount hBits
  obtain ⟨points, hPoints⟩ : ∃ points, b.points = .ok points := ⟨_, h.points_eq hCount⟩
  have hLit := fun p hp => (h.mem_points_iff hCount hPoints (p := p)).1 hp
  refine ⟨points, hPoints, ?_, hLit, h.points_falling hCount hPoints,
    h.length_points hCount hPoints, fun p hp => (hLit p hp).bounds, ?_, ?_, ?_⟩
  · exact fun x hx y hy => h.count_points hCount hPoints hx hy
  · intro scene hScene
    obtain ⟨hSame, hX, hY⟩ := Scene.eq_of_ofBitmap hScene
    exact ⟨Except.ok.inj (hSame.symm.trans hPoints), hX, hY⟩
  · exact Scene.exists_of_points hPoints hWidth hHeight
  · intro b' hWidth' hHeight'
    constructor
    · intro hPoints'
      exact (h.eq_of_points hCount hPoints hWidth' hHeight' hPoints').symm
    · rintro rfl
      exact hPoints

/-- Two rows of twelve pixels share a byte; the four corners are lit. -/
theorem points_are_lit_shared :
    ∃ b blankScreen : Bitmap, 0 < b.width ∧ 0 < b.height ∧ 8 ∣ b.width * b.height ∧
      blank b.width b.height = .ok blankScreen ∧
      b.points = .ok [(11, -1), (0, -1), (11, 0), (0, 0)] ∧ b.lit = 4 ∧
      b.get 0 1 = .ok true := by
  let b : Bitmap := ⟨12, 2, #[0x80, 0x18, 0x01], rfl⟩
  have hBits : 8 ∣ b.width * b.height := by decide
  have hMade : blank b.width b.height = .ok (dark 12 2) := rfl
  have hList : b.points = .ok [(11, -1), (0, -1), (11, 0), (0, 0)] := by decide +kernel
  obtain ⟨points, hPoints, hCount, -, -, hLength, -⟩ :=
    points_are_lit (by decide : 0 < b.width) (by decide : 0 < b.height) hBits hMade
  obtain rfl := Except.ok.inj (hPoints.symm.trans hList)
  have hLit := hCount 0 (by decide) 1 (by decide)
  refine ⟨b, _, by decide, by decide, hBits, hMade, hList, hLength.symm, ?_⟩
  by_contra hNot
  rw [if_neg hNot] at hLit
  exact absurd hLit (by decide)

end Bitmap

end Chip8
