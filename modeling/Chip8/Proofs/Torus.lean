import Mathlib.Data.Nat.Bitwise
import Mathlib.Tactic
import Chip8.Screen.Bitmap
import Chip8.Sprite

/-!
# Bitmaps as tori of pixels

`Bitmap.isLit` is the view of a bitmap that the theory uses: a Boolean at every position. A bitmap
is whole if every pixel has a bit; then reading and flipping a pixel never abort, and they are
reading and flipping the Boolean at its position. `Bitmap.flipAll` flips a list of positions: a bit
ends up changed when its position occurs an odd number of times.
-/

namespace Chip8

namespace Sprite

theorem toNat_columnMask {col : Nat} (h : col < width) :
    (0x80 >>> UInt8.ofNat col).toNat = 2 ^ (7 - col) := by
  have hAll : ∀ col < 8, (0x80 >>> UInt8.ofNat col).toNat = 2 ^ (7 - col) := by decide
  exact hAll col h

theorem isSet_eq_testBit (row : UInt8) {col : Nat} (h : col < width) :
    isSet row col = row.toNat.testBit (7 - col) := by
  have hBit : row &&& (0x80 >>> UInt8.ofNat col) = 0 ↔ row.toNat.testBit (7 - col) = false := by
    rw [← UInt8.toNat_inj, UInt8.toNat_and, toNat_columnMask h, Nat.and_two_pow]
    cases row.toNat.testBit (7 - col) with
    | false => simp
    | true => simp
  rw [isSet]
  cases hTest : row.toNat.testBit (7 - col) with
  | false =>
      rw [hBit.2 hTest]
      rfl
  | true =>
      rw [bne_iff_ne]
      intro hZero
      rw [hBit.1 hZero] at hTest
      cases hTest

/-- A column shifted down to the last place tells whether it is set. -/
theorem shifted_eq (row : UInt8) {col : Nat} (h : col < width) :
    1 &&& (row >>> UInt8.ofNat (7 - col)) = if isSet row col then 1 else 0 := by
  have hShift : ∀ col < 8, (UInt8.ofNat (7 - col)).toNat % 8 = 7 - col := by decide
  rw [isSet_eq_testBit _ h, ← UInt8.toNat_inj, UInt8.toNat_and, UInt8.toNat_shiftRight,
    hShift col h, Nat.testBit]
  change 1 &&& (row.toNat >>> (7 - col)) = _
  have hBit := Nat.one_and_eq_mod_two (row.toNat >>> (7 - col))
  rcases Nat.mod_two_eq_zero_or_one (row.toNat >>> (7 - col)) with hZero | hOne
  · rw [hBit, hZero]
    rfl
  · rw [hBit, hOne]
    rfl

theorem isSet_zero {col : Nat} (h : col < width) : isSet 0 col = false := by
  rw [isSet_eq_testBit _ h]
  exact Nat.zero_testBit _

/-- Flipping one column of a row. -/
theorem isSet_xor_columnMask (row : UInt8) {flipped col : Nat} (hFlipped : flipped < width)
    (hCol : col < width) :
    isSet (row ^^^ (0x80 >>> UInt8.ofNat flipped)) col =
      (isSet row col ^^ decide (col = flipped)) := by
  have hSame : 7 - flipped = 7 - col ↔ col = flipped := by
    unfold width at hFlipped hCol
    omega
  rw [isSet_eq_testBit _ hCol, isSet_eq_testBit _ hCol, UInt8.toNat_xor,
    toNat_columnMask hFlipped, Nat.testBit_xor, Nat.testBit_two_pow, decide_eq_decide.2 hSame]

/-- A row is what its columns are. -/
theorem eq_of_isSet {row row' : UInt8} (h : ∀ col < width, isSet row col = isSet row' col) :
    row = row' := by
  rw [← UInt8.toNat_inj]
  apply Nat.eq_of_testBit_eq
  intro k
  by_cases hk : k < 8
  · have hCol : 7 - k < width := by
      unfold width
      omega
    have hBit := h (7 - k) hCol
    rwa [isSet_eq_testBit _ hCol, isSet_eq_testBit _ hCol, show 7 - (7 - k) = k by omega] at hBit
  · have hLarge : 2 ^ 8 ≤ 2 ^ k := Nat.pow_le_pow_right (by decide) (Nat.not_lt.1 hk)
    rw [Nat.testBit_lt_two_pow (row.toNat_lt.trans_le hLarge),
      Nat.testBit_lt_two_pow (row'.toNat_lt.trans_le hLarge)]

end Sprite

namespace Bitmap

/-- A blank screen is a dark one whose pixels can be counted. -/
theorem blank_eq_ok_iff {width height : Nat} {b : Bitmap} :
    blank width height = .ok b ↔
      width * height < Checked.sizeLimit ∧ b = dark width height := by
  rw [blank, Resolution.byteCount, Resolution.pixelCount]
  by_cases hCount : width * height < Checked.sizeLimit
  · have hBits : width * height * 1 < Checked.sizeLimit := by rwa [Nat.mul_one]
    rw [Checked.mulSize_of_lt hCount]
    change (Checked.mulSize (width * height) 1 >>= _) >>= _ = _ ↔ _
    rw [Checked.mulSize_of_lt hBits]
    change Except.ok (dark width height) = .ok b ↔ _
    rw [Except.ok.injEq, eq_comm]
    exact (and_iff_right hCount).symm
  · have hOverflow : Checked.mulSize width height = .error .overflow := if_neg hCount
    rw [hOverflow]
    exact iff_of_false (fun h => nomatch h) fun h => hCount h.1

/-- Whether the bit at position `k` is set; a position without a bit counts as dark. -/
def isLit (b : Bitmap) (k : Nat) : Bool :=
  Sprite.isSet (b.bytes.getD (k / 8) 0) (k % 8)

/-- The position of a pixel on the torus, counted row after row. -/
def index (b : Bitmap) (x y : Nat) : Nat :=
  y % b.height * b.width + x % b.width

/-- The bitmap with the bits at the given positions flipped, one after the other. -/
def flipAll (b : Bitmap) (ks : List Nat) : Bitmap :=
  ks.foldl flip b

/-- Whether one of the positions is lit when its turn to be flipped comes. -/
def meetsLit (b : Bitmap) : List Nat → Bool
  | [] => false
  | k :: rest => b.isLit k || (b.flip k).meetsLit rest

theorem bit_eq_isLit {b : Bitmap} {k : Nat} (h : k / 8 < b.bytes.size) :
    b.bit k = .ok (b.isLit k) := by
  rw [bit, dif_pos h, isLit, Array.getD_eq_getD_getElem?, Array.getElem?_eq_getElem h]
  rfl

/-- Reading a pixel reads the bit at its position. -/
theorem get_of_position {b : Bitmap} {x y k : Nat} (hPosition : b.position x y = .ok k)
    (hInside : k / 8 < b.bytes.size) : b.get x y = .ok (b.isLit k) := by
  rw [get, hPosition]
  exact bit_eq_isLit hInside

/-- Toggling a pixel flips the bit at its position. -/
theorem toggle_of_position {b : Bitmap} {x y k : Nat} (hPosition : b.position x y = .ok k)
    (hInside : k / 8 < b.bytes.size) : b.toggle x y = .ok (b.isLit k, b.flip k) := by
  rw [toggle, hPosition]
  change (b.bit k >>= _) = _
  rw [bit_eq_isLit hInside]
  rfl

/-- The set bits of a list of bytes, counted byte after byte or position after position. -/
theorem foldr_popCount (rows : List UInt8) :
    (rows.map popCount).foldr (· + ·) 0 =
      (List.range (8 * rows.length)).countP fun k =>
        Sprite.isSet (rows.getD (k / 8) 0) (k % 8) := by
  induction rows with
  | nil => rfl
  | cons row rest ih =>
      have hFirst : (List.range 8).countP
            (fun k => Sprite.isSet ((row :: rest).getD (k / 8) 0) (k % 8)) =
          popCount row := by
        refine List.countP_congr fun k hk => ?_
        have hColumn : k < 8 := List.mem_range.1 hk
        rw [Nat.div_eq_of_lt hColumn, mask, Sprite.isSet, List.getD_cons_zero]
      have hRest : (fun k => Sprite.isSet ((row :: rest).getD (k / 8) 0) (k % 8)) ∘ (8 + ·) =
          fun k => Sprite.isSet (rest.getD (k / 8) 0) (k % 8) := by
        funext k
        change Sprite.isSet ((row :: rest).getD ((8 + k) / 8) 0) ((8 + k) % 8) = _
        rw [Nat.add_div_left k (by decide), Nat.add_mod_left, List.getD_cons_succ]
      rw [List.length_cons, Nat.mul_succ, Nat.add_comm, List.range_add, List.countP_append, hFirst,
        List.countP_map, hRest, List.map_cons, List.foldr_cons, ih]

theorem lit_eq_countP (b : Bitmap) :
    b.lit = (List.range (8 * b.bytes.size)).countP b.isLit := by
  rw [lit, foldr_popCount, Array.length_toList]
  refine List.countP_congr fun k _ => ?_
  rw [isLit, Array.getD_eq_getD_getElem?, List.getD_eq_getElem?_getD, Array.getElem?_toList]

theorem shiftedBit_eq {b : Bitmap} {k : Nat} (h : k / 8 < b.bytes.size) :
    b.shiftedBit k = .ok (if b.isLit k then 1 else 0) := by
  have hColumn : k % 8 < Sprite.width := Nat.mod_lt k (by decide)
  rw [shiftedBit, dif_pos h, Sprite.shifted_eq _ hColumn, isLit, Array.getD_eq_getD_getElem?,
    Array.getElem?_eq_getElem h]
  rfl

/-- A position without a bit is dark. -/
theorem isLit_of_size_le {b : Bitmap} {k : Nat} (h : b.bytes.size ≤ k / 8) :
    b.isLit k = false := by
  rw [isLit, Array.getD_eq_getD_getElem?, Array.getElem?_eq_none h]
  exact Sprite.isSet_zero (Nat.mod_lt k (by decide))

theorem isLit_dark (width height k : Nat) : (dark width height).isLit k = false := by
  have hZero : (dark width height).bytes.getD (k / 8) 0 = 0 := by
    rw [dark, Array.getD_eq_getD_getElem?, Array.getElem?_replicate]
    split
    · rfl
    · rfl
  rw [isLit, hZero]
  exact Sprite.isSet_zero (Nat.mod_lt k (by decide))

/-! Positions and pixels. -/

theorem index_mod_width (b : Bitmap) (x y : Nat) : b.index x y % b.width = x % b.width := by
  rw [index, Nat.mul_comm, Nat.mul_add_mod, Nat.mod_mod]

theorem index_div_width {b : Bitmap} (hWidth : 0 < b.width) (x y : Nat) :
    b.index x y / b.width = y % b.height := by
  rw [index, Nat.mul_comm, Nat.mul_add_div hWidth, Nat.div_eq_of_lt (Nat.mod_lt x hWidth),
    Nat.add_zero]

/-- Two pixels have one position when they are the same pixel of the torus. -/
theorem index_eq_iff {b : Bitmap} (hWidth : 0 < b.width) {x y x' y' : Nat} :
    b.index x y = b.index x' y' ↔ x % b.width = x' % b.width ∧ y % b.height = y' % b.height := by
  constructor
  · intro h
    exact ⟨by rw [← index_mod_width b x y, h, index_mod_width],
      by rw [← index_div_width hWidth x y, h, index_div_width hWidth]⟩
  · rintro ⟨hx, hy⟩
    rw [index, index, hx, hy]

theorem index_lt {b : Bitmap} (hWidth : 0 < b.width) (hHeight : 0 < b.height) (x y : Nat) :
    b.index x y < b.width * b.height := by
  rw [Nat.mul_comm]
  exact rowMajor_lt hWidth hHeight x y

/-- Where pixels can be counted, every pixel has a position. -/
theorem position_eq_index {b : Bitmap} (hWidth : 0 < b.width) (hHeight : 0 < b.height)
    (hCount : b.height * b.width ≤ Checked.sizeLimit) (x y : Nat) :
    b.position x y = .ok (b.index x y) := by
  rw [position, if_neg (by omega)]
  exact Checked.size_eq_ok_iff.2 ⟨rfl, (rowMajor_lt hWidth hHeight x y).trans_le hCount⟩

/-- A position is that of the pixel in its column and row. -/
theorem index_of_position {b : Bitmap} {k : Nat} (hk : k < b.width * b.height) :
    b.index (k % b.width) (k / b.width) = k := by
  have hWidth : 0 < b.width := Nat.pos_of_mul_pos_right (Nat.zero_lt_of_lt hk)
  have hRow : k / b.width < b.height := Nat.div_lt_of_lt_mul hk
  rw [index, Nat.mod_mod, Nat.mod_eq_of_lt hRow]
  exact Nat.div_add_mod' k b.width

theorem exists_index {b : Bitmap} {k : Nat} (hk : k < b.width * b.height) :
    ∃ x y, x < b.width ∧ y < b.height ∧ b.index x y = k := by
  have hWidth : 0 < b.width := Nat.pos_of_mul_pos_right (Nat.zero_lt_of_lt hk)
  exact ⟨_, _, Nat.mod_lt k hWidth, Nat.div_lt_of_lt_mul hk, index_of_position hk⟩

@[simp]
theorem width_flip (b : Bitmap) (k : Nat) : (b.flip k).width = b.width := rfl

@[simp]
theorem height_flip (b : Bitmap) (k : Nat) : (b.flip k).height = b.height := rfl

@[simp]
theorem size_flip (b : Bitmap) (k : Nat) : (b.flip k).bytes.size = b.bytes.size :=
  Array.size_modify

/-- A flip changes one position. -/
theorem isLit_flip {b : Bitmap} {k : Nat} (hInside : k / 8 < b.bytes.size) (j : Nat) :
    (b.flip k).isLit j = (b.isLit j ^^ decide (j = k)) := by
  have hColumn (n : Nat) : n % 8 < Sprite.width := Nat.mod_lt n (by decide)
  have hByte : (b.flip k).bytes.getD (j / 8) 0 =
      if k / 8 = j / 8 then b.bytes.getD (j / 8) 0 ^^^ mask k else b.bytes.getD (j / 8) 0 := by
    simp only [flip, Array.getD_eq_getD_getElem?, Array.getElem?_modify]
    split
    · rename_i hSame
      rw [← hSame, Array.getElem?_eq_getElem hInside]
      rfl
    · rfl
  rw [isLit, isLit, hByte]
  by_cases hSame : k / 8 = j / 8
  · have hPosition : j % 8 = k % 8 ↔ j = k := by omega
    rw [if_pos hSame, mask, Sprite.isSet_xor_columnMask _ (hColumn k) (hColumn j),
      decide_eq_decide.2 hPosition]
  · have hOther : j ≠ k := fun h => hSame (congrArg (· / 8) h.symm)
    rw [if_neg hSame, decide_eq_false hOther, Bool.xor_false]

/-- Bitmaps of one geometry that are lit at the same positions are the same. -/
theorem eq_of_isLit {b b' : Bitmap} (hWidth : b.width = b'.width) (hHeight : b.height = b'.height)
    (h : ∀ k, b.isLit k = b'.isLit k) : b = b' := by
  obtain ⟨width, height, bytes, hSize⟩ := b
  obtain ⟨width', height', bytes', hSize'⟩ := b'
  obtain rfl : width = width' := hWidth
  obtain rfl : height = height' := hHeight
  have hBytes : bytes = bytes' := by
    apply Array.ext (hSize.trans hSize'.symm)
    intro k hk hk'
    apply Sprite.eq_of_isSet
    intro col hCol
    have hBit := h (8 * k + col)
    have hCol : col < 8 := hCol
    rw [isLit, isLit, show (8 * k + col) / 8 = k by omega,
      show (8 * k + col) % 8 = col by omega] at hBit
    simpa [hk, hk'] using hBit
  subst hBytes
  rfl

@[simp]
theorem flipAll_cons (b : Bitmap) (k : Nat) (rest : List Nat) :
    b.flipAll (k :: rest) = (b.flip k).flipAll rest := rfl

@[simp]
theorem width_flipAll (b : Bitmap) (ks : List Nat) : (b.flipAll ks).width = b.width := by
  induction ks generalizing b with
  | nil => rfl
  | cons k rest ih => rw [flipAll_cons, ih, width_flip]

@[simp]
theorem height_flipAll (b : Bitmap) (ks : List Nat) : (b.flipAll ks).height = b.height := by
  induction ks generalizing b with
  | nil => rfl
  | cons k rest ih => rw [flipAll_cons, ih, height_flip]

@[simp]
theorem size_flipAll (b : Bitmap) (ks : List Nat) :
    (b.flipAll ks).bytes.size = b.bytes.size := by
  rw [(b.flipAll ks).size_bytes, b.size_bytes, width_flipAll, height_flipAll]

@[simp]
theorem index_flipAll (b : Bitmap) (ks : List Nat) (x y : Nat) :
    (b.flipAll ks).index x y = b.index x y := by
  rw [index, index, width_flipAll, height_flipAll]

/-- A position that occurs an odd number of times has changed. -/
theorem isLit_flipAll {b : Bitmap} {ks : List Nat} (hInside : ∀ k ∈ ks, k / 8 < b.bytes.size)
    (j : Nat) : (b.flipAll ks).isLit j = (b.isLit j ^^ decide (ks.count j % 2 = 1)) := by
  induction ks generalizing b with
  | nil => exact (Bool.xor_false _).symm
  | cons k rest ih =>
      have hHead := hInside k List.mem_cons_self
      have hRest : ∀ k' ∈ rest, k' / 8 < (b.flip k).bytes.size := by
        intro k' hk'
        rw [size_flip]
        exact hInside k' (List.mem_cons_of_mem k hk')
      rw [flipAll_cons, ih hRest, isLit_flip hHead, Bool.xor_assoc]
      congr 1
      by_cases hSame : j = k
      · subst hSame
        rw [List.count_cons_self, decide_eq_true rfl, Bool.true_xor, ← decide_not]
        exact decide_eq_decide.2 (by omega)
      · rw [List.count_cons_of_ne (Ne.symm hSame), decide_eq_false hSame, Bool.false_xor]

theorem isLit_flipAll_of_nodup {b : Bitmap} {ks : List Nat}
    (hInside : ∀ k ∈ ks, k / 8 < b.bytes.size) (hNodup : ks.Nodup) (j : Nat) :
    (b.flipAll ks).isLit j = (b.isLit j ^^ decide (j ∈ ks)) := by
  rw [isLit_flipAll hInside]
  congr 1
  by_cases hj : j ∈ ks
  · rw [List.count_eq_one_of_mem hNodup hj, decide_eq_true hj]
    rfl
  · rw [List.count_eq_zero_of_not_mem hj, decide_eq_false hj]
    rfl

/-- Positions that are flipped only once are met as they were before. -/
theorem meetsLit_iff_of_nodup {b : Bitmap} {ks : List Nat}
    (hInside : ∀ k ∈ ks, k / 8 < b.bytes.size) (hNodup : ks.Nodup) :
    b.meetsLit ks = true ↔ ∃ k ∈ ks, b.isLit k = true := by
  induction ks generalizing b with
  | nil => simp [meetsLit]
  | cons k rest ih =>
      obtain ⟨hNew, hRest⟩ := List.nodup_cons.1 hNodup
      have hHead := hInside k List.mem_cons_self
      have hTail : ∀ k' ∈ rest, k' / 8 < (b.flip k).bytes.size := by
        intro k' hk'
        rw [size_flip]
        exact hInside k' (List.mem_cons_of_mem k hk')
      have hUntouched : ∀ k' ∈ rest, (b.flip k).isLit k' = b.isLit k' := by
        intro k' hk'
        have hOther : k' ≠ k := fun h => hNew (h ▸ hk')
        rw [isLit_flip hHead, decide_eq_false hOther, Bool.xor_false]
      rw [meetsLit, Bool.or_eq_true, ih hTail hRest, List.exists_mem_cons_iff]
      apply or_congr_right
      exact exists_congr fun k' => and_congr_right fun hk' => by rw [hUntouched k' hk']

/-- A bitmap with a bit for every pixel, and not too many of them to count. -/
structure Whole (b : Bitmap) : Prop where
  width : 0 < b.width
  height : 0 < b.height
  bits : 8 ∣ b.width * b.height
  count : b.height * b.width ≤ Checked.sizeLimit

namespace Whole

variable {b : Bitmap}

theorem congr (h : b.Whole) {b' : Bitmap} (hWidth : b'.width = b.width)
    (hHeight : b'.height = b.height) : b'.Whole := by
  constructor
  · exact hWidth ▸ h.width
  · exact hHeight ▸ h.height
  · exact hWidth ▸ hHeight ▸ h.bits
  · exact hWidth ▸ hHeight ▸ h.count

theorem flipAll (h : b.Whole) (ks : List Nat) : (b.flipAll ks).Whole :=
  h.congr (width_flipAll b ks) (height_flipAll b ks)

theorem position_eq (h : b.Whole) (x y : Nat) : b.position x y = .ok (b.index x y) :=
  position_eq_index h.width h.height h.count x y

theorem eight_mul_size (h : b.Whole) : 8 * b.bytes.size = b.width * b.height := by
  rw [b.size_bytes]
  exact Nat.mul_div_cancel' h.bits

/-- Every pixel has a bit. -/
theorem index_inside (h : b.Whole) (x y : Nat) : b.index x y / 8 < b.bytes.size := by
  have hPixel := index_lt h.width h.height x y
  have hBits := h.eight_mul_size
  omega

theorem get_eq (h : b.Whole) (x y : Nat) : b.get x y = .ok (b.isLit (b.index x y)) :=
  get_of_position (h.position_eq x y) (h.index_inside x y)

/-- Every pixel can be flipped. -/
theorem toggle_eq (h : b.Whole) (x y : Nat) :
    b.toggle x y = .ok (b.isLit (b.index x y), b.flip (b.index x y)) :=
  toggle_of_position (h.position_eq x y) (h.index_inside x y)

/-- A whole bitmap is what its pixels are. -/
theorem eq_of_get (h : b.Whole) {b' : Bitmap} (hWidth : b'.width = b.width)
    (hHeight : b'.height = b.height)
    (hGet : ∀ x < b.width, ∀ y < b.height, b.get x y = b'.get x y) : b = b' := by
  have h' : b'.Whole := h.congr hWidth hHeight
  apply eq_of_isLit hWidth.symm hHeight.symm
  intro k
  by_cases hk : k < b.width * b.height
  · obtain ⟨x, y, hx, hy, rfl⟩ := exists_index hk
    have hSame : b'.index x y = b.index x y := by rw [index, index, hWidth, hHeight]
    have hPixel := hGet x hx y hy
    rw [h.get_eq, h'.get_eq, hSame] at hPixel
    exact Except.ok.inj hPixel
  · have hBits := h.eight_mul_size
    have hBits' := h'.eight_mul_size
    rw [hWidth, hHeight] at hBits'
    rw [isLit_of_size_le (by omega), isLit_of_size_le (by omega)]

end Whole

theorem whole_of_dvd {b : Bitmap} (hWidth : 0 < b.width) (hHeight : 0 < b.height)
    (hCount : b.width * b.height < Checked.sizeLimit) (hBits : 8 ∣ b.width * b.height) :
    b.Whole where
  width := hWidth
  height := hHeight
  bits := hBits
  count := Nat.mul_comm b.width b.height ▸ hCount.le

theorem whole_standard : standard.Whole where
  width := by decide
  height := by decide
  bits := by decide
  count := by decide

/-- The screen that programs draw on has a bit for every pixel. -/
theorem whole_of_standard {b : Bitmap} (hWidth : b.width = 64) (hHeight : b.height = 32) :
    b.Whole :=
  whole_standard.congr hWidth hHeight

end Bitmap

end Chip8
