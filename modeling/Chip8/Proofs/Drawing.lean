import Mathlib.Tactic
import Chip8.Device.Keypad
import Chip8.Proofs.NoAbort

/-!
# Sprites on the screen of a board

The cells of a sprite lie on different pixels, because a sprite is smaller than the screen. So a
drawing flips each of these pixels once, the flag tells whether one of them was lit before, and
drawing the same sprite once more undoes all of it.
-/

namespace Chip8

namespace Sprite

/-- No cell of a sprite is drawn twice. -/
theorem nodup_cellsFrom (first : Nat) (rows : List UInt8) : (cellsFrom first rows).Nodup := by
  induction rows generalizing first with
  | nil => exact List.nodup_nil
  | cons row rest ih =>
      rw [cellsFrom, List.nodup_append]
      refine ⟨?_, ih (first + 1), ?_⟩
      · apply List.Nodup.map
        · exact fun col col' h => (Prod.mk.inj h).1
        · exact List.nodup_range.filter _
      · rintro cell hRow cell' hRest rfl
        obtain ⟨col, -, rfl⟩ := List.mem_map.1 hRow
        obtain ⟨-, hLater, -⟩ := mem_cellsFrom.1 hRest
        exact absurd hLater (Nat.not_succ_le_self first)

end Sprite

theorem Operation.ofDigits?_of_family_draw {d : Digits} (h : d.family = 0xD) :
    ofDigits? d = some .draw := by
  obtain ⟨family, x, y, n⟩ := d
  obtain rfl : family = 0xD := h
  rfl

namespace Bitmap

/-- The positions on which the cells of a sprite with its corner at `(x, y)` come to lie. -/
def placed (b : Bitmap) (x y : Nat) (cells : List (Nat × Nat)) : List Nat :=
  cells.map fun cell => b.index (x + cell.1) (y + cell.2)

theorem mem_placed_iff {b : Bitmap} (hWidth : 0 < b.width) {x y px py : Nat}
    {cells : List (Nat × Nat)} :
    b.index px py ∈ b.placed x y cells ↔
      ∃ cell ∈ cells, (x + cell.1) % b.width = px % b.width ∧
        (y + cell.2) % b.height = py % b.height := by
  simp only [placed, List.mem_map, index_eq_iff hWidth]

/-- Cells that are less than the screen apart lie on different pixels. -/
theorem nodup_placed {b : Bitmap} (hWidth : 0 < b.width) {cells : List (Nat × Nat)}
    (hCells : ∀ cell ∈ cells, cell.1 < b.width ∧ cell.2 < b.height) (hNodup : cells.Nodup)
    (x y : Nat) : (b.placed x y cells).Nodup := by
  refine List.Nodup.map_on ?_ hNodup
  intro cell hCell cell' hCell' hSame
  obtain ⟨hColumn, hRow⟩ := (index_eq_iff hWidth).1 hSame
  have hx : cell.1 ≡ cell'.1 [MOD b.width] := Nat.ModEq.add_left_cancel' x hColumn
  have hy : cell.2 ≡ cell'.2 [MOD b.height] := Nat.ModEq.add_left_cancel' y hRow
  obtain ⟨hLeft, hTop⟩ := hCells cell hCell
  obtain ⟨hLeft', hTop'⟩ := hCells cell' hCell'
  exact Prod.ext (hx.eq_of_lt_of_lt hLeft hLeft') (hy.eq_of_lt_of_lt hTop hTop')

theorem Whole.placed_inside {b : Bitmap} (h : b.Whole) {x y : Nat} {cells : List (Nat × Nat)} :
    ∀ k ∈ b.placed x y cells, k / 8 < b.bytes.size := by
  intro k hk
  obtain ⟨cell, -, rfl⟩ := List.mem_map.1 hk
  exact h.index_inside _ _

/-- Flipping the same positions once more undoes it. -/
theorem flipAll_flipAll {b : Bitmap} {ks : List Nat} (hInside : ∀ k ∈ ks, k / 8 < b.bytes.size) :
    (b.flipAll ks).flipAll ks = b := by
  apply eq_of_isLit
  · rw [width_flipAll, width_flipAll]
  · rw [height_flipAll, height_flipAll]
  · intro k
    rw [isLit_flipAll (fun k hk => (size_flipAll b ks).symm ▸ hInside k hk), isLit_flipAll hInside,
      Bool.xor_assoc, Bool.xor_self, Bool.xor_false]

/-- Positions that were flipped once are met lit where they were dark before. -/
theorem meetsLit_flipAll_iff_of_nodup {b : Bitmap} {ks : List Nat}
    (hInside : ∀ k ∈ ks, k / 8 < b.bytes.size) (hNodup : ks.Nodup) :
    (b.flipAll ks).meetsLit ks = true ↔ ∃ k ∈ ks, b.isLit k = false := by
  rw [meetsLit_iff_of_nodup (fun k hk => (size_flipAll b ks).symm ▸ hInside k hk) hNodup]
  refine exists_congr fun k => and_congr_right fun hk => ?_
  rw [isLit_flipAll_of_nodup hInside hNodup, decide_eq_true hk, Bool.xor_true, Bool.not_eq_true']

end Bitmap

theorem toUInt8_eq_zero_or_one (on : Bool) : on.toUInt8 = 0 ∨ on.toUInt8 = 1 := by
  cases on with
  | false => exact Or.inl rfl
  | true => exact Or.inr rfl

theorem toUInt8_eq_one_iff {on : Bool} : on.toUInt8 = 1 ↔ on = true := by
  revert on
  decide

theorem Registers.reg_setReg_of_ne (r : Registers) {x y : Fin 16} (h : x ≠ y) (value : UInt8) :
    (r.setReg x value).reg y = r.reg y := by
  rw [reg_setReg, if_neg h]

/-- The registers `r'` are `r` after an instruction that leaves a flag in `VF`: the program counter
is at the next instruction, or at the last address, and nothing else is different. -/
structure Registers.Flagged (r : Registers) (flag : UInt8) (r' : Registers) : Prop where
  flag : r'.reg 0xF = flag
  others : ∀ x, x ≠ 0xF → r'.reg x = r.reg x
  i : r'.i = r.i
  pc : r'.pc.toNat = min (r.pc.toNat + 2) 0xFFFF
  programEnd : r'.programEnd = r.programEnd
  delayTimer : r'.delayTimer = r.delayTimer
  soundTimer : r'.soundTimer = r.soundTimer

theorem Registers.flagged_setReg (r : Registers) (flag : UInt8) :
    r.Flagged flag { r.setReg 0xF flag with pc := nextAddress r.pc } where
  flag := r.reg_setReg_self _ _
  others _ hx := r.reg_setReg_of_ne (Ne.symm hx) _
  i := rfl
  pc := toNat_nextAddress _
  programEnd := rfl
  delayTimer := rfl
  soundTimer := rfl

/-- On a board with a whole bitmap, painting flips the positions of the cells. -/
theorem Board.paint_eq {δ κ : Type} [KeySource κ] {x y : Nat} {p : Painting (Board δ κ)}
    (hWhole : p.device.screen.Whole) (cells : List (Nat × Nat))
    (hCells : ∀ cell ∈ cells, x + cell.1 < Checked.sizeLimit ∧ y + cell.2 < Checked.sizeLimit) :
    Painting.paint x y p cells =
      ({ p with
          device := { p.device with
            screen := p.device.screen.flipAll (p.device.screen.placed x y cells) }
          collision := p.collision || p.device.screen.meetsLit (p.device.screen.placed x y cells) },
        .ok ()) := by
  induction cells generalizing p with
  | nil =>
      obtain ⟨device, notices, collision, failure⟩ := p
      simp only [Painting.paint, Bitmap.placed, List.map_nil, Bitmap.meetsLit, Bool.or_false]
      rfl
  | cons cell rest ih =>
      obtain ⟨hx, hy⟩ := hCells cell List.mem_cons_self
      have hRest := fun c hc => hCells c (List.mem_cons_of_mem cell hc)
      simp only [Painting.paint, Sprite.place_of_lt hx hy, toggle_of_whole hWhole, Reply.value]
      refine Eq.trans (ih ?_ hRest) ?_
      · exact hWhole.congr rfl rfl
      · simp only [Array.append_empty, Bitmap.placed, List.map_cons, Bitmap.flipAll_cons,
          Bitmap.meetsLit, Bool.or_assoc]
        rfl

namespace Machine

section Sprites

variable {σ : Type}

/-- The rows of the sprite of a height at `I`. -/
def spriteRows (m : Machine σ) (height : Nat) : List UInt8 :=
  (List.range height).map fun row => m.ram.cell (m.registers.i.toNat + row)

/-- Whether a set bit of the sprite of a height at `I` lies on the pixel `(px, py)` of a screen of
64 by 32 pixels that wraps around at its edges, when the corner of the sprite is at `(x, y)`. -/
def SpriteCovers (m : Machine σ) (x y height px py : Nat) : Prop :=
  ∃ row col, row < height ∧ col < 8 ∧
    (m.ram.cell (m.registers.i.toNat + row)).toNat.testBit (7 - col) = true ∧
    (x + col) % 64 = px ∧ (y + row) % 32 = py

theorem mem_cells_spriteRows {m : Machine σ} {height col row : Nat} :
    (col, row) ∈ Sprite.cells (m.spriteRows height) ↔
      row < height ∧ col < 8 ∧
        (m.ram.cell (m.registers.i.toNat + row)).toNat.testBit (7 - col) = true := by
  rw [Sprite.cells, Sprite.mem_cellsFrom, spriteRows, Nat.sub_zero, List.getElem?_map]
  constructor
  · rintro ⟨hCol, -, bits, hBits, hSet⟩
    obtain ⟨k, hk, rfl⟩ := Option.map_eq_some_iff.1 hBits
    obtain ⟨hRow, hk⟩ := List.getElem?_eq_some_iff.1 hk
    rw [List.getElem_range] at hk
    subst hk
    rw [List.length_range] at hRow
    rw [Sprite.isSet_eq_testBit _ hCol] at hSet
    exact ⟨hRow, hCol, hSet⟩
  · rintro ⟨hRow, hCol, hSet⟩
    refine ⟨hCol, Nat.zero_le _, m.ram.cell (m.registers.i.toNat + row), ?_, ?_⟩
    · rw [List.getElem?_range hRow]
      rfl
    · rw [Sprite.isSet_eq_testBit _ hCol]
      exact hSet

/-- The sprite covers the pixels on which one of its cells is placed. -/
theorem mem_placed_iff_covers {m : Machine σ} {b : Bitmap} (hWidth : b.width = 64)
    (hHeight : b.height = 32) {x y height px py : Nat} (hx : px < 64) (hy : py < 32) :
    b.index px py ∈ b.placed x y (Sprite.cells (m.spriteRows height)) ↔
      m.SpriteCovers x y height px py := by
  rw [Bitmap.mem_placed_iff (hWidth ▸ by decide), hWidth, hHeight, Nat.mod_eq_of_lt hx,
    Nat.mod_eq_of_lt hy]
  constructor
  · rintro ⟨⟨col, row⟩, hCell, hPlace⟩
    obtain ⟨hRow, hCol, hSet⟩ := mem_cells_spriteRows.1 hCell
    exact ⟨row, col, hRow, hCol, hSet, hPlace⟩
  · rintro ⟨row, col, hRow, hCol, hSet, hPlace⟩
    exact ⟨(col, row), mem_cells_spriteRows.2 ⟨hRow, hCol, hSet⟩, hPlace⟩

/-- What holds of some position that the sprite flips holds of some pixel that it covers. -/
theorem exists_placed_iff_covers {m : Machine σ} {b : Bitmap} (hWidth : b.width = 64)
    (hHeight : b.height = 32) {x y height : Nat} {p : Nat → Prop} :
    (∃ k ∈ b.placed x y (Sprite.cells (m.spriteRows height)), p k) ↔
      ∃ px py, m.SpriteCovers x y height px py ∧ p (b.index px py) := by
  constructor
  · rintro ⟨k, hk, hp⟩
    obtain ⟨⟨col, row⟩, -, rfl⟩ := List.mem_map.1 hk
    have hx : (x + col) % 64 < 64 := Nat.mod_lt _ (by decide)
    have hy : (y + row) % 32 < 32 := Nat.mod_lt _ (by decide)
    have hWrap : b.index (x + col) (y + row) = b.index ((x + col) % 64) ((y + row) % 32) := by
      rw [Bitmap.index_eq_iff (hWidth ▸ by decide), hWidth, hHeight, Nat.mod_mod, Nat.mod_mod]
      exact ⟨rfl, rfl⟩
    rw [hWrap] at hk hp
    exact ⟨_, _, (mem_placed_iff_covers hWidth hHeight hx hy).1 hk, hp⟩
  · rintro ⟨px, py, hCovers, hp⟩
    obtain ⟨row, col, -, -, -, hPx, hPy⟩ := id hCovers
    have hx : px < 64 := hPx ▸ Nat.mod_lt _ (by decide)
    have hy : py < 32 := hPy ▸ Nat.mod_lt _ (by decide)
    exact ⟨_, (mem_placed_iff_covers hWidth hHeight hx hy).2 hCovers, hp⟩

/-- A sprite of at most 32 rows never covers a pixel of the screen twice. -/
theorem nodup_placed_sprite (m : Machine σ) {b : Bitmap} (hWidth : b.width = 64)
    (hHeight : b.height = 32) {height : Nat} (hRows : height ≤ 32) (x y : Nat) :
    (b.placed x y (Sprite.cells (m.spriteRows height))).Nodup := by
  apply Bitmap.nodup_placed (hWidth ▸ by decide)
  · rintro ⟨col, row⟩ hCell
    obtain ⟨hRow, hCol, -⟩ := mem_cells_spriteRows.1 hCell
    rw [hWidth, hHeight]
    exact ⟨by omega, by omega⟩
  · exact Sprite.nodup_cellsFrom 0 _

end Sprites

variable {δ κ : Type}

/-- The positions that the drawing instruction `w` flips. -/
def drawnPositions (m : Machine (Board δ κ)) (w : Word) : List Nat :=
  m.device.screen.placed (m.registers.reg w.digits.x).toNat (m.registers.reg w.digits.y).toNat
    (Sprite.cells (m.spriteRows w.digits.n))

/-- The machine `again` is about to execute the drawing instruction `w` on what `m` sees: the same
memory, the same `I`, `VX` and `VY`, and the same screen. -/
structure DrawsAgain (m : Machine (Board δ κ)) (w : Word) (again : Machine (Board δ κ)) : Prop where
  word : again.nextWord? = some w
  ram : again.ram = m.ram
  i : again.registers.i = m.registers.i
  x : again.registers.reg w.digits.x = m.registers.reg w.digits.x
  y : again.registers.reg w.digits.y = m.registers.reg w.digits.y
  screen : again.device.screen = m.device.screen

/-- It is enough to set the program counter back to the instruction. -/
theorem drawsAgain_withPc {m : Machine (Board δ κ)} {w : Word} {pc : UInt16}
    (hWord : (m.withPc pc).nextWord? = some w) : m.DrawsAgain w (m.withPc pc) :=
  ⟨hWord, rfl, rfl, rfl, rfl, rfl⟩

variable [KeySource κ]

theorem drawSprite_board {m : Machine (Board δ κ)} (hWhole : m.device.screen.Whole)
    (x y : UInt8) {height : UInt8} (hFits : m.registers.i.toNat + height.toNat ≤ m.ram.capacity) :
    let ks := m.device.screen.placed x.toNat y.toNat (Sprite.cells (m.spriteRows height.toNat))
    (m.drawSprite x y height).machine =
        { m with
          registers := m.registers.setFlag (m.device.screen.meetsLit ks)
          device := { m.device with screen := m.device.screen.flipAll ks } } ∧
      (m.drawSprite x y height).result = .ok () := by
  cases hRead : m.ram.read m.registers.i.toNat height.toNat with
  | error fault => exact absurd hFits (Nat.not_le.2 (Ram.read_eq_error_iff.1 hRead).1)
  | ok rows =>
      have hRows : rows.toList = m.spriteRows height.toNat := (Ram.read_eq_ok_iff.1 hRead).2
      have hPaint := Board.paint_eq (x := x.toNat) (y := y.toNat) (p := { device := m.device })
        hWhole (Sprite.cells rows.toList) (sprite_fits hRead)
      obtain ⟨hMachine, hResult⟩ := drawSprite_painted hRead hPaint
      refine ⟨?_, hResult⟩
      rw [hMachine, hRows]
      rfl

/-- A step that draws on a board. -/
theorem step_draw {m : Machine (Board δ κ)} {w : Word} (hWhole : m.device.screen.Whole)
    (hWord : m.nextWord? = some w) (hDraw : w.digits.family = 0xD)
    (hFits : m.registers.i.toNat + w.digits.n ≤ m.ram.capacity) (patience : Nat) :
    (m.step patience).machine =
        { m with
          registers := { m.registers.setFlag (m.device.screen.meetsLit (m.drawnPositions w)) with
            pc := nextAddress m.registers.pc }
          device := { m.device with
            screen := m.device.screen.flipAll (m.drawnPositions w) } } ∧
      (m.step patience).result = .ok .running := by
  have hOp : m.nextOperation? = some .draw :=
    nextOperation?_eq_some_iff.2 ⟨w, hWord, Operation.ofDigits?_of_family_draw hDraw⟩
  obtain ⟨w', hWord', -, hMachine, hResult⟩ := step_of_nextOperation hOp patience
  obtain rfl : w = w' := Option.some.inj (hWord.symm.trans hWord')
  have hNibble := w.toNat_nibble
  have hInside : m.advanced.registers.i.toNat + w.nibble.toNat ≤ m.advanced.ram.capacity :=
    hNibble ▸ hFits
  obtain ⟨hDrawn, hOk⟩ := drawSprite_board (m := m.advanced) hWhole (m.registers.reg w.x)
    (m.registers.reg w.y) hInside
  rw [hNibble, w.x_eq, w.y_eq] at hDrawn
  constructor
  · rw [hMachine]
    apply Eq.trans _ hDrawn
    rw [← w.x_eq, ← w.y_eq]
    rfl
  · rw [hResult]
    change (m.advanced.drawSprite (m.registers.reg w.x) (m.registers.reg w.y) w.nibble).result.map _
      = _
    rw [hOk]
    rfl

/-- After a drawing instruction that does not name `VF`, the same instruction flips the same
positions back. -/
theorem step_draw_again {m again : Machine (Board δ κ)} {w : Word}
    (hWhole : m.device.screen.Whole) (hWord : m.nextWord? = some w)
    (hDraw : w.digits.family = 0xD) (hFits : m.registers.i.toNat + w.digits.n ≤ m.ram.capacity)
    (hX : w.digits.x ≠ 0xF) (hY : w.digits.y ≠ 0xF) {patience : Nat}
    (hAgain : (m.step patience).machine.DrawsAgain w again) (patience' : Nat) :
    (again.step patience').result = .ok .running ∧
      (again.step patience').machine.device.screen = m.device.screen ∧
      (again.step patience').machine.registers.reg 0xF =
        ((m.device.screen.flipAll (m.drawnPositions w)).meetsLit (m.drawnPositions w)).toUInt8 := by
  obtain ⟨hMachine, -⟩ := step_draw hWhole hWord hDraw hFits patience
  rw [hMachine] at hAgain
  have hScreen : again.device.screen = m.device.screen.flipAll (m.drawnPositions w) := hAgain.screen
  have hI : again.registers.i = m.registers.i := hAgain.i
  have hRam : again.ram = m.ram := hAgain.ram
  have hSameX : again.registers.reg w.digits.x = m.registers.reg w.digits.x :=
    hAgain.x.trans (Registers.reg_setReg_of_ne m.registers (Ne.symm hX) _)
  have hSameY : again.registers.reg w.digits.y = m.registers.reg w.digits.y :=
    hAgain.y.trans (Registers.reg_setReg_of_ne m.registers (Ne.symm hY) _)
  have hPositions : again.drawnPositions w = m.drawnPositions w := by
    have hRows : again.spriteRows w.digits.n = m.spriteRows w.digits.n := by
      rw [spriteRows, spriteRows, hRam, hI]
    rw [drawnPositions, drawnPositions, hSameX, hSameY, hRows, hScreen]
    simp only [Bitmap.placed, Bitmap.index_flipAll]
  have hAgainWhole : again.device.screen.Whole := hScreen ▸ hWhole.flipAll _
  obtain ⟨hAgainMachine, hAgainResult⟩ :=
    step_draw hAgainWhole hAgain.word hDraw (by rwa [hRam, hI]) patience'
  rw [hAgainMachine]
  refine ⟨hAgainResult, ?_, ?_⟩
  · change again.device.screen.flipAll (again.drawnPositions w) = _
    rw [hPositions, hScreen]
    exact Bitmap.flipAll_flipAll hWhole.placed_inside
  · rw [hPositions, hScreen]
    exact Registers.reg_setReg_self _ _ _

/-- On the screen of 64 by 32 pixels a drawing instruction flips exactly the pixels that its sprite
covers, and the flag tells whether one of them was lit; nothing else changes but the program
counter. Executed once more on what it left, it restores the screen, and the flag then tells whether
one of these pixels was dark at first. -/
theorem draw_flips_sprite {m : Machine (Board δ κ)} {w : Word}
    (hWidth : m.device.screen.width = 64) (hHeight : m.device.screen.height = 32)
    (hWord : m.nextWord? = some w) (hDraw : w.digits.family = 0xD)
    (hFits : m.registers.i.toNat + w.digits.n ≤ m.ram.capacity) (patience : Nat) :
    let covers := m.SpriteCovers (m.registers.reg w.digits.x).toNat
      (m.registers.reg w.digits.y).toNat w.digits.n
    ∃ (screen : Bitmap) (flag : UInt8) (registers : Registers),
      (m.step patience).result = .ok .running ∧
      (m.step patience).machine = { m with registers, device := { m.device with screen } } ∧
      m.registers.Flagged flag registers ∧
      screen.width = 64 ∧ screen.height = 32 ∧
      (∀ px py, px < 64 → py < 32 →
        ∃ before after, m.device.screen.get px py = .ok before ∧ screen.get px py = .ok after ∧
          (after ≠ before ↔ covers px py)) ∧
      (flag = 0 ∨ flag = 1) ∧
      (flag = 1 ↔ ∃ px py, covers px py ∧ m.device.screen.get px py = .ok true) ∧
      (w.digits.x ≠ 0xF → w.digits.y ≠ 0xF →
        ∀ again, (m.step patience).machine.DrawsAgain w again → ∀ patience',
          (again.step patience').result = .ok .running ∧
          (again.step patience').machine.device.screen = m.device.screen ∧
          ((again.step patience').machine.registers.reg 0xF = 0 ∨
            (again.step patience').machine.registers.reg 0xF = 1) ∧
          ((again.step patience').machine.registers.reg 0xF = 1 ↔
            ∃ px py, covers px py ∧ m.device.screen.get px py = .ok false)) := by
  intro covers
  have hWhole := Bitmap.whole_of_standard hWidth hHeight
  obtain ⟨hMachine, hResult⟩ := step_draw hWhole hWord hDraw hFits patience
  have hRows : (w.digits.n : Nat) ≤ 32 := by omega
  have hNodup : (m.drawnPositions w).Nodup := m.nodup_placed_sprite hWidth hHeight hRows _ _
  have hInside : ∀ k ∈ m.drawnPositions w, k / 8 < m.device.screen.bytes.size :=
    hWhole.placed_inside
  have hLit := Bitmap.isLit_flipAll_of_nodup hInside hNodup
  have hCovers {p : Nat → Prop} : (∃ k ∈ m.drawnPositions w, p k) ↔
      ∃ px py, covers px py ∧ p (m.device.screen.index px py) :=
    exists_placed_iff_covers hWidth hHeight
  refine ⟨m.device.screen.flipAll (m.drawnPositions w),
    (m.device.screen.meetsLit (m.drawnPositions w)).toUInt8, _, hResult, hMachine,
    m.registers.flagged_setReg _, ?_, ?_, ?_, toUInt8_eq_zero_or_one _, ?_, ?_⟩
  · rw [Bitmap.width_flipAll, hWidth]
  · rw [Bitmap.height_flipAll, hHeight]
  · intro px py hx hy
    have hPixel : m.device.screen.index px py ∈ m.drawnPositions w ↔ covers px py :=
      mem_placed_iff_covers hWidth hHeight hx hy
    refine ⟨_, _, hWhole.get_eq px py, (hWhole.flipAll _).get_eq px py, ?_⟩
    rw [Bitmap.index_flipAll, hLit, ← hPixel]
    cases m.device.screen.isLit (m.device.screen.index px py) <;> simp
  · rw [toUInt8_eq_one_iff, Bitmap.meetsLit_iff_of_nodup hInside hNodup, hCovers]
    simp only [hWhole.get_eq, Except.ok.injEq]
  · intro hX hY again hAgain patience'
    obtain ⟨hAgainResult, hScreen, hFlag⟩ :=
      step_draw_again hWhole hWord hDraw hFits hX hY hAgain patience'
    refine ⟨hAgainResult, hScreen, ?_, ?_⟩
    · rw [hFlag]
      exact toUInt8_eq_zero_or_one _
    · rw [hFlag, toUInt8_eq_one_iff, Bitmap.meetsLit_flipAll_iff_of_nodup hInside hNodup, hCovers]
      simp only [hWhole.get_eq, Except.ok.injEq]

/-- A row of four pixels in the lower right corner of the screen: three of them lie at the left
edge. Drawn once more, it is gone. -/
theorem draw_flips_sprite_corner :
    ∃ (m again : Machine (Board DrawCounter Keypad)) (w : Word),
      m.device.screen.width = 64 ∧ m.device.screen.height = 32 ∧ m.nextWord? = some w ∧
        w.digits.family = 0xD ∧ m.registers.i.toNat + w.digits.n ≤ m.ram.capacity ∧
        (m.step 0).machine.DrawsAgain w again ∧
        m.device.screen.get 0 31 = .ok false ∧
        (m.step 0).machine.device.screen.get 0 31 = .ok true ∧
        (again.step 0).machine.device.screen = m.device.screen ∧
        (again.step 0).machine.registers.reg 0xF = 1 := by
  let m : Machine (Board DrawCounter Keypad) :=
    { ram := ⟨Array.replicate 0x200 0 ++ #[0xD0, 0x11, 0xF0]⟩
      registers :=
        { Registers.initial with
          v := #v[63, 31, 0, 0, 0, 0, 0, 0, 0, 0, 0, 0, 0, 0, 0, 0]
          i := 0x202
          programEnd := 0x203 }
      depth := 0
      state := .running
      random := default
      device := Board.ofParts {} {} }
  let again := (m.step 0).machine.withPc m.registers.pc
  have hWord : m.nextWord? = some ⟨0xD011⟩ := by decide +kernel
  have hFits : m.registers.i.toNat + (Word.mk 0xD011).digits.n ≤ m.ram.capacity := by
    decide +kernel
  have hAgain : (m.step 0).machine.DrawsAgain ⟨0xD011⟩ again :=
    drawsAgain_withPc (by decide +kernel)
  have hDark : m.device.screen.get 0 31 = .ok false := by decide +kernel
  have hCovers : m.SpriteCovers 63 31 1 0 31 :=
    ⟨0, 1, by decide, by decide, by decide +kernel, by decide, by decide⟩
  obtain ⟨screen, flag, registers, -, hMachine, -, -, -, hPixels, -, -, hTwice⟩ :=
    draw_flips_sprite (m := m) rfl rfl hWord (by decide +kernel) hFits 0
  obtain ⟨-, hRestored, -, hAgainFlag⟩ := hTwice (by decide) (by decide) again hAgain 0
  refine ⟨m, again, ⟨0xD011⟩, rfl, rfl, hWord, by decide +kernel, hFits, hAgain, hDark, ?_,
    hRestored, hAgainFlag.2 ⟨0, 31, hCovers, hDark⟩⟩
  obtain ⟨before, after, hBefore, hAfter, hFlipped⟩ := hPixels 0 31 (by decide) (by decide)
  rw [hMachine]
  change screen.get 0 31 = _
  rw [hDark] at hBefore
  obtain rfl : false = before := Except.ok.inj hBefore
  rw [hAfter, Bool.eq_true_of_not_eq_false (hFlipped.2 hCovers)]

end Machine

end Chip8
