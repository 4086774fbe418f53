import Chip8.Checked

/-!
# Sprites

A sprite is a list of bytes, one for each row of eight pixels, the leftmost pixel in the highest
bit. `Sprite.cells` lists its set pixels in the order in which they are drawn, and `Sprite.place`
says where a pixel of a sprite comes to lie.
-/

namespace Chip8.Sprite

/-- The width of every sprite. -/
def width : Nat := 8

/-- Whether column `col` of a row is set. -/
def isSet (row : UInt8) (col : Nat) : Bool :=
  row &&& (0x80 >>> UInt8.ofNat col) != 0

/-- The set columns of a row, from left to right. -/
def columns (row : UInt8) : List Nat :=
  (List.range width).filter (isSet row)

/-- The set pixels, row after row and from left to right, as column and row; the first row given is
number `first`. -/
def cellsFrom (first : Nat) : List UInt8 → List (Nat × Nat)
  | [] => []
  | row :: rest => (columns row).map (·, first) ++ cellsFrom (first + 1) rest

/-- The set pixels of a sprite in drawing order, as column and row. -/
def cells (rows : List UInt8) : List (Nat × Nat) :=
  cellsFrom 0 rows

/-- The coordinates of a pixel of a sprite whose upper left corner is at `(x, y)`. -/
def place (x y : Nat) (cell : Nat × Nat) : Except Abort (Nat × Nat) := do
  return (← Checked.addSize x cell.1, ← Checked.addSize y cell.2)

theorem mem_cellsFrom {rows : List UInt8} {first col row : Nat} :
    (col, row) ∈ cellsFrom first rows ↔
      col < width ∧ first ≤ row ∧ ∃ bits, rows[row - first]? = some bits ∧ isSet bits col := by
  induction rows generalizing first with
  | nil => simp [cellsFrom]
  | cons bits rest ih =>
    simp only [cellsFrom, List.mem_append, List.mem_map, Prod.mk.injEq, ih, columns,
      List.mem_filter, List.mem_range]
    constructor
    · rintro (⟨c, ⟨hWidth, hSet⟩, rfl, rfl⟩ | ⟨hWidth, hFirst, found, hFound, hSet⟩)
      · exact ⟨hWidth, Nat.le_refl _, bits, by simp, hSet⟩
      · refine ⟨hWidth, by omega, found, ?_, hSet⟩
        rw [show row - first = row - (first + 1) + 1 by omega, List.getElem?_cons_succ, hFound]
    · rintro ⟨hWidth, hFirst, found, hFound, hSet⟩
      rcases Nat.eq_or_lt_of_le hFirst with rfl | hLater
      · simp only [Nat.sub_self, List.getElem?_cons_zero, Option.some.injEq] at hFound
        subst hFound
        exact Or.inl ⟨col, ⟨hWidth, hSet⟩, rfl, rfl⟩
      · rw [show row - first = row - (first + 1) + 1 by omega, List.getElem?_cons_succ] at hFound
        exact Or.inr ⟨hWidth, hLater, found, hFound, hSet⟩

end Chip8.Sprite
