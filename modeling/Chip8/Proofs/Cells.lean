import Mathlib.Tactic
import Chip8.Ram.Layout

/-!
# Cells and words of memory

`Ram.cell` is the view of a memory that the theory uses: a byte at every address. Reading bytes and
words, and storing them, are stated as facts about cells. `Ram.HoldsWords r base xs` says that
memory holds the words `xs` from `base` on, the newest of them last in memory and first in the list.
-/

namespace Chip8

namespace Ram

/-- The byte at an address; past the end of memory it is 0. -/
def cell (r : Ram) (a : Nat) : UInt8 :=
  r.bytes[a]?.getD 0

theorem cell_of_lt {r : Ram} {a : Nat} (h : a < r.bytes.size) : r.cell a = r.bytes[a] := by
  rw [cell, Array.getElem?_eq_getElem h]
  rfl

@[simp]
theorem capacity_store (r : Ram) (addr : Nat) (data : List UInt8) :
    capacity ⟨store r.bytes addr data⟩ = r.capacity :=
  size_store _ _ _

theorem cell_store (r : Ram) {addr : Nat} {data : List UInt8}
    (hFits : addr + data.length ≤ r.capacity) (a : Nat) :
    cell ⟨store r.bytes addr data⟩ a =
      if addr ≤ a ∧ a < addr + data.length then data.getD (a - addr) 0 else r.cell a := by
  rw [cell, getElem?_store _ _ _ hFits]
  split
  · rw [List.getD_eq_getElem?_getD]
  · rfl

/-- A word read from memory, in numbers. -/
theorem readWord_eq_ok_iff {r : Ram} {addr : Nat} {value : UInt16} :
    r.readWord addr = .ok value ↔
      addr + 2 ≤ r.capacity ∧
        value.toNat = 0x100 * (r.cell addr).toNat + (r.cell (addr + 1)).toNat := by
  have hJoin (hi lo : UInt8) :
      ((hi.toUInt16 <<< 8) ||| lo.toUInt16).toNat = 0x100 * hi.toNat + lo.toNat := by
    have hHigh := hi.toNat_lt
    have hShift : (hi.toUInt16 <<< 8).toNat = hi.toNat <<< 8 := by
      rw [UInt16.toNat_shiftLeft, Nat.mod_eq_of_lt]
      · rfl
      · rw [Nat.shiftLeft_eq]
        simp
        omega
    rw [UInt16.toNat_or, hShift, UInt8.toNat_toUInt16,
      ← Nat.shiftLeft_add_eq_or_of_lt lo.toNat_lt, Nat.shiftLeft_eq, Nat.mul_comm]
  unfold readWord
  split
  · rename_i hFits
    rw [cell_of_lt hFits, cell_of_lt (Nat.lt_of_succ_lt hFits), Except.ok.injEq,
      ← UInt16.toNat_inj, hJoin, eq_comm]
    exact (and_iff_right hFits).symm
  · rename_i hFits
    exact iff_of_false (fun h => nomatch h) fun h => hFits h.1

theorem readWord_eq_error_iff {r : Ram} {addr : Nat} {f : Fault} :
    r.readWord addr = .error f ↔ r.capacity < addr + 2 ∧ f = r.outOfRange addr 2 := by
  unfold readWord
  split
  · rename_i hFits
    exact iff_of_false (fun h => nomatch h) fun h => absurd h.1 (Nat.not_lt.2 hFits)
  · rename_i hFits
    rw [Except.error.injEq, eq_comm]
    exact (and_iff_right (Nat.lt_of_not_le hFits)).symm

theorem exists_readWord {r : Ram} {addr : Nat} (hFits : addr + 2 ≤ r.capacity) :
    ∃ value, r.readWord addr = .ok value := by
  cases hRead : r.readWord addr with
  | error fault => exact absurd (readWord_eq_error_iff.1 hRead).1 (Nat.not_lt.2 hFits)
  | ok value => exact ⟨value, rfl⟩

/-- Bytes read from memory, as a list of cells. -/
theorem read_eq_ok_iff {r : Ram} {addr len : Nat} {data : Array UInt8} :
    r.read addr len = .ok data ↔
      addr + len ≤ r.capacity ∧
        data.toList = (List.range len).map fun k => r.cell (addr + k) := by
  unfold read
  split
  · rename_i hFits
    have hCells : (r.bytes.extract addr (addr + len)).toList =
        (List.range len).map fun k => r.cell (addr + k) := by
      apply List.ext_getElem?
      intro k
      rw [Array.getElem?_toList, Array.getElem?_extract, List.getElem?_map]
      by_cases hk : k < len
      · have hSize : addr + k < r.bytes.size := by
          unfold capacity at hFits
          omega
        rw [if_pos (by unfold capacity at hFits; omega), List.getElem?_range hk, Option.map_some,
          cell_of_lt hSize, Array.getElem?_eq_getElem hSize]
      · rw [if_neg (by omega), List.getElem?_eq_none (by simpa using hk), Option.map_none]
    rw [Except.ok.injEq, ← hCells, Array.toList_inj, eq_comm]
    exact (and_iff_right hFits).symm
  · rename_i hFits
    exact iff_of_false (fun h => nomatch h) fun h => hFits h.1

theorem read_eq_error_iff {r : Ram} {addr len : Nat} {f : Fault} :
    r.read addr len = .error f ↔ r.capacity < addr + len ∧ f = r.outOfRange addr len := by
  unfold read
  split
  · rename_i hFits
    exact iff_of_false (fun h => nomatch h) fun h => absurd h.1 (Nat.not_lt.2 hFits)
  · rename_i hFits
    rw [Except.error.injEq, eq_comm]
    exact (and_iff_right (Nat.lt_of_not_le hFits)).symm

/-- The bytes of a word, high byte first. -/
def wordBytes (value : UInt16) : List UInt8 :=
  [(value >>> 8).toUInt8, value.toUInt8]

theorem wordBytes_toNat (value : UInt16) :
    (wordBytes value).map UInt8.toNat = [value.toNat / 0x100, value.toNat % 0x100] := by
  have hHigh : (value >>> 8).toUInt8.toNat = value.toNat / 0x100 := by
    rw [UInt16.toNat_toUInt8, UInt16.toNat_shiftRight, Nat.shiftRight_eq_div_pow]
    exact Nat.mod_eq_of_lt (Nat.div_lt_of_lt_mul value.toNat_lt)
  have hLow : value.toUInt8.toNat = value.toNat % 0x100 := UInt16.toNat_toUInt8 _
  rw [wordBytes, List.map_cons, List.map_cons, List.map_nil, hHigh, hLow]

/-- A word that was stored is read back. -/
theorem readWord_store_wordBytes {r : Ram} {addr : Nat} (hFits : addr + 2 ≤ r.capacity)
    (value : UInt16) :
    readWord ⟨store r.bytes addr (wordBytes value)⟩ addr = .ok value := by
  have hLength : addr + (wordBytes value).length ≤ r.capacity := hFits
  have hBytes := wordBytes_toNat value
  simp only [wordBytes, List.map_cons, List.map_nil, List.cons.injEq, and_true] at hBytes
  rw [readWord_eq_ok_iff, cell_store r hLength, cell_store r hLength,
    if_pos (by simp [wordBytes]), if_pos (by simp [wordBytes]), capacity_store]
  refine ⟨hFits, ?_⟩
  rw [Nat.sub_self, Nat.add_sub_cancel_left]
  change _ = 0x100 * (value >>> 8).toUInt8.toNat + value.toUInt8.toNat
  omega

theorem readWord_congr {r r' : Ram} (hCapacity : r'.capacity = r.capacity) {addr : Nat}
    (hHigh : r'.cell addr = r.cell addr) (hLow : r'.cell (addr + 1) = r.cell (addr + 1))
    {value : UInt16} (h : r.readWord addr = .ok value) : r'.readWord addr = .ok value := by
  rw [readWord_eq_ok_iff] at h ⊢
  rwa [hCapacity, hHigh, hLow]

/-- The words `xs`, the newest first, fill memory from `base` up. -/
def HoldsWords (r : Ram) (base : Nat) : List UInt16 → Prop
  | [] => True
  | x :: older => r.readWord (base + 2 * older.length) = .ok x ∧ r.HoldsWords base older

namespace HoldsWords

/-- Only the bytes of the words matter. -/
theorem congr {r r' : Ram} (hCapacity : r'.capacity = r.capacity) {base : Nat} {xs : List UInt16}
    (hCells : ∀ a, base ≤ a → a < base + 2 * xs.length → r'.cell a = r.cell a)
    (h : r.HoldsWords base xs) : r'.HoldsWords base xs := by
  induction xs with
  | nil => exact trivial
  | cons x older ih =>
      rw [List.length_cons] at hCells
      refine ⟨readWord_congr hCapacity ?_ ?_ h.1, ih ?_ h.2⟩
      · exact hCells _ (by omega) (by omega)
      · exact hCells _ (by omega) (by omega)
      · intro a hLow hHigh
        exact hCells a hLow (by omega)

/-- A word stored above the others joins them. -/
theorem store {r : Ram} {base : Nat} {xs : List UInt16}
    (hFits : base + 2 * xs.length + 2 ≤ r.capacity) (h : r.HoldsWords base xs) (value : UInt16) :
    HoldsWords ⟨Ram.store r.bytes (base + 2 * xs.length) (wordBytes value)⟩ base (value :: xs) := by
  refine ⟨readWord_store_wordBytes hFits value, congr (capacity_store _ _ _) ?_ h⟩
  intro a _ hBelow
  rw [cell_store r hFits, if_neg fun hInside => Nat.not_le.2 hBelow hInside.1]

end HoldsWords

end Ram

end Chip8
