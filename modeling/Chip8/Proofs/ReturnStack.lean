import Mathlib.Tactic
import Chip8.Proofs.WordStack

/-!
# The stack of return addresses

The stack of return addresses is the window of sixteen words at `0x160`. `ReturnWords r xs` says
that its lowest words are `xs`, the newest first; pushing and popping are stated as facts about that
list. The window lies inside every memory that a machine accepts, so none of its slots lacks an
address.
-/

namespace Chip8

namespace CallStack

/-- The stack of return addresses with `depth` live words. -/
def ofDepth (depth : Nat) : CallStack :=
  { returnAddresses with depth }

/-- The address of a slot of the stack of return addresses. -/
def slotOf (slot : Nat) : Nat :=
  Layout.stackStart + wordBytes * slot

theorem slotOf_lt {slot : Nat} (h : slot < Layout.stackSlots) :
    slotOf slot < Layout.maxCapacity := by
  have hSlot : slot < 16 := h
  simp only [slotOf, Layout.stackStart, wordBytes, Layout.maxCapacity]
  omega

/-- The window lies inside every memory that has room for a program. -/
theorem slotOf_fits {r : Ram} (hCapacity : Layout.programStart < r.capacity) {slot : Nat}
    (h : slot < Layout.stackSlots) : slotOf slot + 2 ≤ r.capacity := by
  have hSlot : slot < 16 := h
  have hRoom : 0x200 < r.capacity := hCapacity
  simp only [slotOf, Layout.stackStart, wordBytes]
  omega

/-- A push writes the word above the live ones, if there is room. -/
theorem push_ofDepth (r : Ram) (depth : Nat) (value : UInt16) :
    (ofDepth depth).push r value =
      if Layout.stackSlots ≤ depth then .error (.fault (.stackOverflow Layout.stackSlots))
      else if slotOf depth + 2 ≤ r.capacity then
        .ok (ofDepth (depth + 1), ⟨Ram.store r.bytes (slotOf depth) (Ram.wordBytes value)⟩)
      else .error (.fault (r.outOfRange (slotOf depth) 2)) := by
  by_cases hFull : Layout.stackSlots ≤ depth
  · rw [if_pos hFull]
    exact push_full hFull r value
  · have hSmall : slotOf depth < Layout.maxCapacity := slotOf_lt (Nat.lt_of_not_le hFull)
    have hLimit : Layout.maxCapacity < Checked.sizeLimit := by decide
    have hPush := push_eq (s := ofDepth depth) (hSmall.trans hLimit) r value
    have hAddressed : ¬Layout.maxCapacity ≤ (ofDepth depth).wordStart depth := Nat.not_le.2 hSmall
    rw [hPush]
    exact if_congr Iff.rfl rfl (if_neg hAddressed)

/-- A pop reads the topmost live word. -/
theorem pop_ofDepth {r : Ram} {depth : Nat} (h : depth < Layout.stackSlots) {value : UInt16}
    (hWord : r.readWord (slotOf depth) = .ok value) :
    (ofDepth (depth + 1)).pop r = .ok (value, ofDepth depth) :=
  pop_eq (s := ofDepth (depth + 1)) rfl (slotOf_lt h) hWord

/-- All that a successful pop can do. -/
theorem eq_of_pop {r : Ram} {depth : Nat} {value : UInt16} {s : CallStack}
    (h : (ofDepth depth).pop r = .ok (value, s)) :
    ∃ below, depth = below + 1 ∧ s = ofDepth below ∧ r.readWord (slotOf below) = .ok value :=
  pop_cases h

end CallStack

/-- The lowest words of the window are `xs`, the newest first. -/
def ReturnWords (r : Ram) : List UInt16 → Prop
  | [] => True
  | x :: older => r.readWord (CallStack.slotOf older.length) = .ok x ∧ ReturnWords r older

namespace ReturnWords

open CallStack

theorem iff_holdsWords {r : Ram} {xs : List UInt16} :
    ReturnWords r xs ↔ r.HoldsWords Layout.stackStart xs := by
  induction xs with
  | nil => exact Iff.rfl
  | cons x older ih => exact and_congr_right fun _ => ih

/-- Only the live bytes matter. -/
theorem congr {r r' : Ram} (hCapacity : r'.capacity = r.capacity) {xs : List UInt16}
    (hCells : ∀ a, Layout.stackStart ≤ a → a < slotOf xs.length → r'.cell a = r.cell a)
    (h : ReturnWords r xs) : ReturnWords r' xs :=
  iff_holdsWords.2 ((iff_holdsWords.1 h).congr hCapacity hCells)

theorem push {r : Ram} (hCapacity : Layout.programStart < r.capacity) {xs : List UInt16}
    (hLength : xs.length < Layout.stackSlots) (h : ReturnWords r xs) (value : UInt16) :
    ReturnWords ⟨Ram.store r.bytes (slotOf xs.length) (Ram.wordBytes value)⟩ (value :: xs) :=
  iff_holdsWords.2 ((iff_holdsWords.1 h).store (slotOf_fits hCapacity hLength) value)

theorem pop {r : Ram} {x : UInt16} {older : List UInt16}
    (hLength : older.length < Layout.stackSlots) (h : ReturnWords r (x :: older)) :
    (ofDepth (older.length + 1)).pop r = .ok (x, ofDepth older.length) :=
  pop_ofDepth hLength h.1

/-- Reading the live words back gives them oldest first. -/
theorem pending {r : Ram} {xs : List UInt16} (hLength : xs.length ≤ Layout.stackSlots)
    (h : ReturnWords r xs) : (ofDepth xs.length).pending r = .ok xs.reverse :=
  pending_eq rfl (fun _ hSlot => slotOf_lt (hSlot.trans_le hLength)) (iff_holdsWords.1 h)

end ReturnWords

end Chip8
