import Mathlib.Tactic
import Chip8.CallStack
import Chip8.Proofs.Cells

/-!
# A stack of words in memory

A stack is a window of memory that starts anywhere and may reach past the end of memory or past the
last 16-bit address. What a push and a pop come to is said once here, for every window: where the
slot starts decides it.
-/

namespace Chip8

namespace CallStack

variable {s : CallStack}

/-- Where the word of a slot starts. -/
def wordStart (s : CallStack) (slot : Nat) : Nat :=
  s.base.toNat + wordBytes * slot

theorem slotStart_eq_ok_iff {slot start : Nat} :
    s.slotStart slot = .ok start ↔ start = s.wordStart slot ∧ start < Checked.sizeLimit := by
  have hSlot : s.wordStart slot = s.base.toNat + slot * wordBytes := by
    rw [wordStart, Nat.mul_comm]
  rw [hSlot, slotStart]
  cases hProduct : Checked.mulSize slot wordBytes with
  | error cause =>
      have hLarge : ¬slot * wordBytes < Checked.sizeLimit := by
        intro h
        rw [Checked.mulSize_of_lt h] at hProduct
        cases hProduct
      exact iff_of_false (fun h => nomatch h) fun h => hLarge (by omega)
  | ok product =>
      obtain ⟨rfl, -⟩ := Checked.size_eq_ok_iff.1 hProduct
      change Checked.size (s.base.toNat + slot * wordBytes) = .ok start ↔ _
      rw [Checked.size_eq_ok_iff]
      omega

/-- A slot whose start can be counted has an address, if that is a 16-bit one. -/
theorem slotAddress_eq {slot : Nat} (h : s.wordStart slot < Checked.sizeLimit) :
    s.slotAddress slot =
      if s.wordStart slot < Layout.maxCapacity then .ok (s.wordStart slot)
      else .error
        (.fault (.addressOutOfRange (s.wordStart slot) wordBytes Layout.maxCapacity)) := by
  rw [slotAddress, slotStart_eq_ok_iff.2 ⟨rfl, h⟩]

theorem slotAddress_of_lt {slot : Nat} (h : s.wordStart slot < Layout.maxCapacity) :
    s.slotAddress slot = .ok (s.wordStart slot) := by
  have hLimit : Layout.maxCapacity < Checked.sizeLimit := by decide
  rw [slotAddress_eq (h.trans hLimit), if_pos h]

/-- All that having an address tells of a slot. -/
theorem eq_of_slotAddress {slot addr : Nat} (h : s.slotAddress slot = .ok addr) :
    addr = s.wordStart slot ∧ addr < Layout.maxCapacity := by
  unfold slotAddress at h
  cases hStart : s.slotStart slot with
  | error cause =>
      rw [hStart] at h
      cases h
  | ok start =>
      obtain ⟨rfl, -⟩ := slotStart_eq_ok_iff.1 hStart
      simp only [hStart] at h
      split at h
      · rename_i hSmall
        obtain rfl := Except.ok.inj h
        exact ⟨rfl, hSmall⟩
      · cases h

/-- A push writes the word above the live ones, if there is room. -/
theorem push_eq (h : s.wordStart s.depth < Checked.sizeLimit) (r : Ram) (value : UInt16) :
    s.push r value =
      if s.slots ≤ s.depth then .error (.fault (.stackOverflow s.slots))
      else if Layout.maxCapacity ≤ s.wordStart s.depth then
        .error
          (.fault (.addressOutOfRange (s.wordStart s.depth) wordBytes Layout.maxCapacity))
      else if s.wordStart s.depth + 2 ≤ r.capacity then
        .ok ({ s with depth := s.depth + 1 },
          ⟨Ram.store r.bytes (s.wordStart s.depth) (Ram.wordBytes value)⟩)
      else .error (.fault (r.outOfRange (s.wordStart s.depth) 2)) := by
  by_cases hFull : s.slots ≤ s.depth
  · rw [if_pos hFull]
    exact push_full hFull r value
  rw [if_neg hFull, push, if_neg hFull, slotAddress_eq h]
  by_cases hLarge : Layout.maxCapacity ≤ s.wordStart s.depth
  · rw [if_pos hLarge, if_neg (Nat.not_lt.2 hLarge)]
    rfl
  rw [if_neg hLarge, if_pos (Nat.lt_of_not_le hLarge)]
  change ((r.write (s.wordStart s.depth) (Ram.wordBytes value)).mapError Stop.fault >>= _) = _
  have hLength : (Ram.wordBytes value).length = 2 := rfl
  rw [Ram.write, hLength]
  split
  · rfl
  · rfl

/-- A pop reads the topmost live word. -/
theorem pop_eq {r : Ram} {below : Nat} (hDepth : s.depth = below + 1)
    (hSmall : s.wordStart below < Layout.maxCapacity) {value : UInt16}
    (hWord : r.readWord (s.wordStart below) = .ok value) :
    s.pop r = .ok (value, { s with depth := below }) := by
  rw [pop, hDepth]
  change (s.slotAddress below >>= _) = _
  rw [slotAddress_of_lt hSmall]
  change ((r.readWord (s.wordStart below)).mapError Stop.fault >>= _) = _
  rw [hWord]
  rfl

/-- All that a successful pop can do. -/
theorem pop_cases {r : Ram} {value : UInt16} {s' : CallStack} (h : s.pop r = .ok (value, s')) :
    ∃ below, s.depth = below + 1 ∧ s' = { s with depth := below } ∧
      r.readWord (s.wordStart below) = .ok value := by
  cases hDepth : s.depth with
  | zero =>
      rw [pop_empty hDepth] at h
      cases h
  | succ below =>
      rw [pop, hDepth] at h
      change (s.slotAddress below >>= _) = _ at h
      cases hAddr : s.slotAddress below with
      | error cause =>
          rw [hAddr] at h
          cases h
      | ok addr =>
          obtain ⟨rfl, -⟩ := eq_of_slotAddress hAddr
          rw [hAddr] at h
          change ((r.readWord (s.wordStart below)).mapError Stop.fault >>= _) = _ at h
          cases hWord : r.readWord (s.wordStart below) with
          | error fault =>
              rw [hWord] at h
              cases h
          | ok word =>
              rw [hWord] at h
              cases h
              exact ⟨below, rfl, rfl, hWord⟩

/-- Reading the live words back gives them oldest first. -/
theorem pending_eq {r : Ram} {xs : List UInt16} (hDepth : s.depth = xs.length)
    (hSmall : ∀ slot < xs.length, s.wordStart slot < Layout.maxCapacity)
    (h : r.HoldsWords s.base.toNat xs) : s.pending r = .ok xs.reverse := by
  let word (slot : Nat) : Except Stop UInt16 := do
    (r.readWord (← s.slotAddress slot)).mapError .fault
  have hWords : (List.range xs.length).mapM word = .ok xs.reverse := by
    clear hDepth
    induction xs with
    | nil => rfl
    | cons x older ih =>
        have hOlder := ih (fun slot hSlot => hSmall slot (Nat.lt_succ_of_lt hSlot)) h.2
        have hTop : word older.length = .ok x := by
          change (s.slotAddress older.length >>= _) = _
          rw [slotAddress_of_lt (hSmall _ (Nat.lt_succ_self _))]
          change (r.readWord (s.base.toNat + 2 * older.length)).mapError Stop.fault = _
          rw [h.1]
          rfl
        rw [List.length_cons, List.range_succ, List.mapM_append, hOlder, List.mapM_cons, hTop,
          List.mapM_nil, List.reverse_cons]
        rfl
  rw [pending, hDepth]
  exact hWords

end CallStack

end Chip8
