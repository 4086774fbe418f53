import Chip8.Fault

/-!
# Arithmetic that refuses to leave its width

Sizes are natural numbers below `2 ^ 64`. A sum, difference or product that leaves the width of its
operands is no number at all but an abort.
-/

namespace Chip8.Checked

/-- One past the largest size: `2 ^ 64`. -/
def sizeLimit : Nat := 0x10000000000000000

/-- A size, or an abort if `n` is too large for one. -/
def size (n : Nat) : Except Abort Nat :=
  if n < sizeLimit then .ok n else .error .overflow

/-- The sum of two sizes. -/
def addSize (a b : Nat) : Except Abort Nat :=
  size (a + b)

/-- The product of two sizes. -/
def mulSize (a b : Nat) : Except Abort Nat :=
  size (a * b)

/-- The difference of two sizes. -/
def subSize (a b : Nat) : Except Abort Nat :=
  if b ≤ a then .ok (a - b) else .error .overflow

/-- The sum of two 16-bit words. -/
def addWord (a b : UInt16) : Except Abort UInt16 :=
  if a.toNat + b.toNat < UInt16.size then .ok (a + b) else .error .overflow

/-- The product of two 16-bit words. -/
def mulWord (a b : UInt16) : Except Abort UInt16 :=
  if a.toNat * b.toNat < UInt16.size then .ok (a * b) else .error .overflow

/-- What ends without an abort got through its first part. -/
theorem exists_of_bind {ε α β : Type} {x : Except ε α} {f : α → Except ε β} {answer : β}
    (h : x >>= f = .ok answer) : ∃ a, x = .ok a ∧ f a = .ok answer := by
  cases x with
  | error cause => cases h
  | ok a => exact ⟨a, rfl, h⟩

theorem size_eq_ok_iff {n m : Nat} : size n = .ok m ↔ n = m ∧ n < sizeLimit := by
  unfold size
  split <;> simp <;> omega

theorem addSize_of_lt {a b : Nat} (h : a + b < sizeLimit) : addSize a b = .ok (a + b) :=
  size_eq_ok_iff.2 ⟨rfl, h⟩

theorem mulSize_of_lt {a b : Nat} (h : a * b < sizeLimit) : mulSize a b = .ok (a * b) :=
  size_eq_ok_iff.2 ⟨rfl, h⟩

theorem subSize_eq_ok_iff {a b c : Nat} : subSize a b = .ok c ↔ b ≤ a ∧ a - b = c := by
  unfold subSize
  split <;> simp <;> omega

theorem addWord_eq_ok_iff {a b c : UInt16} :
    addWord a b = .ok c ↔ a.toNat + b.toNat < UInt16.size ∧ a + b = c := by
  unfold addWord
  by_cases h : a.toNat + b.toNat < UInt16.size
  · simp [h]
  · simp [h]

end Chip8.Checked
