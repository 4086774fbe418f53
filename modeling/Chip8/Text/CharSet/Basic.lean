/-!
# Sets of characters

A property of characters in the Unicode standard is kept as the closed ranges of code points that
have it. The ranges ascend and leave at least one code point between two of them, so a property has
one such list only.
-/

namespace Chip8

/-- Whether each range is followed by a gap and then by the next. -/
def ascendingRanges : List (Nat × Nat) → Bool
  | [] => true
  | [r] => r.1 ≤ r.2
  | r :: s :: rest => r.1 ≤ r.2 && r.2 + 1 < s.1 && ascendingRanges (s :: rest)

/-- A set of characters. -/
structure CharSet where
  /-- First and last code point of each run of members. -/
  ranges : List (Nat × Nat)
  ascending : ascendingRanges ranges = true

namespace CharSet

/-- Whether a character is a member. -/
def contains (s : CharSet) (c : Char) : Bool :=
  s.ranges.any fun r => r.1 ≤ c.toNat && c.toNat ≤ r.2

/-- The members are the characters in one of the ranges. -/
theorem contains_eq_true_iff {s : CharSet} {c : Char} :
    s.contains c = true ↔ ∃ r ∈ s.ranges, r.1 ≤ c.toNat ∧ c.toNat ≤ r.2 := by
  simp [contains]

end CharSet

end Chip8
