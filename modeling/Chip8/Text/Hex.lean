/-!
# Hexadecimal numbers

`Hex.upper` and `Hex.lower` write a number with at least a given count of digits, filled with zeros
on the left.
-/

namespace Chip8.Hex

/-- There are digits, so that they can be written as numbers of type `Fin 16`. -/
instance neZero_sixteen : @NeZero Nat Zero.ofOfNat0 16 where
  out := by decide

/-- The digits of `n`, most significant first, with zeros in front up to `width` digits. -/
def padded (width n : Nat) : List Char :=
  let digits := Nat.toDigits 16 n
  List.replicate (width - digits.length) '0' ++ digits

/-- Lower-case digits. -/
def lower (width n : Nat) : String :=
  String.ofList (padded width n)

/-- Upper-case digits. -/
def upper (width n : Nat) : String :=
  String.ofList ((padded width n).map Char.toUpper)

/-- No number has fewer digits than asked for. -/
theorem width_le_length_padded (width n : Nat) : width ≤ (padded width n).length := by
  simp only [padded, List.length_append, List.length_replicate]
  omega

end Chip8.Hex
