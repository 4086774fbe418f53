import Mathlib.Tactic
import Chip8.Operation

/-!
# Instruction words as four hexadecimal digits

The decode table compares masked words. A mask keeps some of the four digits of a word, so a tier
compares digits (`and_mask_eq_iff`), and the table decodes as one would by hand:
`Operation.ofDigits?` is that decoder, and `decode_value` says that the table agrees with it on
every word.
-/

namespace Chip8

/-- The hexadecimal digits of a word, named after the operand fields. -/
structure Digits where
  family : Fin 16
  x : Fin 16
  y : Fin 16
  n : Fin 16
  deriving DecidableEq, Repr

namespace Digits

/-- The number with the given digits. -/
def value (d : Digits) : Nat :=
  16 * (16 * (16 * d.family + d.x) + d.y) + d.n

/-- The digits of a number below `0x10000`. -/
def ofNat (w : Nat) : Digits where
  family := Fin.ofNat 16 (w / 0x1000)
  x := Fin.ofNat 16 (w / 0x100)
  y := Fin.ofNat 16 (w / 0x10)
  n := Fin.ofNat 16 w

/-- The operand `NNN`. -/
def address (d : Digits) : Nat :=
  16 * (16 * d.x + d.y) + d.n

/-- The operand `NN`. -/
def constant (d : Digits) : Nat :=
  16 * d.y + d.n

/-- The digits that both numbers have in common, bit by bit. -/
def land (d e : Digits) : Digits :=
  ⟨d.family &&& e.family, d.x &&& e.x, d.y &&& e.y, d.n &&& e.n⟩

theorem value_ofNat {w : Nat} (h : w < 0x10000) : (ofNat w).value = w := by
  simp only [ofNat, value, Fin.val_ofNat]
  omega

theorem value_injective : Function.Injective value := by
  intro d e h
  obtain ⟨f, x, y, n⟩ := d
  obtain ⟨f', x', y', n'⟩ := e
  simp only [value] at h
  simp only [Digits.mk.injEq, Fin.ext_iff]
  omega

/-- A bitwise operation on numbers works on their last digits and on the rest apart. -/
theorem land_digit (a b : Nat) (c d : Fin 16) :
    (16 * a + c) &&& (16 * b + d) = 16 * (a &&& b) + (c &&& d : Fin 16) := by
  have hRest := Nat.and_div_two_pow (a := 16 * a + c) (b := 16 * b + d) (n := 4)
  have hLast := Nat.and_mod_two_pow (a := 16 * a + c) (b := 16 * b + d) (n := 4)
  rw [show (16 * a + c) / 2 ^ 4 = a by omega, show (16 * b + d) / 2 ^ 4 = b by omega] at hRest
  rw [show (16 * a + c) % 2 ^ 4 = c by omega, show (16 * b + d) % 2 ^ 4 = d by omega] at hLast
  have hDigit : ((c &&& d : Fin 16) : Nat) = c &&& d :=
    Nat.mod_eq_of_lt (Nat.and_lt_two_pow c.val (n := 4) d.isLt)
  rw [hDigit]
  omega

theorem value_land (d e : Digits) : (d.land e).value = d.value &&& e.value := by
  have hFamily := land_digit 0 0 d.family e.family
  simp only [Nat.mul_zero, Nat.zero_add, Nat.zero_and] at hFamily
  rw [value, value, value, land_digit, land_digit, land_digit, hFamily]
  rfl

end Digits

/-- The digits of an instruction word. -/
def Word.digits (w : Word) : Digits :=
  .ofNat w.bits.toNat

theorem Word.value_digits (w : Word) : w.digits.value = w.bits.toNat :=
  Digits.value_ofNat w.bits.toNat_lt

theorem Word.x_eq (w : Word) : w.x = w.digits.x := by
  rw [x, UInt16.toNat_shiftRight, Nat.shiftRight_eq_div_pow]
  rfl

theorem Word.y_eq (w : Word) : w.y = w.digits.y := by
  rw [y, UInt16.toNat_shiftRight, Nat.shiftRight_eq_div_pow]
  rfl

theorem Word.toNat_address (w : Word) : w.address.toNat = w.digits.address := by
  have hMask : w.address.toNat = w.bits.toNat % 2 ^ 12 := by
    rw [address, UInt16.toNat_and]
    exact Nat.and_two_pow_sub_one_eq_mod _ 12
  have hValue := w.value_digits
  simp only [Digits.value, Digits.address] at *
  omega

theorem Word.toNat_constant (w : Word) : w.constant.toNat = w.digits.constant := by
  have hByte : w.constant.toNat = w.bits.toNat % 2 ^ 8 := UInt16.toNat_toUInt8 _
  have hValue := w.value_digits
  simp only [Digits.value, Digits.constant] at *
  omega

/-- The lower nibble of a byte. -/
theorem toNat_and_nibble (b : UInt8) : (b &&& 0x0F).toNat = b.toNat % 16 := by
  rw [UInt8.toNat_and]
  exact Nat.and_two_pow_sub_one_eq_mod _ 4

theorem Word.toNat_nibble (w : Word) : w.nibble.toNat = w.digits.n := by
  change (w.constant &&& 0x0F).toNat = _
  rw [toNat_and_nibble, w.toNat_constant, Digits.constant]
  omega

/-- The digits that a tier looks at; the others are taken as 0. -/
def Tier.part (t : Tier) (d : Digits) : Digits :=
  match t with
  | .whole => d
  | .family => ⟨d.family, 0, 0, 0⟩
  | .familyAndNibble => ⟨d.family, 0, 0, d.n⟩
  | .familyAndByte => ⟨d.family, 0, d.y, d.n⟩

theorem Tier.land_mask (t : Tier) (d : Digits) : d.land (Word.mk t.mask).digits = t.part d := by
  obtain ⟨f, x, y, n⟩ := d
  have hAll (c : Fin 16) : c &&& 15 = c := by revert c; decide
  have hNone (c : Fin 16) : c &&& 0 = 0 := by revert c; decide
  cases t with
  | whole =>
      change (⟨f &&& 15, x &&& 15, y &&& 15, n &&& 15⟩ : Digits) = _
      rw [hAll, hAll, hAll, hAll, part]
  | family =>
      change (⟨f &&& 15, x &&& 0, y &&& 0, n &&& 0⟩ : Digits) = _
      rw [hAll, hNone, hNone, hNone, part]
  | familyAndNibble =>
      change (⟨f &&& 15, x &&& 0, y &&& 0, n &&& 15⟩ : Digits) = _
      rw [hAll, hNone, hNone, hAll, part]
  | familyAndByte =>
      change (⟨f &&& 15, x &&& 0, y &&& 15, n &&& 15⟩ : Digits) = _
      rw [hAll, hNone, hAll, hAll, part]

/-- Masked words are equal when the digits that the tier looks at are. -/
theorem Tier.and_mask_eq_iff (t : Tier) (v w : Word) :
    v.bits &&& t.mask = w.bits &&& t.mask ↔ t.part v.digits = t.part w.digits := by
  have hValue (u : Word) : (u.bits &&& t.mask).toNat = (t.part u.digits).value := by
    rw [UInt16.toNat_and, ← t.land_mask, Digits.value_land, Word.value_digits, Word.value_digits]
  rw [← UInt16.toNat_inj, hValue, hValue, Digits.value_injective.eq_iff]

namespace DecodeTable

variable {α : Type}

/-- Of all entries that stand for a word in a tier, the one inserted last decides. -/
theorem lookup_value_foldl (table : DecodeTable α) (es : List (DecodeEntry α)) (w : Word)
    (t : Tier) :
    ((es.foldl (fun table e => table.insert e.tier e.pattern e.mnemonic e.value) table).lookup
        w t).map (·.value) =
      es.foldl
        (fun found e =>
          if e.tier = t ∧ t.part (Word.mk e.pattern).digits = t.part w.digits then some e.value
          else found)
        ((table.lookup w t).map (·.value)) := by
  induction es generalizing table with
  | nil => rfl
  | cons e rest ih =>
      rw [List.foldl_cons, List.foldl_cons, ih, lookup_insert, apply_ite (Option.map _)]
      congr 2
      rw [eq_iff_iff]
      constructor
      · rintro ⟨rfl, hBits⟩
        exact ⟨rfl, (Tier.and_mask_eq_iff _ ⟨_⟩ _).1 hBits⟩
      · rintro ⟨rfl, hPart⟩
        exact ⟨rfl, (Tier.and_mask_eq_iff _ ⟨_⟩ _).2 hPart⟩

theorem lookup_value_ofList (es : List (DecodeEntry α)) (w : Word) (t : Tier) :
    ((ofList es).lookup w t).map (·.value) =
      es.foldl
        (fun found e =>
          if e.tier = t ∧ t.part (Word.mk e.pattern).digits = t.part w.digits then some e.value
          else found)
        none :=
  lookup_value_foldl empty es w t

/-- The tiers are tried one after the other. -/
theorem decode_value_eq_or (table : DecodeTable α) (w : Word) :
    (table.decode w).map (·.value) =
      ((table.lookup w .whole).map (·.value)).or
        (((table.lookup w .family).map (·.value)).or
          (((table.lookup w .familyAndNibble).map (·.value)).or
            ((table.lookup w .familyAndByte).map (·.value)))) := by
  rw [← Option.map_or, ← Option.map_or, ← Option.map_or]
  congr 1
  simp only [decode, Tier.order, List.findSome?]
  cases table.lookup w .whole <;> cases table.lookup w .family <;>
    cases table.lookup w .familyAndNibble <;> cases table.lookup w .familyAndByte <;> rfl

end DecodeTable

namespace Operation

/-- The operation of the word with the given digits. -/
def ofDigits? (d : Digits) : Option Operation :=
  match d.family, d.x, d.y, d.n with
  | 0x0, 0x0, 0xE, 0x0 => some .clearScreen
  | 0x0, 0x0, 0xE, 0xE => some .ret
  | 0x0, _, _, _ => some .systemCall
  | 0x1, _, _, _ => some .jump
  | 0x2, _, _, _ => some .call
  | 0x3, _, _, _ => some .skipEqualConstant
  | 0x4, _, _, _ => some .skipUnequalConstant
  | 0x5, _, _, _ => some .skipEqualRegister
  | 0x6, _, _, _ => some .loadConstant
  | 0x7, _, _, _ => some .addConstant
  | 0x8, _, _, 0x0 => some (.register .copy)
  | 0x8, _, _, 0x1 => some (.register .or)
  | 0x8, _, _, 0x2 => some (.register .and)
  | 0x8, _, _, 0x3 => some (.register .xor)
  | 0x8, _, _, 0x4 => some (.register .add)
  | 0x8, _, _, 0x5 => some (.register .sub)
  | 0x8, _, _, 0x6 => some (.register .shiftRight)
  | 0x8, _, _, 0x7 => some (.register .subFrom)
  | 0x8, _, _, 0xE => some (.register .shiftLeft)
  | 0x9, _, _, _ => some .skipUnequalRegister
  | 0xA, _, _, _ => some .loadIndex
  | 0xB, _, _, _ => some .jumpOffset
  | 0xC, _, _, _ => some .random
  | 0xD, _, _, _ => some .draw
  | 0xE, _, 0x9, 0xE => some .skipPressed
  | 0xE, _, 0xA, 0x1 => some .skipReleased
  | 0xF, _, 0x0, 0x7 => some .readDelay
  | 0xF, _, 0x0, 0xA => some .awaitKey
  | 0xF, _, 0x1, 0x5 => some .setDelay
  | 0xF, _, 0x1, 0x8 => some .setSound
  | 0xF, _, 0x1, 0xE => some .addIndex
  | 0xF, _, 0x2, 0x9 => some .loadGlyph
  | 0xF, _, 0x3, 0x3 => some .storeDecimal
  | 0xF, _, 0x5, 0x5 => some .storeRegisters
  | 0xF, _, 0x6, 0x5 => some .loadRegisters
  | _, _, _, _ => none

end Operation

/-- The table gives every word the operation that its digits name. -/
theorem decode_value (w : Word) :
    (instructionSet.decode w).map (·.value) = Operation.ofDigits? w.digits := by
  rw [DecodeTable.decode_value_eq_or, instructionSet]
  simp only [DecodeTable.lookup_value_ofList]
  generalize w.digits = d
  obtain ⟨f, x, y, n⟩ := d
  simp only [Operation.entries, List.foldl_cons, List.foldl_nil, Tier.part, Word.digits,
    Digits.ofNat, Digits.mk.injEq, reduceCtorEq, false_and, true_and, and_true, and_self,
    ↓reduceIte, UInt16.reduceToNat, Nat.reduceDiv, Fin.ofNat_eq_cast, Nat.cast_ofNat,
    Fin.natCast_zero, Nat.zero_div, UInt16.toNat_zero, Nat.ofNat_pos,
    Nat.div_self, Fin.isValue]
  fun_cases Operation.ofDigits?
  case case3 hFamily hClear hReturn =>
      -- The words of the family 0 that no whole pattern names.
      rw [if_neg fun h => hReturn h.2.1.symm h.2.2.1.symm h.2.2.2.symm,
        if_neg fun h => hClear h.2.1.symm h.2.2.1.symm h.2.2.2.symm]
      obtain rfl : f = 0 := hFamily
      rfl
  case case36 =>
      -- No tier has an entry.
      dsimp only at *
      simp only [Option.or_eq_none_iff]
      refine ⟨?_, ?_, ?_, ?_⟩ <;> repeat rw [if_neg (by grind)]
  all_goals
    dsimp only at *
    subst_vars
    rfl

end Chip8
