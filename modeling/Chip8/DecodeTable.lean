import Chip8.Fault
import Chip8.Word

/-!
# Decoding by masks

An entry of a table stands for the words that agree with its pattern under its mask. Four masks are
known, the tiers, and they are tried in a fixed order: whole words first, then the family nibble,
then the family with the last nibble, then the family with the last byte. Within a tier the bits
outside the mask play no part, and a later entry replaces an earlier one for the same words.
-/

namespace Chip8

/-- Which bits of a word identify it. -/
inductive Tier where
  | whole
  | family
  | familyAndNibble
  | familyAndByte
  deriving DecidableEq, Repr, Inhabited

namespace Tier

/-- The tiers in the order in which they are tried. -/
def order : List Tier := [.whole, .family, .familyAndNibble, .familyAndByte]

/-- The bits that a tier looks at. -/
def mask : Tier → UInt16
  | whole => 0xFFFF
  | family => 0xF000
  | familyAndNibble => 0xF00F
  | familyAndByte => 0xF0FF

/-- The tier that looks at the given bits. -/
def ofMask? (mask : UInt16) : Option Tier :=
  order.find? (·.mask = mask)

theorem ofMask?_mask (t : Tier) : ofMask? t.mask = some t := by
  cases t <;> rfl

end Tier

/-- What a table knows about the words that agree with `pattern` on the bits of `tier`. -/
structure DecodeEntry (α : Type) where
  tier : Tier
  /-- The common bits of the words, all inside the mask of the tier. -/
  pattern : UInt16
  mnemonic : String
  value : α
  deriving DecidableEq, Repr

/-- Whether an entry stands for the words with the given bits in a tier. -/
def DecodeEntry.hasKey {α : Type} (e : DecodeEntry α) (tier : Tier) (pattern : UInt16) : Bool :=
  e.tier = tier && e.pattern = pattern

/-- A table of entries, at most one for each tier and pattern. -/
structure DecodeTable (α : Type) where
  entries : List (DecodeEntry α)
  deriving Repr

namespace DecodeTable

variable {α : Type}

/-- The table without entries. -/
def empty : DecodeTable α := ⟨[]⟩

instance : Inhabited (DecodeTable α) := ⟨empty⟩

/-- How many entries there are. -/
def size (t : DecodeTable α) : Nat :=
  t.entries.length

/-- Whether there is no entry. -/
def isEmpty (t : DecodeTable α) : Bool :=
  t.entries.isEmpty

/-- Adds an entry, in place of the one with the same tier and the same bits inside its mask. -/
def insert (t : DecodeTable α) (tier : Tier) (pattern : UInt16) (mnemonic : String) (value : α) :
    DecodeTable α :=
  let key := pattern &&& tier.mask
  ⟨⟨tier, key, mnemonic, value⟩ :: t.entries.filter (!·.hasKey tier key)⟩

/-- Adds an entry under a mask, which has to be the mask of a tier. -/
def insertMasked (t : DecodeTable α) (mask pattern : UInt16) (mnemonic : String) (value : α) :
    Except Abort (DecodeTable α) :=
  match Tier.ofMask? mask with
  | some tier => .ok (t.insert tier pattern mnemonic value)
  | none => .error (.unsupportedMask mask)

/-- The entry that stands for a word in one tier. -/
def lookup (t : DecodeTable α) (w : Word) (tier : Tier) : Option (DecodeEntry α) :=
  t.entries.find? (·.hasKey tier (w.bits &&& tier.mask))

/-- The entry for a word: the first tier that has one decides. -/
def decode (t : DecodeTable α) (w : Word) : Option (DecodeEntry α) :=
  Tier.order.findSome? (t.lookup w)

/-- The table that results from adding entries in the given order. -/
def ofList (entries : List (DecodeEntry α)) : DecodeTable α :=
  entries.foldl (fun t e => t.insert e.tier e.pattern e.mnemonic e.value) empty

/-- After an insertion, the words of the new entry find it in its tier, and nothing else changes. -/
theorem lookup_insert (t : DecodeTable α) (tier : Tier) (pattern : UInt16) (mnemonic : String)
    (value : α) (w : Word) (probed : Tier) :
    (t.insert tier pattern mnemonic value).lookup w probed =
      if tier = probed ∧ pattern &&& tier.mask = w.bits &&& tier.mask then
        some ⟨tier, pattern &&& tier.mask, mnemonic, value⟩
      else t.lookup w probed := by
  by_cases h : tier = probed ∧ pattern &&& tier.mask = w.bits &&& tier.mask
  · obtain ⟨rfl, hBits⟩ := h
    simp [lookup, insert, DecodeEntry.hasKey, hBits]
  · rw [if_neg h]
    have hHead : (tier = probed ∧ pattern &&& tier.mask = w.bits &&& probed.mask) = False := by
      simp only [eq_iff_iff, iff_false]
      rintro ⟨rfl, hBits⟩
      exact h ⟨rfl, hBits⟩
    simp only [lookup, insert, List.find?_cons, DecodeEntry.hasKey]
    rw [show (decide (tier = probed) &&
      decide (pattern &&& tier.mask = w.bits &&& probed.mask)) = false by
        rw [← Bool.decide_and]; exact decide_eq_false (by rw [hHead]; exact id)]
    simp only [List.find?_filter]
    congr 1
    funext e
    by_cases hTier : e.tier = probed
    · by_cases hPattern : e.pattern = w.bits &&& probed.mask
      · have hOther : ¬(probed = tier ∧ w.bits &&& probed.mask = pattern &&& tier.mask) := by
          rintro ⟨rfl, hBits⟩
          exact h ⟨rfl, hBits.symm⟩
        simp [hTier, hPattern, ← Bool.decide_and, hOther]
      · simp [hPattern]
    · simp [hTier]

end DecodeTable

end Chip8
