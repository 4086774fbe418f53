import Mathlib.Tactic
import Chip8.Checked
import Chip8.DecodeTable

/-!
# Which entry decodes a word

A table keeps one entry for each mask and for each choice of the bits that the mask looks at, the
`key` of an insert. What a table knows is told by the inserts that it was built from: the newest
insert with a key is the one that is looked up, and the first mask with an insert for a word decides
(`decode_is_newest_of_first_mask`). So only the order among inserts with the same key matters.
-/

namespace Chip8

theorem Tier.mask_injective : Function.Injective Tier.mask := by
  intro t t' h
  have hTier := congrArg Tier.ofMask? h
  rw [ofMask?_mask, ofMask?_mask] at hTier
  exact Option.some.inj hTier

theorem Tier.ofMask?_eq_some_iff {mask : UInt16} {t : Tier} :
    ofMask? mask = some t ↔ mask = t.mask := by
  constructor
  · intro h
    have hMask := List.find?_some (p := fun t : Tier => decide (t.mask = mask)) h
    exact (of_decide_eq_true hMask).symm
  · rintro rfl
    exact ofMask?_mask t

/-- What is added to a table at a time. -/
structure TableInsert (α : Type) where
  mask : UInt16
  pattern : UInt16
  mnemonic : String
  value : α
  deriving Repr

namespace TableInsert

variable {α : Type}

/-- The mask and the bits of the pattern that it looks at. -/
def key (i : TableInsert α) : UInt16 × UInt16 :=
  (i.mask, i.pattern &&& i.mask)

/-- The word agrees with the pattern on the bits that the mask looks at. -/
def Matches (i : TableInsert α) (w : Word) : Prop :=
  w.bits &&& i.mask = i.pattern &&& i.mask

instance decidableMatches (i : TableInsert α) (w : Word) : Decidable (i.Matches w) :=
  inferInstanceAs (Decidable (w.bits &&& i.mask = i.pattern &&& i.mask))

/-- What a word that is decoded by the insert means. -/
def meaning (i : TableInsert α) : String × α :=
  (i.mnemonic, i.value)

theorem key_eq_iff {i : TableInsert α} {mask : UInt16} {w : Word} :
    i.key = (mask, w.bits &&& mask) ↔ i.mask = mask ∧ i.Matches w := by
  rw [key, Prod.mk.injEq, Matches]
  constructor
  · rintro ⟨rfl, hBits⟩
    exact ⟨rfl, hBits.symm⟩
  · rintro ⟨rfl, hBits⟩
    exact ⟨rfl, hBits.symm⟩

/-- The newest insert with a key. -/
def newest (inserts : List (TableInsert α)) (key : UInt16 × UInt16) : Option (TableInsert α) :=
  inserts.reverse.find? (·.key = key)

theorem newest_eq_getLast? (inserts : List (TableInsert α)) (key : UInt16 × UInt16) :
    newest inserts key = (inserts.filter (·.key = key)).getLast? := by
  rw [newest, ← List.head?_filter, List.filter_reverse, List.head?_reverse]

theorem newest_eq_some_iff {inserts : List (TableInsert α)} {key : UInt16 × UInt16}
    {i : TableInsert α} :
    newest inserts key = some i ↔
      i.key = key ∧ ∃ before later, inserts = before ++ i :: later ∧ ∀ j ∈ later, j.key ≠ key := by
  rw [newest, List.find?_eq_some_iff_append, decide_eq_true_iff]
  refine and_congr_right fun _ => ?_
  constructor
  · rintro ⟨later, before, hSplit, hOther⟩
    refine ⟨before.reverse, later.reverse, ?_, fun j hj => ?_⟩
    · rw [← List.reverse_reverse inserts, hSplit, List.reverse_append, List.reverse_cons,
        List.append_assoc, List.singleton_append]
    · simpa using hOther j (List.mem_reverse.1 hj)
  · rintro ⟨before, later, rfl, hOther⟩
    refine ⟨later.reverse, before.reverse, ?_, fun j hj => ?_⟩
    · rw [List.reverse_append, List.reverse_cons, List.append_assoc, List.singleton_append]
    · simpa using hOther j (List.mem_reverse.1 hj)

theorem newest_eq_none_iff {inserts : List (TableInsert α)} {key : UInt16 × UInt16} :
    newest inserts key = none ↔ ∀ i ∈ inserts, i.key ≠ key := by
  simp [newest]

end TableInsert

namespace DecodeTable

variable {α : Type} {t t' : DecodeTable α}

/-- The masks in the order in which they are tried. -/
def masks : List UInt16 :=
  [0xFFFF, 0xF000, 0xF00F, 0xF0FF]

theorem masks_eq : masks = Tier.order.map Tier.mask := rfl

theorem mem_masks_iff {mask : UInt16} : mask ∈ masks ↔ ∃ tier : Tier, mask = tier.mask := by
  constructor
  · intro h
    rw [masks_eq] at h
    obtain ⟨tier, -, rfl⟩ := List.mem_map.1 h
    exact ⟨tier, rfl⟩
  · rintro ⟨tier, rfl⟩
    cases tier <;> decide

/-- Makes inserts one after the other. -/
def insertAll (t : DecodeTable α) (inserts : List (TableInsert α)) :
    Except Abort (DecodeTable α) :=
  inserts.foldlM (fun t i => t.insertMasked i.mask i.pattern i.mnemonic i.value) t

theorem insertAll_cons (t : DecodeTable α) (i : TableInsert α) (rest : List (TableInsert α)) :
    t.insertAll (i :: rest) =
      t.insertMasked i.mask i.pattern i.mnemonic i.value >>= fun t => t.insertAll rest :=
  List.foldlM_cons

theorem insertMasked_eq_ok_iff {i : TableInsert α} :
    t.insertMasked i.mask i.pattern i.mnemonic i.value = .ok t' ↔
      ∃ tier : Tier, i.mask = tier.mask ∧ t' = t.insert tier i.pattern i.mnemonic i.value := by
  unfold insertMasked
  split
  · rename_i tier hTier
    have hMask := Tier.ofMask?_eq_some_iff.1 hTier
    constructor
    · intro h
      exact ⟨tier, hMask, (Except.ok.inj h).symm⟩
    · rintro ⟨tier', hMask', rfl⟩
      rw [Tier.mask_injective (hMask.symm.trans hMask')]
  · rename_i hNone
    refine iff_of_false (fun h => nomatch h) ?_
    rintro ⟨tier, hMask, -⟩
    rw [Tier.ofMask?_eq_some_iff.2 hMask] at hNone
    cases hNone

/-- Inserts with the masks of a table can be made. -/
theorem exists_insertAll {inserts : List (TableInsert α)} (hMasks : ∀ i ∈ inserts, i.mask ∈ masks)
    (t : DecodeTable α) : ∃ t', t.insertAll inserts = .ok t' := by
  induction inserts generalizing t with
  | nil => exact ⟨t, rfl⟩
  | cons i rest ih =>
      obtain ⟨tier, hMask⟩ := mem_masks_iff.1 (hMasks i List.mem_cons_self)
      obtain ⟨t', hRest⟩ := ih (fun j hj => hMasks j (List.mem_cons_of_mem i hj))
        (t.insert tier i.pattern i.mnemonic i.value)
      refine ⟨t', ?_⟩
      rw [insertAll_cons, insertMasked_eq_ok_iff.2 ⟨tier, hMask, rfl⟩]
      exact hRest

/-- The entry of an insert whose mask is that of the tier. -/
def entryOf (tier : Tier) (i : TableInsert α) : DecodeEntry α :=
  ⟨tier, i.pattern &&& i.mask, i.mnemonic, i.value⟩

theorem lookup_insertMasked {i : TableInsert α}
    (h : t.insertMasked i.mask i.pattern i.mnemonic i.value = .ok t') (w : Word) (probed : Tier) :
    t'.lookup w probed =
      if i.key = (probed.mask, w.bits &&& probed.mask) then some (entryOf probed i)
      else t.lookup w probed := by
  obtain ⟨tier, hMask, rfl⟩ := insertMasked_eq_ok_iff.1 h
  rw [lookup_insert]
  by_cases hTier : tier = probed
  · subst hTier
    simp only [TableInsert.key, hMask, Prod.mk.injEq, true_and, entryOf]
  · have hKey : i.key ≠ (probed.mask, w.bits &&& probed.mask) := by
      intro hKey
      exact hTier (Tier.mask_injective (hMask.symm.trans (Prod.mk.inj hKey).1))
    rw [if_neg fun hBoth => hTier hBoth.1, if_neg hKey]

/-- A look-up finds the newest insert with the key that the word has in the tier. -/
theorem lookup_insertAll {inserts : List (TableInsert α)} (h : t.insertAll inserts = .ok t')
    (w : Word) (tier : Tier) :
    t'.lookup w tier =
      ((TableInsert.newest inserts (tier.mask, w.bits &&& tier.mask)).map (entryOf tier)).or
        (t.lookup w tier) := by
  induction inserts generalizing t with
  | nil =>
      cases h
      rfl
  | cons i rest ih =>
      rw [insertAll_cons] at h
      obtain ⟨first, hFirst, hRest⟩ := Checked.exists_of_bind h
      rw [ih hRest, lookup_insertMasked hFirst, TableInsert.newest, TableInsert.newest,
        List.reverse_cons, List.find?_append, Option.map_or, Option.or_assoc, List.find?_singleton]
      simp only [decide_eq_true_eq]
      split
      · rfl
      · rfl

/-- The insert that decides a word: it matches, no newer one with its mask does, and none with a
mask that is tried before. -/
structure Decides (inserts : List (TableInsert α)) (w : Word) (i : TableInsert α) : Prop where
  agrees : i.Matches w
  newest : ∃ before later, inserts = before ++ i :: later ∧
    ∀ j ∈ later, j.mask = i.mask → ¬j.Matches w
  first : ∃ tried untried, masks = tried ++ i.mask :: untried ∧
    ∀ j ∈ inserts, j.mask ∈ tried → ¬j.Matches w

/-- The insert that decides a word, looked for in the inserts. -/
def decision (inserts : List (TableInsert α)) (w : Word) : Option (TableInsert α) :=
  masks.findSome? fun mask => TableInsert.newest inserts (mask, w.bits &&& mask)

theorem decision_eq_some_iff {inserts : List (TableInsert α)} {w : Word} {i : TableInsert α} :
    decision inserts w = some i ↔ Decides inserts w i := by
  rw [decision, List.findSome?_eq_some_iff]
  constructor
  · rintro ⟨tried, mask, untried, hOrder, hFound, hBefore⟩
    obtain ⟨hKey, before, later, hSplit, hLater⟩ := TableInsert.newest_eq_some_iff.1 hFound
    obtain ⟨rfl, hMatches⟩ := TableInsert.key_eq_iff.1 hKey
    refine ⟨hMatches, ⟨before, later, hSplit, fun j hj hMask hMatch => ?_⟩,
      ⟨tried, untried, hOrder, fun j hj hTried hMatch => ?_⟩⟩
    · exact hLater j hj (TableInsert.key_eq_iff.2 ⟨hMask, hMatch⟩)
    · exact TableInsert.newest_eq_none_iff.1 (hBefore j.mask hTried) j hj
        (TableInsert.key_eq_iff.2 ⟨rfl, hMatch⟩)
  · rintro ⟨hMatches, ⟨before, later, hSplit, hLater⟩, ⟨tried, untried, hOrder, hTried⟩⟩
    refine ⟨tried, i.mask, untried, hOrder, TableInsert.newest_eq_some_iff.2 ⟨?_, ?_⟩,
      fun mask hMask => TableInsert.newest_eq_none_iff.2 fun j hj hKey => ?_⟩
    · exact TableInsert.key_eq_iff.2 ⟨rfl, hMatches⟩
    · refine ⟨before, later, hSplit, fun j hj hKey => ?_⟩
      obtain ⟨hMask, hMatch⟩ := TableInsert.key_eq_iff.1 hKey
      exact hLater j hj hMask hMatch
    · obtain ⟨rfl, hMatch⟩ := TableInsert.key_eq_iff.1 hKey
      exact hTried j hj hMask hMatch

/-- Only a word that no insert matches is left undecided. -/
theorem decision_eq_none_iff {inserts : List (TableInsert α)}
    (hMasks : ∀ i ∈ inserts, i.mask ∈ masks) {w : Word} :
    decision inserts w = none ↔ ∀ i ∈ inserts, ¬i.Matches w := by
  rw [decision, List.findSome?_eq_none_iff]
  constructor
  · intro hNone i hi hMatches
    exact TableInsert.newest_eq_none_iff.1 (hNone i.mask (hMasks i hi)) i hi
      (TableInsert.key_eq_iff.2 ⟨rfl, hMatches⟩)
  · intro hNone mask _
    refine TableInsert.newest_eq_none_iff.2 fun i hi hKey => hNone i hi ?_
    exact (TableInsert.key_eq_iff.1 hKey).2

/-- Decoding gives what the deciding insert says. -/
theorem decode_insertAll {inserts : List (TableInsert α)}
    (h : (empty : DecodeTable α).insertAll inserts = .ok t) (w : Word) :
    (t.decode w).map (fun e => (e.mnemonic, e.value)) =
      (decision inserts w).map TableInsert.meaning := by
  have hLookup (tier : Tier) :
      (t.lookup w tier).map (fun e => (e.mnemonic, e.value)) =
        (TableInsert.newest inserts (tier.mask, w.bits &&& tier.mask)).map
          TableInsert.meaning := by
    have hEmpty : (empty : DecodeTable α).lookup w tier = none := rfl
    rw [lookup_insertAll h, hEmpty, Option.or_none, Option.map_map]
    rfl
  rw [decode, decision, masks_eq, List.map_findSome?, List.findSome?_map, List.map_findSome?]
  congr 1
  funext tier
  exact hLookup tier

/-- The keys of the entries. -/
def keys (t : DecodeTable α) : List (UInt16 × UInt16) :=
  t.entries.map fun e => (e.tier.mask, e.pattern)

theorem keys_insertMasked {i : TableInsert α}
    (h : t.insertMasked i.mask i.pattern i.mnemonic i.value = .ok t') :
    t'.keys = i.key :: t.keys.filter (· ≠ i.key) := by
  obtain ⟨tier, hMask, rfl⟩ := insertMasked_eq_ok_iff.1 h
  have hKey : i.key = (tier.mask, i.pattern &&& tier.mask) := by
    rw [TableInsert.key, hMask]
  rw [keys, keys, insert, List.map_cons, List.filter_map, hKey]
  congr 3
  funext e
  simp [DecodeEntry.hasKey, Tier.mask_injective.eq_iff]

/-- There is one entry for each key that was inserted. -/
theorem keys_insertAll {inserts : List (TableInsert α)} (h : t.insertAll inserts = .ok t')
    (hOnce : t.keys.Nodup) :
    t'.keys.Nodup ∧ ∀ key, key ∈ t'.keys ↔ key ∈ t.keys ∨ key ∈ inserts.map TableInsert.key := by
  induction inserts generalizing t with
  | nil =>
      cases h
      exact ⟨hOnce, fun key => by simp⟩
  | cons i rest ih =>
      rw [insertAll_cons] at h
      obtain ⟨first, hFirst, hRest⟩ := Checked.exists_of_bind h
      have hKeys := keys_insertMasked hFirst
      have hFirstOnce : first.keys.Nodup := by
        rw [hKeys, List.nodup_cons]
        exact ⟨by simp, hOnce.filter _⟩
      obtain ⟨hRestOnce, hMem⟩ := ih hRest hFirstOnce
      refine ⟨hRestOnce, fun key => ?_⟩
      rw [hMem, hKeys, List.map_cons, List.mem_cons, List.mem_cons]
      by_cases hKey : key = i.key
      · simp [hKey]
      · simp [hKey]

theorem size_insertAll {inserts : List (TableInsert α)}
    (h : (empty : DecodeTable α).insertAll inserts = .ok t) :
    t.size = (inserts.map TableInsert.key).toFinset.card := by
  obtain ⟨hOnce, hMem⟩ := keys_insertAll h List.nodup_nil
  have hSize : t.size = t.keys.length := (List.length_map _).symm
  rw [hSize, ← List.toFinset_card_of_nodup hOnce]
  congr 1
  ext key
  simpa [keys, empty] using hMem key

/-- A table is built from inserts under the four masks, with any patterns and any repetitions. A
word is decoded by the newest insert that matches it under the first mask, in the order of the
masks, under which any insert does, and only a word that no insert matches is not decoded. There are
as many entries as there are different choices of a mask and of the bits that it looks at. Inserts
in another order decode every word alike, if those with the same key keep their order. -/
theorem decode_is_newest_of_first_mask (inserts : List (TableInsert α))
    (hMasks : ∀ i ∈ inserts, i.mask ∈ masks) :
    ∃ table, (empty : DecodeTable α).insertAll inserts = .ok table ∧
      (∀ w mnemonic value,
        (table.decode w).map (fun e => (e.mnemonic, e.value)) = some (mnemonic, value) ↔
          ∃ i, Decides inserts w i ∧ i.mnemonic = mnemonic ∧ i.value = value) ∧
      (∀ w, table.decode w = none ↔ ∀ i ∈ inserts, ¬i.Matches w) ∧
      table.size = (inserts.map TableInsert.key).toFinset.card ∧
      ∀ reordered : List (TableInsert α), reordered.Perm inserts →
        (∀ key, reordered.filter (·.key = key) = inserts.filter (·.key = key)) →
        ∃ table', (empty : DecodeTable α).insertAll reordered = .ok table' ∧
          ∀ w, table'.decode w = table.decode w := by
  obtain ⟨table, hTable⟩ := exists_insertAll hMasks empty
  refine ⟨table, hTable, fun w mnemonic value => ?_, fun w => ?_, size_insertAll hTable, ?_⟩
  · rw [decode_insertAll hTable, Option.map_eq_some_iff]
    refine exists_congr fun i => ?_
    rw [decision_eq_some_iff, TableInsert.meaning, Prod.mk.injEq]
  · rw [← decision_eq_none_iff hMasks, ← Option.map_eq_none_iff, decode_insertAll hTable,
      Option.map_eq_none_iff]
  · intro reordered hPerm hOrder
    obtain ⟨table', hTable'⟩ :=
      exists_insertAll (fun i hi => hMasks i (hPerm.mem_iff.1 hi)) empty
    refine ⟨table', hTable', fun w => ?_⟩
    rw [decode, decode]
    congr 1
    funext tier
    rw [lookup_insertAll hTable, lookup_insertAll hTable', TableInsert.newest_eq_getLast?,
      TableInsert.newest_eq_getLast?, hOrder]

/-- A word that matches under three masks. Of the two inserts for its family, whose patterns differ
outside the mask only, the newer one decides; the one for the whole word is for another word. -/
theorem decode_is_newest_of_first_mask_family :
    ∃ (inserts : List (TableInsert Nat)) (table : DecodeTable Nat),
      (∀ i ∈ inserts, i.mask ∈ masks) ∧
      (empty : DecodeTable Nat).insertAll inserts = .ok table ∧
      (table.decode ⟨0x8423⟩).map (fun e => (e.mnemonic, e.value)) = some ("newer", 2) ∧
      table.decode ⟨0x9423⟩ = none ∧
      table.size = 4 := by
  let before : List (TableInsert Nat) := [⟨0xFFFF, 0x8123, "whole", 0⟩, ⟨0xF000, 0x8FFF, "older", 1⟩]
  let newer : TableInsert Nat := ⟨0xF000, 0x8000, "newer", 2⟩
  let later : List (TableInsert Nat) := [⟨0xF00F, 0x8003, "nibble", 3⟩, ⟨0xF0FF, 0x8023, "byte", 4⟩]
  have hMasks : ∀ i ∈ before ++ newer :: later, i.mask ∈ masks := by decide
  obtain ⟨table, hTable, hDecode, hNone, hSize, -⟩ :=
    decode_is_newest_of_first_mask (before ++ newer :: later) hMasks
  refine ⟨_, table, hMasks, hTable, (hDecode _ _ _).2 ⟨newer, ⟨?_, ?_, ?_⟩, rfl, rfl⟩,
    (hNone _).2 (by decide), hSize.trans (by decide)⟩
  · decide
  · exact ⟨before, later, rfl, by decide⟩
  · exact ⟨[0xFFFF], [0xF00F, 0xF0FF], rfl, by decide⟩

end DecodeTable

end Chip8
