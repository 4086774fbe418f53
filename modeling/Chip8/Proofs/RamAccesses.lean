import Mathlib.Tactic
import Chip8.Proofs.Starting

/-!
# Memory accesses obey the laws of arrays

A `RamAccess` reads or writes bytes at a 16-bit address. The bytes that a sequence of accesses
leaves behind are told by the accesses alone: `RamAccess.lastWritten` looks for the newest write
that lay in memory and covered the byte. What every further access comes to follows from it
(`accesses_obey_array_laws`).
-/

namespace Chip8

/-- An access to memory. Its length need not be one that fits any memory. -/
inductive RamAccess where
  | write (addr : UInt16) (data : List UInt8)
  | writeWord (addr value : UInt16)
  | fill (addr : UInt16) (len : Nat) (b : UInt8)
  | readByte (addr : UInt16)
  | readWord (addr : UInt16)
  | read (addr : UInt16) (len : Nat)
  deriving Repr

/-- What an access that succeeds answers. -/
inductive RamAnswer where
  | done
  | byte (b : UInt8)
  | word (value : UInt16)
  | bytes (data : Array UInt8)
  deriving DecidableEq, Repr

namespace RamAccess

/-- The first address. -/
def start : RamAccess → Nat
  | write addr _ | writeWord addr _ | fill addr _ _ | readByte addr | readWord addr | read addr _ =>
    addr.toNat

/-- How many bytes are accessed. -/
def len : RamAccess → Nat
  | write _ data => data.length
  | writeWord _ _ | readWord _ => 2
  | readByte _ => 1
  | fill _ len _ | read _ len => len

/-- The bytes that are written from the first address on; a read writes none. -/
def written : RamAccess → List UInt8
  | write _ data => data
  | writeWord _ value => [UInt8.ofNat (value.toNat / 0x100), UInt8.ofNat (value.toNat % 0x100)]
  | fill _ len b => List.replicate len b
  | readByte _ | readWord _ | read _ _ => []

/-- The answer in a memory with the given bytes. -/
def answer (cells : Nat → UInt8) : RamAccess → RamAnswer
  | write _ _ | writeWord _ _ | fill _ _ _ => .done
  | readByte addr => .byte (cells addr.toNat)
  | readWord addr =>
    .word (UInt16.ofNat (0x100 * (cells addr.toNat).toNat + (cells (addr.toNat + 1)).toNat))
  | read addr len => .bytes ((List.range len).map fun k => cells (addr.toNat + k)).toArray

/-- What an access writes to a byte, in a memory of the given size. -/
def byteAt? (capacity a : Nat) (x : RamAccess) : Option UInt8 :=
  if x.start + x.len ≤ capacity ∧ x.start ≤ a then x.written[a - x.start]? else none

/-- What the newest write to a byte has put there; 0 if there is none. -/
def lastWritten (capacity : Nat) (earlier : List RamAccess) (a : Nat) : UInt8 :=
  (earlier.reverse.findSome? (byteAt? capacity a)).getD 0

theorem length_written_le (x : RamAccess) : x.written.length ≤ x.len := by
  cases x with
  | write addr data => exact Nat.le_refl _
  | writeWord addr value => exact Nat.le_refl _
  | fill addr len b => exact Nat.le_of_eq List.length_replicate
  | readByte addr => exact Nat.zero_le _
  | readWord addr => exact Nat.zero_le _
  | read addr len => exact Nat.zero_le _

end RamAccess

namespace Ram

/-- The outcome of a write: its answer and the memory after it. -/
def afterWrite (r : Ram) : Except Fault Ram → Except Fault RamAnswer × Ram
  | .ok r' => (.ok .done, r')
  | .error fault => (.error fault, r)

/-- Performs an access. -/
def access (r : Ram) : RamAccess → Except Fault RamAnswer × Ram
  | .write addr data => r.afterWrite (r.write addr.toNat data)
  | .writeWord addr value => r.afterWrite (r.writeWord addr.toNat value)
  | .fill addr len b => r.afterWrite (r.fill addr.toNat len b)
  | .readByte addr => ((r.readByte addr.toNat).map .byte, r)
  | .readWord addr => ((r.readWord addr.toNat).map .word, r)
  | .read addr len => ((r.read addr.toNat len).map .bytes, r)

/-- The memory after accesses performed one after the other. -/
def accessAll (r : Ram) (accesses : List RamAccess) : Ram :=
  accesses.foldl (fun r x => (r.access x).2) r

theorem readByte_eq (r : Ram) (a : Nat) :
    r.readByte a = if a + 1 ≤ r.capacity then .ok (r.cell a) else .error (r.outOfRange a 1) := by
  unfold readByte
  by_cases hFits : a < r.bytes.size
  · rw [dif_pos hFits, cell_of_lt hFits]
    exact (if_pos hFits).symm
  · rw [dif_neg hFits]
    exact (if_neg hFits).symm

theorem readWord_eq (r : Ram) (a : Nat) :
    r.readWord a =
      if a + 2 ≤ r.capacity then
        .ok (UInt16.ofNat (0x100 * (r.cell a).toNat + (r.cell (a + 1)).toNat))
      else .error (r.outOfRange a 2) := by
  split
  · rename_i hFits
    obtain ⟨value, hRead⟩ := exists_readWord hFits
    rw [hRead, ← (readWord_eq_ok_iff.1 hRead).2, UInt16.ofNat_toNat]
  · rename_i hShort
    exact readWord_eq_error_iff.2 ⟨Nat.lt_of_not_le hShort, rfl⟩

theorem read_eq (r : Ram) (a len : Nat) :
    r.read a len =
      if a + len ≤ r.capacity then
        .ok ((List.range len).map fun k => r.cell (a + k)).toArray
      else .error (r.outOfRange a len) := by
  split
  · rename_i hFits
    exact read_eq_ok_iff.2 ⟨hFits, rfl⟩
  · rename_i hShort
    exact read_eq_error_iff.2 ⟨Nat.lt_of_not_le hShort, rfl⟩

theorem afterWrite_write (r : Ram) (a : Nat) (data : List UInt8) :
    r.afterWrite (r.write a data) =
      if a + data.length ≤ r.capacity then (.ok .done, ⟨store r.bytes a data⟩)
      else (.error (r.outOfRange a data.length), r) := by
  unfold write
  split
  · rfl
  · rfl

/-- A word is written high byte first. -/
theorem wordBytes_eq (value : UInt16) :
    wordBytes value =
      [UInt8.ofNat (value.toNat / 0x100), UInt8.ofNat (value.toNat % 0x100)] := by
  have hBytes := wordBytes_toNat value
  simp only [wordBytes, List.map_cons, List.map_nil, List.cons.injEq, and_true] at hBytes
  rw [← hBytes.1, ← hBytes.2, UInt8.ofNat_toNat, UInt8.ofNat_toNat, wordBytes]

theorem fill_eq (r : Ram) (a len : Nat) (b : UInt8) :
    r.fill a len b = r.write a (List.replicate len b) := by
  unfold fill write
  rw [List.length_replicate]
  split
  · rfl
  · rfl

/-- All that an access can come to. -/
theorem access_eq (r : Ram) (x : RamAccess) :
    r.access x =
      if x.start + x.len ≤ r.capacity then
        (.ok (x.answer r.cell), ⟨store r.bytes x.start x.written⟩)
      else (.error (r.outOfRange x.start x.len), r) := by
  cases x with
  | write addr data => exact r.afterWrite_write addr.toNat data
  | writeWord addr value =>
      have hWritten : (RamAccess.writeWord addr value).written = wordBytes value :=
        (wordBytes_eq value).symm
      rw [hWritten]
      exact r.afterWrite_write addr.toNat (wordBytes value)
  | fill addr len b =>
      have hWrite := r.afterWrite_write addr.toNat (List.replicate len b)
      rw [← fill_eq, List.length_replicate] at hWrite
      exact hWrite
  | readByte addr =>
      rw [access, readByte_eq, apply_ite (Except.map _), apply_ite (Prod.mk · r)]
      rfl
  | readWord addr =>
      rw [access, readWord_eq, apply_ite (Except.map _), apply_ite (Prod.mk · r)]
      rfl
  | read addr len =>
      rw [access, read_eq, apply_ite (Except.map _), apply_ite (Prod.mk · r)]
      rfl

theorem capacity_access (r : Ram) (x : RamAccess) : (r.access x).2.capacity = r.capacity := by
  rw [access_eq]
  split
  · exact capacity_store _ _ _
  · rfl

/-- A byte after an access is what the access writes there, or else what it was. -/
theorem cell_access (r : Ram) (x : RamAccess) (a : Nat) :
    (r.access x).2.cell a = (x.byteAt? r.capacity a).getD (r.cell a) := by
  rw [access_eq, RamAccess.byteAt?]
  by_cases hFits : x.start + x.len ≤ r.capacity
  · have hLength := x.length_written_le
    rw [if_pos hFits, cell_store r (by omega)]
    by_cases hCovers : x.start ≤ a ∧ a < x.start + x.written.length
    · rw [if_pos hCovers, if_pos ⟨hFits, hCovers.1⟩, List.getD_eq_getElem?_getD,
        List.getElem?_eq_getElem (by omega), Option.getD_some, Option.getD_some]
    · rw [if_neg hCovers]
      split
      · rw [List.getElem?_eq_none (by omega), Option.getD_none]
      · rfl
  · rw [if_neg hFits, if_neg fun h => hFits h.1, Option.getD_none]

theorem capacity_accessAll (r : Ram) (accesses : List RamAccess) :
    (r.accessAll accesses).capacity = r.capacity := by
  induction accesses generalizing r with
  | nil => rfl
  | cons x rest ih => exact (ih (r.access x).2).trans (r.capacity_access x)

/-- So a byte after many accesses is what the newest write to it has put there. -/
theorem cell_accessAll (r : Ram) (accesses : List RamAccess) (a : Nat) :
    (r.accessAll accesses).cell a =
      (accesses.reverse.findSome? (RamAccess.byteAt? r.capacity a)).getD (r.cell a) := by
  induction accesses generalizing r with
  | nil => rfl
  | cons x rest ih =>
      change ((r.access x).2.accessAll rest).cell a = _
      rw [ih, capacity_access, cell_access, List.reverse_cons, List.findSome?_append]
      cases rest.reverse.findSome? (RamAccess.byteAt? r.capacity a) with
      | some b => rfl
      | none =>
          rw [Option.none_or, Option.getD_none, List.findSome?_singleton]

theorem cell_zeroed (capacity a : Nat) : (zeroed capacity).cell a = 0 := by
  rw [cell, zeroed, Array.getElem?_replicate]
  split
  · rfl
  · rfl

/-- A word that can be read is two bytes that can be read, the high one first. -/
theorem exists_bytes_of_readWord {r : Ram} {a : Nat} {value : UInt16}
    (h : r.readWord a = .ok value) :
    ∃ high low, r.readByte a = .ok high ∧ r.readByte (a + 1) = .ok low ∧
      value.toNat = 256 * high.toNat + low.toNat := by
  obtain ⟨hFits, hValue⟩ := readWord_eq_ok_iff.1 h
  refine ⟨r.cell a, r.cell (a + 1), ?_, ?_, hValue⟩
  · rw [readByte_eq, if_pos (by omega)]
  · rw [readByte_eq, if_pos (by omega)]

/-- A word that is written is two bytes, the high one first. -/
theorem exists_bytes_of_writeWord {r r' : Ram} {a : Nat} {value : UInt16}
    (h : r.writeWord a value = .ok r') :
    ∃ high low, r'.readByte a = .ok high ∧ r'.readByte (a + 1) = .ok low ∧
      high.toNat = value.toNat / 256 ∧ low.toNat = value.toNat % 256 := by
  obtain ⟨hFits, rfl⟩ := write_eq_ok_iff.1 h
  obtain ⟨high, low, hHigh, hLow, hValue⟩ :=
    exists_bytes_of_readWord (readWord_store_wordBytes hFits value)
  have hByte := low.toNat_lt
  exact ⟨high, low, hHigh, hLow, by omega, by omega⟩

/-- A zeroed memory of an accepted size, after any accesses, to any addresses and of any lengths. A
further access fails exactly if it would leave the memory; the fault names the access, and nothing
has changed. Otherwise it is answered from the bytes that the newest writes have put into memory,
and 0 where there was no write. A word is its two bytes, high byte first, read or written. -/
theorem accesses_obey_array_laws {capacity : Nat} {blank : Ram}
    (hAccepted : Ram.ofCapacity capacity = .ok blank) (earlier : List RamAccess) :
    let r := blank.accessAll earlier
    (∀ x : RamAccess,
      ((∃ fault, (r.access x).1 = .error fault) ↔ capacity < x.start + x.len) ∧
      (∀ fault, (r.access x).1 = .error fault →
        fault = .addressOutOfRange x.start x.len capacity ∧ (r.access x).2 = r) ∧
      (x.start + x.len ≤ capacity →
        (r.access x).1 = .ok (x.answer (RamAccess.lastWritten capacity earlier)))) ∧
    (∀ a value, r.readWord a = .ok value →
      ∃ high low, r.readByte a = .ok high ∧ r.readByte (a + 1) = .ok low ∧
        value.toNat = 256 * high.toNat + low.toNat) ∧
    (∀ a value r', r.writeWord a value = .ok r' →
      ∃ high low, r'.readByte a = .ok high ∧ r'.readByte (a + 1) = .ok low ∧
        high.toNat = value.toNat / 256 ∧ low.toNat = value.toNat % 256) := by
  obtain ⟨-, rfl⟩ := ofCapacity_eq_ok_iff.1 hAccepted
  intro r
  have hCapacity : r.capacity = capacity :=
    (capacity_accessAll _ _).trans (capacity_zeroed capacity)
  have hCells : r.cell = RamAccess.lastWritten capacity earlier := by
    funext a
    rw [cell_accessAll, capacity_zeroed, cell_zeroed, RamAccess.lastWritten]
  refine ⟨fun x => ?_, fun a value => exists_bytes_of_readWord,
    fun a value r' => exists_bytes_of_writeWord⟩
  rw [access_eq, hCapacity]
  by_cases hFits : x.start + x.len ≤ capacity
  · rw [if_pos hFits, hCells]
    exact ⟨iff_of_false (fun ⟨_, h⟩ => nomatch h) (Nat.not_lt.2 hFits), (fun _ h => nomatch h),
      fun _ => rfl⟩
  · rw [if_neg hFits, outOfRange, hCapacity]
    refine ⟨iff_of_true ⟨_, rfl⟩ (Nat.lt_of_not_le hFits), ?_, fun h => absurd h hFits⟩
    exact fun fault hFault => ⟨(Except.error.inj hFault).symm, rfl⟩

/-- Overlapping writes at the end of the smallest memory, two of which would leave it. -/
theorem accesses_obey_array_laws_end :
    ∃ (blank : Ram) (earlier : List RamAccess),
      Ram.ofCapacity 0x201 = .ok blank ∧
      ((blank.accessAll earlier).access (.read 0x1FD 4)).1 = .ok (.bytes #[0, 0xAB, 1, 2]) ∧
      ((blank.accessAll earlier).access (.readWord 0x1FF)).1 = .ok (.word 0x0102) ∧
      ((blank.accessAll earlier).access (.read 0x201 0)).1 = .ok (.bytes #[]) ∧
      ((blank.accessAll earlier).access (.fill 0xFFFF 0x10000 7)).1 =
        .error (.addressOutOfRange 0xFFFF 0x10000 0x201) := by
  let earlier : List RamAccess :=
    [.writeWord 0x1FE 0xABCD, .fill 0x200 2 9, .write 0x1FF [1, 2], .writeWord 0x200 7]
  have hAccepted := ofCapacity_eq_ok_iff.2 ⟨(by decide : _ < 0x201 ∧ 0x201 ≤ _), rfl⟩
  obtain ⟨hAccess, -, -⟩ := accesses_obey_array_laws hAccepted earlier
  obtain ⟨hFails, hFault, -⟩ := hAccess (.fill 0xFFFF 0x10000 7)
  obtain ⟨fault, hResult⟩ := hFails.2 (by decide)
  refine ⟨_, earlier, hAccepted, ?_, ?_, ?_, ?_⟩
  · exact ((hAccess (.read 0x1FD 4)).2.2 (by decide)).trans (by decide)
  · exact ((hAccess (.readWord 0x1FF)).2.2 (by decide)).trans (by decide)
  · exact ((hAccess (.read 0x201 0)).2.2 (by decide)).trans (by decide)
  · exact hResult.trans (congrArg _ (hFault fault hResult).1)

end Ram

end Chip8
