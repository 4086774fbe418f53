import Chip8.Fault

/-!
# Byte-addressed memory

A memory of any size. Every access names its first address and its length; an access that would
leave the memory is refused as a whole, so it never wraps around and never does half of its work.
The view of a memory is `Ram.bytes[a]?`: `getElem?_store` says which bytes a write changes.
-/

namespace Chip8

/-- A memory. -/
structure Ram where
  bytes : Array UInt8
  deriving DecidableEq, Repr, Inhabited

namespace Ram

/-- How many bytes there are. -/
def capacity (r : Ram) : Nat :=
  r.bytes.size

/-- A memory of zeros. -/
def zeroed (capacity : Nat) : Ram :=
  ⟨Array.replicate capacity 0⟩

/-- The fault of an access that leaves the memory. -/
def outOfRange (r : Ram) (addr len : Nat) : Fault :=
  .addressOutOfRange addr len r.capacity

/-- The `len` bytes from `addr` on. -/
def read (r : Ram) (addr len : Nat) : Except Fault (Array UInt8) :=
  if addr + len ≤ r.capacity then .ok (r.bytes.extract addr (addr + len))
  else .error (r.outOfRange addr len)

/-- The byte at `addr`. -/
def readByte (r : Ram) (addr : Nat) : Except Fault UInt8 :=
  if h : addr < r.bytes.size then .ok r.bytes[addr] else .error (r.outOfRange addr 1)

/-- The word at `addr`, high byte first. -/
def readWord (r : Ram) (addr : Nat) : Except Fault UInt16 :=
  if h : addr + 1 < r.bytes.size then
    .ok ((r.bytes[addr].toUInt16 <<< 8) ||| r.bytes[addr + 1].toUInt16)
  else .error (r.outOfRange addr 2)

/-- Puts `data` into `bytes` from `addr` on; what does not fit is dropped. -/
def store (bytes : Array UInt8) (addr : Nat) : List UInt8 → Array UInt8
  | [] => bytes
  | b :: rest => store (bytes.setIfInBounds addr b) (addr + 1) rest

/-- Writes `data` from `addr` on. -/
def write (r : Ram) (addr : Nat) (data : List UInt8) : Except Fault Ram :=
  if addr + data.length ≤ r.capacity then .ok ⟨store r.bytes addr data⟩
  else .error (r.outOfRange addr data.length)

/-- Copies `data` over the `len` bytes from `addr` on. The lengths have to agree. -/
def copyTo (r : Ram) (addr len : Nat) (data : List UInt8) : Except Stop Ram :=
  if addr + len ≤ r.capacity then
    if data.length = len then .ok ⟨store r.bytes addr data⟩
    else .error (.abort (.lengthMismatch len data.length))
  else .error (.fault (r.outOfRange addr len))

/-- Writes a word at `addr`, high byte first. -/
def writeWord (r : Ram) (addr : Nat) (value : UInt16) : Except Fault Ram :=
  r.write addr [(value >>> 8).toUInt8, value.toUInt8]

/-- Writes the byte `b` into the `len` bytes from `addr` on. The bounds come first, so that a length
beyond any memory is refused without being built. -/
def fill (r : Ram) (addr len : Nat) (b : UInt8) : Except Fault Ram :=
  if addr + len ≤ r.capacity then r.write addr (List.replicate len b)
  else .error (r.outOfRange addr len)

@[simp]
theorem size_store (bytes : Array UInt8) (addr : Nat) (data : List UInt8) :
    (store bytes addr data).size = bytes.size := by
  induction data generalizing bytes addr with
  | nil => rfl
  | cons b rest ih => simp [store, ih]

/-- A byte after a store is the stored one inside the stored range and the old one outside it. -/
theorem getElem?_store (bytes : Array UInt8) (addr : Nat) (data : List UInt8)
    (hFits : addr + data.length ≤ bytes.size) (a : Nat) :
    (store bytes addr data)[a]? =
      if addr ≤ a ∧ a < addr + data.length then data[a - addr]? else bytes[a]? := by
  induction data generalizing bytes addr with
  | nil =>
    have hNone : ¬(addr ≤ a ∧ a < addr + ([] : List UInt8).length) := by
      rw [List.length_nil]
      omega
    rw [store, if_neg hNone]
  | cons b rest ih =>
    simp only [List.length_cons] at hFits ⊢
    rw [store, ih _ _ (by simp; omega)]
    by_cases hHead : a = addr
    · subst hHead
      rw [if_neg (by omega), if_pos (by omega)]
      simp [show a < bytes.size by omega]
    · by_cases hTail : addr + 1 ≤ a ∧ a < addr + 1 + rest.length
      · rw [if_pos hTail, if_pos (by omega)]
        obtain ⟨k, rfl⟩ : ∃ k, a = addr + 1 + k := ⟨a - (addr + 1), by omega⟩
        simp [show addr + 1 + k - addr = k + 1 by omega]
      · rw [if_neg hTail, if_neg (by omega)]
        simp [Ne.symm hHead]

theorem write_eq_ok_iff {r r' : Ram} {addr : Nat} {data : List UInt8} :
    r.write addr data = .ok r' ↔
      addr + data.length ≤ r.capacity ∧ r' = ⟨store r.bytes addr data⟩ := by
  unfold write
  split
  · rename_i hFits
    simp [hFits, eq_comm]
  · rename_i hFits
    simp [hFits]

end Ram

end Chip8
