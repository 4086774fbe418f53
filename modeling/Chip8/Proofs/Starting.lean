import Mathlib.Tactic
import Chip8.Machine.Load
import Chip8.Proofs.ReturnStack

/-!
# How machines start

Power on and a successful load put a machine into the same state: no pending return address, the
program counter at the start of the program. They differ in memory, whose size neither changes.
-/

namespace Chip8

@[simp]
theorem Ram.capacity_zeroed (capacity : Nat) : (Ram.zeroed capacity).capacity = capacity :=
  Array.size_replicate

/-- The sizes that memories are made in. -/
theorem Ram.ofCapacity_eq_ok_iff {capacity : Nat} {blank : Ram} :
    Ram.ofCapacity capacity = .ok blank ↔
      (Layout.programStart < capacity ∧ capacity ≤ Layout.maxCapacity) ∧
        blank = Ram.zeroed capacity := by
  unfold Ram.ofCapacity
  split
  · rename_i hAccepted
    rw [Except.ok.injEq, eq_comm]
    exact (and_iff_right hAccepted).symm
  · rename_i hRefused
    exact iff_of_false (fun h => nomatch h) fun h => hRefused h.1

theorem Ram.ofCapacity_zeroed {capacity : Nat} (hProgram : Layout.programStart < capacity)
    (hCapacity : capacity ≤ Layout.maxCapacity) :
    Ram.ofCapacity (Ram.zeroed capacity).capacity = .ok (Ram.zeroed capacity) := by
  rw [Ram.capacity_zeroed]
  exact Ram.ofCapacity_eq_ok_iff.2 ⟨⟨hProgram, hCapacity⟩, rfl⟩

/-- A program that fits is copied. -/
theorem Ram.loadProgram_of_fits {r : Ram} {program : List UInt8}
    (hFits : Layout.programStart + program.length ≤ r.capacity) :
    r.loadProgram program =
      .ok (⟨store r.bytes Layout.programStart program⟩, Layout.programStart + program.length) := by
  have hWrite := write_eq_ok_iff.2 ⟨hFits, rfl⟩
  unfold loadProgram
  rw [if_neg (Nat.not_lt.2 hFits), hWrite]
  rfl

namespace Machine

variable {σ : Type}

/-- A memory with room for a program can be powered on. -/
theorem powerOn_of_capacity {ram : Ram} (hCapacity : Layout.programStart < ram.capacity)
    (device : σ) (random : RandomStream) :
    powerOn ram device random =
      .ok ({ ram := ⟨Ram.store ram.bytes Layout.fontStart Layout.font⟩
             registers := .initial
             depth := 0
             state := .running
             random
             device }, #[.initialised ram.capacity]) := by
  have hRoom : 0x200 < ram.capacity := hCapacity
  have hFont : ram.installFont = .ok ⟨Ram.store ram.bytes Layout.fontStart Layout.font⟩ := by
    refine Ram.write_eq_ok_iff.2 ⟨?_, rfl⟩
    rw [Layout.length_font, Layout.fontStart, Layout.glyphBytes]
    omega
  rw [powerOn, if_neg (Nat.not_le.2 hCapacity), hFont]
  change Except.ok (_, #[Notice.initialised (Ram.capacity _)]) = _
  rw [Ram.capacity_store]

/-- What a machine is after power on. -/
theorem eq_of_powerOn {ram : Ram} {device : σ} {random : RandomStream} {m : Machine σ}
    {notices : Array Notice} (h : powerOn ram device random = .ok (m, notices)) :
    Layout.programStart < ram.capacity ∧
      m = { ram := ⟨Ram.store ram.bytes Layout.fontStart Layout.font⟩
            registers := .initial
            depth := 0
            state := .running
            random
            device } := by
  have hRoom : Layout.programStart < ram.capacity := by
    by_contra hSmall
    rw [powerOn, if_pos (Nat.not_lt.1 hSmall)] at h
    cases h
  rw [powerOn_of_capacity hRoom] at h
  exact ⟨hRoom, (Prod.mk.inj (Except.ok.inj h)).1.symm⟩

/-- The machine on blank memory after power on. -/
def fresh (capacity : Nat) (device : σ) (random : RandomStream) : Machine σ where
  ram := ⟨Ram.store (Ram.zeroed capacity).bytes Layout.fontStart Layout.font⟩
  registers := .initial
  depth := 0
  state := .running
  random := random
  device := device

@[simp]
theorem capacity_fresh (capacity : Nat) (device : σ) (random : RandomStream) :
    (fresh capacity device random).ram.capacity = capacity := by
  rw [fresh, Ram.capacity_store, Ram.capacity_zeroed]

theorem powerOn_zeroed {capacity : Nat} (hCapacity : Layout.programStart < capacity) (device : σ)
    (random : RandomStream) :
    powerOn (Ram.zeroed capacity) device random =
      .ok (fresh capacity device random, #[.initialised (Ram.zeroed capacity).capacity]) := by
  apply powerOn_of_capacity
  rw [Ram.capacity_zeroed]
  exact hCapacity

/-- A load copies the program and starts the machine over, or finds too little memory and changes
nothing. -/
theorem load_cases (m : Machine σ) (program : List UInt8) :
    (m.ram.capacity < Layout.programStart + program.length ∧
      m.load program =
        { machine := m
          result := .error (.fault (.insufficientMemory (Layout.programStart + program.length)
            m.ram.capacity)) }) ∨
    (Layout.programStart + program.length ≤ m.ram.capacity ∧
      (m.load program).machine =
        { m with
          ram := ⟨Ram.store m.ram.bytes Layout.programStart program⟩
          registers := { Registers.initial with
            programEnd := Layout.programStart + program.length }
          depth := 0
          state := .running } ∧
      (m.load program).result = .ok ()) := by
  by_cases hFits : m.ram.capacity < Layout.programStart + program.length
  · refine Or.inl ⟨hFits, ?_⟩
    have hLoad : m.ram.loadProgram program =
        .error (.insufficientMemory (Layout.programStart + program.length) m.ram.capacity) :=
      if_pos hFits
    rw [load, hLoad]
  · refine Or.inr ⟨Nat.not_lt.1 hFits, ?_⟩
    rw [load, Ram.loadProgram_of_fits (Nat.not_lt.1 hFits)]
    exact ⟨rfl, rfl⟩

end Machine

end Chip8
