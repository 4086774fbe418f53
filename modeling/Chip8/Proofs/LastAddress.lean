import Mathlib.Tactic
import Chip8.Device.Keypad
import Chip8.Proofs.Reachable

/-!
# The program counter at the largest address

The counter sticks at `0xFFFF`. Whether a machine halts there depends on where its program ends: no
program in a memory of 16-bit addresses has a whole word at `0xFFFF`, but a host may bring a larger
memory, and then a program that fills it goes on executing that word.
-/

namespace Chip8

namespace Machine

variable {σ : Type}

/-- A running machine whose program, which ends at `limit`, is zero from the program counter
on. -/
structure OverZeros (limit : Nat) (m : Machine σ) : Prop where
  running : m.state = .running
  programEnd : m.registers.programEnd = limit
  inside : limit ≤ m.ram.capacity
  zeros : ∀ a, m.registers.pc.toNat ≤ a → a < limit → m.ram.cell a = 0

/-- Loading zeros puts the program counter in front of them. -/
theorem overZeros_load {m : Machine σ} {length : Nat} (hFits : 0x200 + length ≤ m.ram.capacity) :
    (m.load (List.replicate length 0)).machine.registers.pc.toNat = 0x200 ∧
      (m.load (List.replicate length 0)).machine.OverZeros (0x200 + length) := by
  have hLength : (List.replicate length (0 : UInt8)).length = length := List.length_replicate
  have hRoom : 0x200 + (List.replicate length (0 : UInt8)).length ≤ m.ram.capacity := by
    rw [hLength]
    exact hFits
  rcases m.load_cases (List.replicate length 0) with ⟨hLarge, -⟩ | ⟨-, hMachine, -⟩
  · exact absurd hRoom (Nat.not_le.2 hLarge)
  rw [hMachine]
  refine ⟨rfl, rfl, congrArg (0x200 + ·) hLength, ?_, ?_⟩
  · rw [Ram.capacity_store]
    exact hFits
  · intro a hFrom hTo
    have hStart : 0x200 ≤ a := hFrom
    have hInside : a < 0x200 + (List.replicate length (0 : UInt8)).length := by
      rw [hLength]
      exact hTo
    have hCell := Ram.cell_store m.ram hRoom a
    rw [if_pos ⟨hStart, hInside⟩, List.getD_eq_getElem?_getD, List.getElem?_replicate,
      if_pos (by omega)] at hCell
    exact hCell

variable [Device σ]

/-- The word 0 is a system call, which only moves the program counter. -/
theorem OverZeros.step {limit : Nat} {m : Machine σ} (h : m.OverZeros limit)
    (hFits : m.registers.pc.toNat + 2 ≤ limit) (patience : Nat) :
    (m.step patience).result = .ok .running ∧
      (m.step patience).machine.registers.pc = nextAddress m.registers.pc ∧
      (m.step patience).machine.OverZeros limit := by
  have hRead : m.ram.readWord m.registers.pc.toNat = .ok 0 := by
    refine Ram.readWord_eq_ok_iff.2 ⟨hFits.trans h.inside, ?_⟩
    rw [h.zeros _ (Nat.le_refl _) (by omega), h.zeros _ (Nat.le_succ _) (by omega)]
    rfl
  have hWord : m.nextWord? = some ⟨0⟩ :=
    nextWord?_eq_some_iff.2 ⟨h.running, h.programEnd.symm ▸ hFits, hRead⟩
  have hDecode : Operation.ofDigits? (Word.mk 0).digits = some .systemCall := by decide
  obtain ⟨w, -, -, hMachine, hResult⟩ :=
    step_of_nextOperation (nextOperation?_eq_some_iff.2 ⟨_, hWord, hDecode⟩) patience
  have hAdvanced : (m.step patience).machine = m.advanced := hMachine
  rw [hAdvanced, hResult]
  refine ⟨rfl, rfl, h.running, h.programEnd, h.inside, ?_⟩
  intro a hFrom
  refine h.zeros a (Nat.le_trans ?_ hFrom)
  have hPc := m.registers.pc.toNat_lt
  change m.registers.pc.toNat ≤ (nextAddress m.registers.pc).toNat
  rw [toNat_nextAddress]
  omega

/-- So a run walks over the zeros, as far as the program goes, up to the largest address. -/
theorem OverZeros.runFrom {limit : Nat} {m : Machine σ} (h : m.OverZeros limit) (patience : Nat)
    (earlier : Effects) {k : Nat} (hProgram : m.registers.pc.toNat + 2 * k ≤ limit)
    (hWithin : m.registers.pc.toNat + 2 * k ≤ 0x10000) :
    (runFrom patience earlier k m).machine.OverZeros limit ∧
      (runFrom patience earlier k m).machine.registers.pc.toNat =
        min (m.registers.pc.toNat + 2 * k) 0xFFFF := by
  induction k generalizing m earlier with
  | zero =>
      have hPc := m.registers.pc.toNat_lt
      refine ⟨h, ?_⟩
      change m.registers.pc.toNat = _
      omega
  | succ k ih =>
      obtain ⟨hResult, hNext, hZeros⟩ := h.step (by omega) (patience - earlier.pauses.size)
      simp only [Machine.runFrom, hResult]
      have hPc := congrArg UInt16.toNat hNext
      rw [toNat_nextAddress] at hPc
      obtain ⟨hRest, hPcRest⟩ := ih hZeros
        (earlier ++ (m.step (patience - earlier.pauses.size)).effects) (by omega) (by omega)
      refine ⟨hRest, ?_⟩
      rw [hPcRest]
      omega

/-- In a memory larger than 64K, a program of zeros that goes on past the largest address keeps the
machine running there. -/
theorem runs_on_at_last_address {ram : Ram} {device : σ} {random : RandomStream} {m₀ : Machine σ}
    {notices : Array Notice} (hPowerOn : powerOn ram device random = .ok (m₀, notices))
    {length : Nat} (hLong : 0x10000 < 0x200 + length) (hFits : 0x200 + length ≤ ram.capacity) :
    let m := m₀.performAll 0 [.load (List.replicate length 0), .run 0x7F00]
    m₀.Reaches m ∧ m.registers.pc = 0xFFFF ∧
      ∀ patience, (m.step patience).result = .ok .running := by
  have hRoom : 0x200 + length ≤ m₀.ram.capacity := by
    rw [(EndsInside.of_powerOn hPowerOn).size]
    exact hFits
  obtain ⟨hStart, hLoaded⟩ := overZeros_load hRoom
  obtain ⟨hZeros, hPc⟩ := hLoaded.runFrom 0 {} (k := 0x7F00) (by omega) (by omega)
  rw [hStart] at hPc
  refine ⟨(Reaches.start.act 0 rfl).act 0 rfl, UInt16.toNat_inj.1 hPc, fun patience => ?_⟩
  exact (hZeros.step (by rw [hPc]; omega) patience).1

/-- At the largest address a machine halts exactly when its program ends within the first 64K of
memory, so it always does in a memory that is no larger. Halting executes nothing. -/
theorem halts_at_last_address {ram : Ram} {device : σ} {random : RandomStream} {m₀ m : Machine σ}
    {notices : Array Notice} (hPowerOn : powerOn ram device random = .ok (m₀, notices))
    (hReaches : m₀.Reaches m) (hPc : m.registers.pc = 0xFFFF) (patience : Nat) :
    ((m.step patience).result = .ok .halted ↔
      m.state = .halted ∨ m.registers.programEnd ≤ 0x10000) ∧
    ((m.step patience).result = .ok .halted →
      (m.step patience).machine = { m with state := .halted }) ∧
    m.registers.programEnd ≤ ram.capacity ∧
    (ram.capacity ≤ 0x10000 → (m.step patience).result = .ok .halted) := by
  have hLast : m.registers.pc.toNat + 2 = 0x10001 := by
    rw [hPc]
    rfl
  have hIff : (m.step patience).result = .ok .halted ↔
      m.state = .halted ∨ m.registers.programEnd ≤ 0x10000 := by
    rw [step_halts_iff, hLast, Nat.lt_succ_iff]
  have hInside := (hReaches.endsInside hPowerOn).programEnd
  refine ⟨hIff, ?_, hInside, ?_⟩
  · intro hHalts
    exact (step_past_end ((m.step_halts_iff patience).1 hHalts) patience).2
  · intro hSmall
    exact hIff.2 (Or.inr (hInside.trans hSmall))

/-- In a small memory: a program overwrites the return address of its call with the largest
address. -/
theorem halts_at_last_address_return :
    ∃ (m₀ m : Machine (Board DrawCounter Keypad)) (notices : Array Notice),
      powerOn (Ram.zeroed 0x300) (Board.ofParts {} {}) default = .ok (m₀, notices) ∧
      m₀.Reaches m ∧ m.registers.pc = 0xFFFF ∧ m.state = .running ∧
      (m.step 0).result = .ok .halted := by
  let program : List UInt8 :=
    [0x22, 0x02, 0x60, 0xFF, 0x61, 0xFF, 0xA1, 0x60, 0xF1, 0x55, 0x00, 0xEE]
  let m₀ : Machine (Board DrawCounter Keypad) := fresh 0x300 (Board.ofParts {} {}) default
  have hPowerOn := powerOn_zeroed (by decide : Layout.programStart < 0x300)
    (Board.ofParts {} {} : Board DrawCounter Keypad) default
  have hLoaded : m₀.Reaches (m₀.perform 0 (.load program)).machine := Reaches.start.act 0 rfl
  have hRun := hLoaded.act 0 (a := .run 6) rfl
  refine ⟨m₀, _, _, hPowerOn, hRun, by decide +kernel, by decide +kernel, ?_⟩
  obtain ⟨-, -, -, hHalts⟩ := halts_at_last_address hPowerOn hRun (by decide +kernel) 0
  apply hHalts
  rw [Ram.capacity_zeroed]
  decide

/-- In a memory of one byte more than 64K, full of zeros, a machine goes on at the largest
address. -/
theorem not_halts_at_last_address :
    ∃ (m₀ m : Machine (Board DrawCounter Keypad)) (notices : Array Notice),
      powerOn (Ram.zeroed 0x10001) (Board.ofParts {} {}) default = .ok (m₀, notices) ∧
      m = m₀.performAll 0 [.load (List.replicate 0xFE01 0), .run 0x7F00] ∧
      m₀.Reaches m ∧ m.registers.pc = 0xFFFF ∧ (m.step 0).result ≠ .ok .halted := by
  have hPowerOn := powerOn_zeroed (by decide : Layout.programStart < 0x10001)
    (Board.ofParts {} {} : Board DrawCounter Keypad) default
  have hFits : 0x200 + 0xFE01 ≤ (Ram.zeroed 0x10001).capacity := by
    rw [Ram.capacity_zeroed]
  obtain ⟨hReaches, hPc, hRuns⟩ := runs_on_at_last_address hPowerOn (by decide) hFits
  refine ⟨_, _, _, hPowerOn, rfl, hReaches, hPc, ?_⟩
  rw [hRuns 0]
  exact fun h => nomatch h

end Machine

end Chip8
