import Mathlib.Tactic
import Chip8.Proofs.WriteConfinement

/-!
# Saved registers come back

A program saves `V0` to `VX` at `I` and loads them again later. What lies between is any sequence of
moves that writes none of the saved bytes: calls, returns, other stores, writes of registers by the
host, even another program. `saved_registers_survive` says that the load goes through and gives back
what was saved, and that neither instruction touches anything else.
-/

namespace Chip8

/-- A saved register is found at its number. -/
theorem Registers.getD_take (r : Registers) {x k : Fin 16} (h : k ≤ x) :
    (r.v.toList.take (x.val + 1)).getD k.val 0 = r.reg k := by
  have hNumber : k.val < x.val + 1 := Nat.lt_succ_of_le h
  rw [List.getD_eq_getElem?_getD, List.getElem?_take_of_lt hNumber, Vector.getElem?_toList,
    Vector.getElem?_eq_getElem k.isLt]
  rfl

/-- The first registers, up to `VX`, lie in memory from an address on. -/
structure Ram.HoldsRegisters (r : Ram) (addr : Nat) (x : Fin 16) (saved : Registers) : Prop where
  fits : addr + (x.val + 1) ≤ r.capacity
  cells : ∀ k ≤ x, r.cell (addr + k.val) = saved.reg k

namespace Machine

variable {σ : Type} [Device σ]

/-- A move writes none of the `len` bytes from `addr` on. -/
def Avoids (addr len : Nat) (m : Machine σ) (mv : Move) : Prop :=
  ∀ a, addr ≤ a → a < addr + len → ¬m.Writes mv a

/-- A step that is no store writes inside the window of the call stack at most. -/
theorem avoids_step_of_no_store {m : Machine σ} (h : m.nextStore? = none) {addr : Nat}
    (hAbove : 0x180 ≤ addr) (len patience : Nat) : m.Avoids addr len (.step patience) := by
  intro a hLow _ hWrites
  cases hWrites with
  | call _ hRoom _ _ hHigh => omega
  | store hStore _ _ _ =>
      rw [h] at hStore
      cases hStore

/-- What a save that goes through does. -/
theorem step_storeRegisters {m : Machine σ} {w : Word} {patience : Nat}
    (hWord : m.nextWord? = some w)
    (hDecode : Operation.ofDigits? w.digits = some .storeRegisters)
    (hDone : (m.step patience).result = .ok .running) :
    (m.step patience).machine.ram.HoldsRegisters m.registers.i.toNat w.digits.x m.registers ∧
      ∀ a, a < m.registers.i.toNat ∨ m.registers.i.toNat + w.digits.x.val < a →
        (m.step patience).machine.ram.cell a = m.ram.cell a := by
  rw [← w.x_eq]
  have hOp := nextOperation?_eq_some_iff.2 ⟨w, hWord, hDecode⟩
  obtain ⟨w', hWord', -, hMachine, hResult⟩ := step_of_nextOperation hOp patience
  cases hWord.symm.trans hWord'
  rw [execute_storeRegisters] at hMachine hResult
  by_cases hFits : m.advanced.registers.i.toNat + (w.x.val + 1) ≤ m.advanced.ram.capacity
  · rw [if_pos hFits] at hMachine
    rw [hMachine]
    have hLength := length_dumped m.advanced.registers w.x
    have hStored := Ram.cell_store m.advanced.ram (hLength.symm ▸ hFits)
    rw [hLength] at hStored
    refine ⟨⟨(Ram.capacity_store _ _ _).symm ▸ hFits, fun k hk => ?_⟩, fun a hOutside => ?_⟩
    · refine (hStored _).trans ?_
      rw [if_pos ⟨Nat.le_add_right _ _, by simp only [advanced_i]; omega⟩, advanced_i,
        Nat.add_sub_cancel_left, Registers.getD_take _ hk]
      rfl
    · refine (hStored a).trans (if_neg ?_)
      simp only [advanced_i]
      omega
  · rw [if_neg hFits, hDone] at hResult
    cases hResult

/-- A load is what follows from the bytes that it reads. -/
theorem step_loadRegisters {m : Machine σ} {w : Word} {saved : Registers}
    (hWord : m.nextWord? = some w)
    (hDecode : Operation.ofDigits? w.digits = some .loadRegisters)
    (hHolds : m.ram.HoldsRegisters m.registers.i.toNat w.digits.x saved) (patience : Nat) :
    (m.step patience).result = .ok .running ∧
      (m.step patience).machine.ram = m.ram ∧
      (m.step patience).machine.registers.i = m.registers.i ∧
      ∀ k, (m.step patience).machine.registers.reg k =
        if k ≤ w.digits.x then saved.reg k else m.registers.reg k := by
  rw [← w.x_eq] at hHolds ⊢
  have hOp := nextOperation?_eq_some_iff.2 ⟨w, hWord, hDecode⟩
  obtain ⟨w', hWord', -, hMachine, hResult⟩ := step_of_nextOperation hOp patience
  cases hWord.symm.trans hWord'
  have hFits : m.advanced.registers.i.toNat + (w.x.val + 1) ≤ m.advanced.ram.capacity := hHolds.fits
  rw [execute_loadRegisters, if_pos hFits] at hMachine hResult
  rw [hMachine]
  refine ⟨hResult, rfl, rfl, fun k => ?_⟩
  refine (Registers.reg_restore _ _ k).trans ?_
  rw [List.getD_eq_getElem?_getD, List.getElem?_map]
  by_cases hk : k ≤ w.x
  · have hNumber : k.val < w.x.val + 1 := Nat.lt_succ_of_le hk
    rw [List.getElem?_range hNumber, if_pos hk, ← hHolds.cells k hk]
    rfl
  · have hNumber : w.x.val + 1 ≤ k.val := Nat.lt_of_not_le hk
    rw [List.getElem?_eq_none (by simpa using hNumber), if_neg hk]
    rfl

/-- Saved registers stay in memory as long as nobody writes over them. -/
theorem holdsRegisters_replay {m : Machine σ} {moves : List Move} {addr : Nat} {x : Fin 16}
    {saved : Registers} (h : m.ram.HoldsRegisters addr x saved)
    (hAvoid : m.Along (Avoids addr (x.val + 1)) moves) :
    (m.replay moves).ram.HoldsRegisters addr x saved where
  fits := (m.capacity_replay moves).symm ▸ h.fits
  cells k hk := by
    have hNumber : k.val < x.val + 1 := Nat.lt_succ_of_le hk
    have hUnwritten := hAvoid.mono fun _ _ hAvoids =>
      hAvoids (addr + k.val) (Nat.le_add_right _ _) (Nat.add_lt_add_left hNumber addr)
    exact (cell_replay hUnwritten).trans (h.cells k hk)

/-- In any machine, a save of `V0` to `VX` at `I` that goes through, then any moves that write none
of the saved bytes, then a load of as many registers from the same address. The load cannot fail. It
leaves `V0` to `VX` as they were at the save, the other registers as they were just before the load,
and `I` where it was. The save writes no other byte, and the load none at all. -/
theorem saved_registers_survive {m : Machine σ} {w w' : Word} {patience : Nat}
    {between : List Move} (hSave : m.nextWord? = some w)
    (hSaves : Operation.ofDigits? w.digits = some .storeRegisters)
    (hDone : (m.step patience).result = .ok .running)
    (hAvoid : (m.step patience).machine.Along
      (Avoids m.registers.i.toNat (w.digits.x.val + 1)) between)
    (hLoad : ((m.step patience).machine.replay between).nextWord? = some w')
    (hLoads : Operation.ofDigits? w'.digits = some .loadRegisters)
    (hSame : w'.digits.x = w.digits.x)
    (hIndex : ((m.step patience).machine.replay between).registers.i = m.registers.i)
    (patience' : Nat) :
    let saved := (m.step patience).machine
    let before := saved.replay between
    let o := before.step patience'
    o.result = .ok .running ∧
    (∀ k ≤ w.digits.x, o.machine.registers.reg k = m.registers.reg k) ∧
    (∀ k, w.digits.x < k → o.machine.registers.reg k = before.registers.reg k) ∧
    o.machine.registers.i = m.registers.i ∧
    (∀ a, a < m.registers.i.toNat ∨ m.registers.i.toNat + w.digits.x.val < a →
      saved.ram.cell a = m.ram.cell a) ∧
    o.machine.ram = before.ram := by
  obtain ⟨hSaved, hElsewhere⟩ := step_storeRegisters hSave hSaves hDone
  intro saved before o
  have hHolds : before.ram.HoldsRegisters before.registers.i.toNat w'.digits.x m.registers := by
    rw [hIndex, hSame]
    exact holdsRegisters_replay hSaved hAvoid
  obtain ⟨hResult, hRam, hStays, hRegisters⟩ := step_loadRegisters hLoad hLoads hHolds patience'
  rw [hSame] at hRegisters
  refine ⟨hResult, fun k hk => ?_, fun k hk => ?_, hStays.trans hIndex, hElsewhere, hRam⟩
  · exact (hRegisters k).trans (if_pos hk)
  · exact (hRegisters k).trans (if_neg (Nat.not_le.2 hk))

/-- Two registers are saved at the end of memory. The host counts the timers down, writes the
registers and loads another program, which calls, overwrites a saved register and a further one,
returns and loads the two from there. -/
theorem saved_registers_survive_reload :
    ∃ (m : Machine (Board DrawCounter Keypad)) (between : List Move),
      m.nextWord? = some ⟨0xF155⟩ ∧
      (m.step 0).result = .ok .running ∧
      (m.step 0).machine.Along (Avoids 0x2FE 2) between ∧
      ((m.step 0).machine.replay between).nextWord? = some ⟨0xF165⟩ ∧
      ((m.step 0).machine.replay between).registers.reg 1 = 0xFF ∧
      (((m.step 0).machine.replay between).step 0).machine.registers.reg 0 = m.registers.reg 0 ∧
      (((m.step 0).machine.replay between).step 0).machine.registers.reg 1 = m.registers.reg 1 ∧
      (((m.step 0).machine.replay between).step 0).machine.registers.reg 2 = 0x33 := by
  let saving : List UInt8 := [0xA2, 0xFE, 0x60, 0x11, 0x61, 0x22, 0xF1, 0x55]
  let loading : List UInt8 :=
    [0x22, 0x04, 0xF1, 0x65, 0x61, 0xFF, 0x62, 0x33, 0xA2, 0xFE, 0x00, 0xEE]
  let m : Machine (Board DrawCounter Keypad) :=
    (fresh 0x300 (Board.ofParts {} {}) default).replay [.load saving, .step 0, .step 0, .step 0]
  let host : List Move := [.tick, .poke .initial, .load loading]
  let steps : List Move := [.step 0, .step 0, .step 0, .step 0, .step 0]
  obtain ⟨hSave, hAddr, hDone, hStores, hLoad, hIndex, hFirst, hSecond⟩ :
      m.nextWord? = some ⟨0xF155⟩ ∧
      m.registers.i.toNat = 0x2FE ∧
      (m.step 0).result = .ok .running ∧
      ((m.step 0).machine.replay host).Along (fun m mv => mv = .step 0 ∧ m.nextStore? = none)
        steps ∧
      ((m.step 0).machine.replay (host ++ steps)).nextWord? = some ⟨0xF165⟩ ∧
      ((m.step 0).machine.replay (host ++ steps)).registers.i = m.registers.i ∧
      ((m.step 0).machine.replay (host ++ steps)).registers.reg 1 = 0xFF ∧
      ((m.step 0).machine.replay (host ++ steps)).registers.reg 2 = 0x33 := by
    decide +kernel
  have hAvoid : (m.step 0).machine.Along (Avoids 0x2FE 2) (host ++ steps) := by
    refine along_append_iff.2 ⟨⟨?_, ?_, ?_, trivial⟩, hStores.mono ?_⟩
    · intro a _ _ hWrites
      cases hWrites
    · intro a _ _ hWrites
      cases hWrites
    · intro a hLow _ hWrites
      cases hWrites with
      | load _ _ hHigh =>
          have hLength : loading.length = 12 := rfl
          omega
    · rintro m mv ⟨rfl, hNone⟩
      exact avoids_step_of_no_store hNone (by decide) 2 0
  obtain ⟨-, hBack, hOthers, -⟩ :=
    saved_registers_survive hSave (by decide) hDone (by rw [hAddr]; exact hAvoid) hLoad (by decide)
      rfl hIndex 0
  refine ⟨m, host ++ steps, hSave, hDone, hAvoid, hLoad, hFirst, hBack 0 (by decide),
    hBack 1 (by decide), (hOthers 2 (by decide)).trans hSecond⟩

end Machine

end Chip8
