import Mathlib.Tactic
import Chip8.Device.Keypad
import Chip8.Proofs.KeyWaits
import Chip8.Proofs.Reference.Semantics
import Chip8.Proofs.Stepping
import Chip8.Proofs.Torus

/-!
# Machines refine machines in natural numbers

`Machine.plain` reads a machine as numbers and forgets nothing (`plain_injective`). Each change that
an operation makes to a machine has its image on numbers; from these, one operation after the other,
a step that succeeds is the reference step.
-/

namespace Chip8

namespace Sprite

theorem columns_eq (row : UInt8) :
    columns row = (List.range 8).filter fun col => row.toNat.testBit (7 - col) := by
  apply List.filter_congr
  intro col hCol
  exact isSet_eq_testBit row (List.mem_range.1 hCol)

/-- The set pixels by the number of their row. -/
theorem cellsFrom_eq_flatMap (first : Nat) (rows : List UInt8) :
    cellsFrom first rows =
      (List.range rows.length).flatMap fun row =>
        (columns (rows.getD row 0)).map (·, first + row) := by
  induction rows generalizing first with
  | nil => rfl
  | cons bits rest ih =>
      rw [cellsFrom, ih, List.length_cons, List.range_succ_eq_map, List.flatMap_cons,
        List.flatMap_map]
      congr 1
      apply List.flatMap_congr
      intro row _
      rw [List.getD_cons_succ, Nat.add_assoc, Nat.add_comm 1 row]

theorem eq_of_place {x y : Nat} {cell pixel : Nat × Nat} (h : place x y cell = .ok pixel) :
    pixel = (x + cell.1, y + cell.2) := by
  unfold place at h
  cases hx : Checked.addSize x cell.1 with
  | error cause =>
      rw [hx] at h
      cases h
  | ok px =>
      cases hy : Checked.addSize y cell.2 with
      | error cause =>
          rw [hx, hy] at h
          cases h
      | ok py =>
          rw [hx, hy] at h
          obtain ⟨rfl, -⟩ := Checked.size_eq_ok_iff.1 hx
          obtain ⟨rfl, -⟩ := Checked.size_eq_ok_iff.1 hy
          exact (Except.ok.inj h).symm

end Sprite

/-- A painting that is not aborted flips the pixels of the sprite in order. -/
theorem Painting.paint_eq_toggleAll {σ : Type} [Device σ] {x y : Nat} (p : Painting σ)
    (cells : List (Nat × Nat)) (hOk : (paint x y p cells).2 = .ok ()) :
    (paint x y p cells).1.device =
        (PlainMachine.toggleAll p.device (cells.map fun c => (x + c.1, y + c.2))).1 ∧
      (paint x y p cells).1.collision =
        (p.collision ||
          (PlainMachine.toggleAll p.device (cells.map fun c => (x + c.1, y + c.2))).2) := by
  induction cells generalizing p with
  | nil => exact ⟨rfl, (Bool.or_false _).symm⟩
  | cons cell rest ih =>
      cases hPlace : Sprite.place x y cell with
      | error cause =>
          simp only [paint, hPlace] at hOk
          cases hOk
      | ok pixel =>
          obtain rfl := Sprite.eq_of_place hPlace
          simp only [paint, hPlace, List.map_cons, PlainMachine.toggleAll] at hOk ⊢
          cases hAnswer : (Device.toggle p.device (x + cell.1) (y + cell.2)).answer with
          | value wasLit =>
              simp only [hAnswer] at hOk ⊢
              obtain ⟨hDevice, hCollision⟩ := ih _ hOk
              refine ⟨hDevice, ?_⟩
              rw [hCollision, Bool.or_assoc]
              cases wasLit with
              | true => rfl
              | false => rfl
          | failed error =>
              simp only [hAnswer] at hOk ⊢
              obtain ⟨hDevice, hCollision⟩ := ih _ hOk
              exact ⟨hDevice, hCollision⟩
          | aborted cause =>
              simp only [hAnswer] at hOk
              cases hOk

/-- Asking until a key is down passes through the same devices as a wait. -/
theorem KeyWait.device_await {σ : Type} [Device σ] (key : UInt8) (patience : Nat) (d : σ)
    (effects : Effects) :
    (await key patience d effects).device = PlainMachine.askUntilDown key patience d := by
  induction patience generalizing d effects with
  | zero => rfl
  | succ patience ih =>
      rw [await, PlainMachine.askUntilDown]
      cases hAnswer : (Device.pressed d key).answer with
      | value answer =>
          cases answer with
          | true => rfl
          | false => exact ih _ _
      | failed error => rfl
      | aborted cause => rfl

namespace Machine

variable {σ : Type}

/-- A machine in natural numbers. -/
def plain (m : Machine σ) : PlainMachine σ where
  capacity := m.ram.capacity
  cells := fun a => (m.ram.cell a).toNat
  v := fun x => (m.registers.reg x).toNat
  i := m.registers.i.toNat
  pc := m.registers.pc.toNat
  programEnd := m.registers.programEnd
  delayTimer := m.registers.delayTimer.toNat
  soundTimer := m.registers.soundTimer.toNat
  depth := m.depth
  state := m.state
  random := m.random
  device := m.device

/-- Two machines that are the same in numbers are the same. -/
theorem plain_injective : Function.Injective (plain : Machine σ → PlainMachine σ) := by
  intro m m' h
  obtain ⟨ram, registers, depth, state, random, device⟩ := m
  obtain ⟨ram', registers', depth', state', random', device'⟩ := m'
  simp only [plain, PlainMachine.mk.injEq, UInt16.toNat_inj, UInt8.toNat_inj] at h
  obtain ⟨hCapacity, hCells, hV, hI, hPc, hEnd, hDelay, hSound, rfl, rfl, rfl, rfl⟩ := h
  have hRam : ram = ram' := by
    obtain ⟨bytes⟩ := ram
    obtain ⟨bytes'⟩ := ram'
    congr 1
    apply Array.ext hCapacity
    intro a hLeft hRight
    have hCell := congrFun hCells a
    rwa [UInt8.toNat_inj, Ram.cell_of_lt hLeft, Ram.cell_of_lt hRight] at hCell
  have hRegisters : registers = registers' := by
    obtain ⟨v, i, pc, programEnd, delay, sound⟩ := registers
    obtain ⟨v', i', pc', programEnd', delay', sound'⟩ := registers'
    obtain rfl : v = v' := by
      apply Vector.ext
      intro k hk
      exact UInt8.toNat_inj.1 (congrFun hV ⟨k, hk⟩)
    simp only at hI hPc hEnd hDelay hSound
    subst hI hPc hEnd hDelay hSound
    rfl
  rw [hRam, hRegisters]

theorem plain_withPc (m : Machine σ) (pc : UInt16) :
    (m.withPc pc).plain = { m.plain with pc := pc.toNat } := rfl

theorem plain_advanced (m : Machine σ) :
    m.advanced.plain = { m.plain with pc := PlainMachine.nextOf m.plain.pc } := by
  rw [advanced, plain_withPc, toNat_nextAddress]
  rfl

theorem plain_skipIf (m : Machine σ) {condition : Bool} {p : Prop} [Decidable p]
    (h : condition = true ↔ p) : (m.skipIf condition).plain = m.plain.skipIf p := by
  unfold PlainMachine.skipIf skipIf
  by_cases hp : p
  · rw [if_pos hp, if_pos (h.2 hp), plain_withPc, toNat_nextAddress]
    rfl
  · rw [if_neg hp, if_neg fun hCondition => hp (h.1 hCondition)]

theorem plain_withReg (m : Machine σ) (x : Fin 16) (value : UInt8) :
    (m.withReg x value).plain = m.plain.setReg x value.toNat := by
  have hV : (fun y => ((m.registers.setReg x value).reg y).toNat) =
      Function.update (fun y => (m.registers.reg y).toNat) x value.toNat := by
    funext y
    rw [Registers.reg_setReg, Function.update_apply]
    by_cases hy : x = y
    · rw [if_pos hy, if_pos hy.symm]
    · rw [if_neg hy, if_neg fun h => hy h.symm]
  exact congrArg (fun v => { m.plain with v }) hV

theorem plain_setFlag (m : Machine σ) (on : Bool) :
    (m.withRegisters (m.registers.setFlag on)).plain =
      m.plain.setReg 0xF (if on then 1 else 0) := by
  cases on with
  | true => exact m.plain_withReg Registers.flagRegister 1
  | false => exact m.plain_withReg Registers.flagRegister 0

theorem subBorrow_toNat (a b : UInt8) :
    ((RegisterOp.subBorrow a b).1.toNat, (RegisterOp.subBorrow a b).2.toNat) =
      ((a.toNat + 256 - b.toNat) % 256, if b.toNat ≤ a.toNat then 1 else 0) := by
  have hb := b.toNat_lt
  have hDifference : (a - b).toNat = (a.toNat + 256 - b.toNat) % 256 := by
    rw [UInt8.toNat_sub]
    omega
  simp only [RegisterOp.subBorrow, hDifference, UInt8.lt_iff_toNat_lt]
  by_cases h : b.toNat ≤ a.toNat
  · rw [if_pos h, if_neg (Nat.not_lt.2 h)]
    rfl
  · rw [if_neg h, if_pos (Nat.lt_of_not_le h)]
    rfl

theorem shiftOutRight_toNat (a : UInt8) :
    ((RegisterOp.shiftOutRight a).1.toNat, (RegisterOp.shiftOutRight a).2.toNat) =
      (a.toNat / 2, a.toNat % 2) := by
  have hShift : (a >>> 1).toNat = a.toNat / 2 := by
    rw [UInt8.toNat_shiftRight]
    exact Nat.shiftRight_eq_div_pow _ 1
  have hBit : (a &&& 0x01).toNat = a.toNat % 2 := by
    rw [UInt8.toNat_and]
    exact Nat.and_two_pow_sub_one_eq_mod _ 1
  rw [RegisterOp.shiftOutRight, hShift, hBit]

theorem shiftOutLeft_toNat (a : UInt8) :
    ((RegisterOp.shiftOutLeft a).1.toNat, (RegisterOp.shiftOutLeft a).2.toNat) =
      (2 * a.toNat % 256, a.toNat / 128) := by
  have hShift : (a <<< 1).toNat = 2 * a.toNat % 256 := by
    rw [UInt8.toNat_shiftLeft, Nat.mul_comm]
    exact congrArg (· % 256) (Nat.shiftLeft_eq a.toNat 1)
  have hBit : ((a &&& 0x80) >>> 7).toNat = a.toNat / 128 := by
    rw [UInt8.toNat_shiftRight, UInt8.toNat_and]
    change (a.toNat &&& 2 ^ 7) >>> 7 = _
    rw [Nat.shiftRight_and_distrib, Nat.shiftRight_eq_div_pow]
    change (a.toNat / 128) &&& (2 ^ 1 - 1) = _
    rw [Nat.and_two_pow_sub_one_eq_mod]
    have ha := a.toNat_lt
    omega
  rw [RegisterOp.shiftOutLeft, hShift, hBit]

/-- A result with its flag, in numbers. -/
theorem flagged_toNat {r : UInt8 × UInt8} {value flag : Nat}
    (h : (r.1.toNat, r.2.toNat) = (value, flag)) :
    ((RegisterOp.flagged r).1.toNat, (RegisterOp.flagged r).2.map UInt8.toNat) =
      (value, some flag) := by
  obtain ⟨rfl, rfl⟩ := Prod.mk.inj h
  rfl

/-- The results of the operations between registers are the arithmetic ones. -/
theorem combine_toNat (op : RegisterOp) (vx vy : UInt8) :
    ((op.apply vx vy).1.toNat, (op.apply vx vy).2.map UInt8.toNat) =
      PlainMachine.combine op vx.toNat vy.toNat := by
  have hx := vx.toNat_lt
  have hy := vy.toNat_lt
  cases op with
  | copy => rfl
  | or => exact congrArg (·, none) (UInt8.toNat_or vx vy)
  | and => exact congrArg (·, none) (UInt8.toNat_and vx vy)
  | xor => exact congrArg (·, none) (UInt8.toNat_xor vx vy)
  | add =>
      simp only [RegisterOp.apply, RegisterOp.flagged, RegisterOp.addCarry, PlainMachine.combine,
        UInt8.toNat_add, Option.map_some]
      split <;> rfl
  | sub => exact flagged_toNat (subBorrow_toNat vx vy)
  | shiftRight => exact flagged_toNat (shiftOutRight_toNat vx)
  | subFrom => exact flagged_toNat (subBorrow_toNat vy vx)
  | shiftLeft => exact flagged_toNat (shiftOutLeft_toNat vx)

theorem plain_combine (m : Machine σ) (op : RegisterOp) (x y : Fin 16) :
    (m.combine op x y).plain =
      m.plain.setResult x (PlainMachine.combine op (m.plain.v x) (m.plain.v y)) := by
  have hResult := combine_toNat op (m.registers.reg x) (m.registers.reg y)
  change _ = m.plain.setResult x
    (PlainMachine.combine op (m.registers.reg x).toNat (m.registers.reg y).toNat)
  rw [← hResult]
  unfold combine
  obtain ⟨value, flag⟩ := op.apply (m.registers.reg x) (m.registers.reg y)
  cases flag with
  | none => exact m.plain_withReg x value
  | some flag =>
      change ((m.withReg x value).withReg Registers.flagRegister flag).plain = _
      rw [plain_withReg, plain_withReg]
      rfl

/-- Bytes stored in memory are bytes stored in the cells. -/
theorem plain_store (m : Machine σ) {addr : Nat} (data : List UInt8)
    (hFits : addr + data.length ≤ m.ram.capacity) :
    plain { m with ram := ⟨Ram.store m.ram.bytes addr data⟩ } =
      m.plain.store addr (data.map UInt8.toNat) := by
  have hCells : (fun a => (Ram.cell ⟨Ram.store m.ram.bytes addr data⟩ a).toNat) =
      fun a => if addr ≤ a ∧ a < addr + (data.map UInt8.toNat).length then
        (data.map UInt8.toNat).getD (a - addr) 0
      else (m.ram.cell a).toNat := by
    funext a
    rw [Ram.cell_store m.ram hFits, List.length_map, apply_ite UInt8.toNat]
    congr 1
    rw [List.getD_eq_getElem?_getD, List.getD_eq_getElem?_getD, List.getElem?_map]
    cases data[a - addr]? with
    | none => rfl
    | some b => rfl
  have hCapacity := Ram.capacity_store m.ram addr data
  simp only [plain, PlainMachine.store, hCells, hCapacity]

theorem plain_pixels (m : Machine σ) (x y height : Nat) {rows : List UInt8}
    (hRows : rows = (List.range height).map fun k => m.ram.cell (m.registers.i.toNat + k)) :
    m.plain.pixels x y height = (Sprite.cells rows).map fun c => (x + c.1, y + c.2) := by
  have hLength : rows.length = height := by rw [hRows, List.length_map, List.length_range]
  rw [Sprite.cells, Sprite.cellsFrom_eq_flatMap, hLength, List.map_flatMap]
  apply List.flatMap_congr
  intro row hRow
  have hCell : rows.getD row 0 = m.ram.cell (m.registers.i.toNat + row) := by
    rw [hRows, List.getD_eq_getElem?_getD, List.getElem?_map,
      List.getElem?_range (List.mem_range.1 hRow)]
    rfl
  rw [hCell, Sprite.columns_eq, List.map_map, Nat.zero_add]
  rfl

theorem keyOf_eq (value : UInt8) : keyOf value = PlainMachine.keyOf value.toNat := by
  rw [← UInt8.toNat_inj, keyOf, toNat_and_nibble, PlainMachine.keyOf, UInt8.toNat_ofNat']
  omega

theorem decimalDigits_toNat (value : UInt8) :
    (decimalDigits value).map UInt8.toNat =
      [value.toNat / 100, value.toNat / 10 % 10, value.toNat % 10] := by
  have hHundreds : (value / 100).toNat = value.toNat / 100 := UInt8.toNat_div _ _
  have hTens : (value / 10 % 10).toNat = value.toNat / 10 % 10 := by
    rw [UInt8.toNat_mod, UInt8.toNat_div]
    rfl
  have hOnes : (value % 10).toNat = value.toNat % 10 := UInt8.toNat_mod _ _
  rw [decimalDigits, List.map_cons, List.map_cons, List.map_cons, List.map_nil, hHundreds, hTens,
    hOnes]

theorem registers_toNat (m : Machine σ) :
    m.registers.v.toList.map UInt8.toNat = (List.finRange 16).map m.plain.v := by
  apply List.ext_getElem
  · rw [List.length_map, List.length_map, Vector.length_toList, List.length_finRange]
  · intro k hLeft hRight
    rw [List.getElem_map, List.getElem_map, Vector.getElem_toList, List.getElem_finRange]
    rfl

/-- Registers read from memory are the cells in their order; the registers behind them stay. -/
theorem plain_restore (m : Machine σ) (addr : Nat) (x : Fin 16) :
    (m.withRegisters (m.registers.restore
        ((List.range (x.val + 1)).map fun k => m.ram.cell (addr + k)))).plain =
      { m.plain with
        v := fun y => if y ≤ x then m.plain.cells (addr + y) else m.plain.v y } := by
  have hV : (fun y => ((m.registers.restore
      ((List.range (x.val + 1)).map fun k => m.ram.cell (addr + k))).reg y).toNat) =
      fun y => if y ≤ x then m.plain.cells (addr + y) else m.plain.v y := by
    funext y
    rw [Registers.reg_restore, List.getD_eq_getElem?_getD, List.getElem?_map]
    by_cases hy : y ≤ x
    · have hIndex : y.val < x.val + 1 := Nat.lt_succ_of_le hy
      rw [if_pos hy, List.getElem?_range hIndex]
      rfl
    · have hLength : (List.range (x.val + 1)).length ≤ y.val := by
        rw [List.length_range]
        exact Nat.lt_of_not_le hy
      rw [if_neg hy, List.getElem?_eq_none hLength]
      rfl
  exact congrArg (fun v => { m.plain with v }) hV

/-- The digits of the word at the program counter. -/
theorem digits_of_readWord {m : Machine σ} {w : Word}
    (h : m.ram.readWord m.registers.pc.toNat = .ok w.bits) :
    Digits.ofNat (m.plain.word m.plain.pc) = w.digits := by
  rw [Word.digits, (Ram.readWord_eq_ok_iff.1 h).2]
  rfl

variable [Device σ]

theorem plain_drawSprite (m : Machine σ) (x y height : UInt8)
    (hOk : (m.drawSprite x y height).result = .ok ()) :
    (m.drawSprite x y height).machine.plain = m.plain.draw x.toNat y.toNat height.toNat := by
  cases hRead : m.ram.read m.registers.i.toNat height.toNat with
  | error fault =>
      rw [drawSprite_outOfRange (Ram.read_eq_error_iff.1 hRead).1] at hOk
      cases hOk
  | ok rows =>
      obtain ⟨-, hRows⟩ := Ram.read_eq_ok_iff.1 hRead
      have hPixels := m.plain_pixels x.toNat y.toNat height.toNat hRows
      cases hPaint : Painting.paint x.toNat y.toNat { device := m.device }
          (Sprite.cells rows.toList) with
      | mk p painted =>
          cases painted with
          | error cause =>
              rw [(drawSprite_aborted hRead hPaint).2] at hOk
              cases hOk
          | ok done =>
              obtain ⟨hDevice, hCollision⟩ := Painting.paint_eq_toggleAll (x := x.toNat)
                (y := y.toNat) { device := m.device } (Sprite.cells rows.toList)
                (by rw [hPaint])
              rw [hPaint, ← hPixels] at hDevice hCollision
              rw [(drawSprite_painted hRead hPaint).1]
              apply (plain_setFlag { m with device := p.device } p.collision).trans
              simp only at hDevice hCollision
              rw [hCollision, hDevice, Bool.false_or]
              rfl

theorem plain_skipIfPressed (m : Machine σ) (value : UInt8) (expected : Bool)
    (hOk : (m.skipIfPressed (keyOf value) expected).result = .ok ()) :
    (m.skipIfPressed (keyOf value) expected).machine.plain =
      m.plain.skipIfPressed value.toNat expected := by
  cases hAnswer : (Device.pressed m.device (keyOf value)).answer with
  | value answer =>
      rw [skipIfPressed_value hAnswer, PlainMachine.skipIfPressed, ← keyOf_eq]
      apply plain_skipIf { m with device := _ }
      change _ ↔ (Device.pressed m.device (keyOf value)).answer = _
      rw [hAnswer, beq_iff_eq, Answer.value.injEq]
  | failed error =>
      rw [skipIfPressed_stopped (by rw [hAnswer]; rfl)] at hOk
      cases hOk
  | aborted cause =>
      rw [skipIfPressed_stopped (by rw [hAnswer]; rfl)] at hOk
      cases hOk

theorem plain_ret (m : Machine σ) (patience : Nat) (w : Word)
    (hOk : (m.execute patience .ret w).result = .ok ()) :
    (m.execute patience .ret w).machine.plain = m.plain.execute patience w.digits .ret := by
  cases hPop : m.stack.pop m.ram with
  | error cause =>
      rw [execute_ret, hPop] at hOk
      cases hOk
  | ok popped =>
      obtain ⟨pc, stack⟩ := popped
      obtain ⟨below, hDepth, rfl, hWord⟩ := CallStack.eq_of_pop hPop
      rw [execute_ret, hPop]
      change plain (withPc { m with depth := below } pc) = _
      have hBelow : m.plain.depth - 1 = below := Nat.sub_eq_of_eq_add hDepth
      rw [plain_withPc, (Ram.readWord_eq_ok_iff.1 hWord).2, PlainMachine.execute, hBelow]
      rfl

theorem plain_call (m : Machine σ) (patience : Nat) (w : Word)
    (hOk : (m.execute patience .call w).result = .ok ()) :
    (m.execute patience .call w).machine.plain = m.plain.execute patience w.digits .call := by
  rw [execute_call] at hOk ⊢
  split at hOk
  · cases hOk
  · rename_i hRoom
    split at hOk
    · rename_i hFits
      rw [if_neg hRoom, if_pos hFits]
      have hStore := m.plain_store (Ram.wordBytes m.registers.pc) hFits
      rw [Ram.wordBytes_toNat] at hStore
      calc plain (withPc { m with
            ram := ⟨Ram.store m.ram.bytes (CallStack.slotOf m.depth)
              (Ram.wordBytes m.registers.pc)⟩
            depth := m.depth + 1 } w.address)
          = { plain { m with
                ram := ⟨Ram.store m.ram.bytes (CallStack.slotOf m.depth)
                  (Ram.wordBytes m.registers.pc)⟩ } with
              depth := m.depth + 1
              pc := w.address.toNat } := rfl
        _ = m.plain.execute patience w.digits .call := by
            rw [hStore, w.toNat_address]
            rfl
    · cases hOk

theorem plain_storeDecimal (m : Machine σ) (patience : Nat) (w : Word)
    (hOk : (m.execute patience .storeDecimal w).result = .ok ()) :
    (m.execute patience .storeDecimal w).machine.plain =
      m.plain.execute patience w.digits .storeDecimal := by
  rw [execute_storeDecimal] at hOk ⊢
  split at hOk
  · rename_i hFits
    rw [if_pos hFits]
    apply (m.plain_store _ hFits).trans
    rw [decimalDigits_toNat, w.x_eq]
    rfl
  · cases hOk

theorem plain_storeRegisters (m : Machine σ) (patience : Nat) (w : Word)
    (hOk : (m.execute patience .storeRegisters w).result = .ok ()) :
    (m.execute patience .storeRegisters w).machine.plain =
      m.plain.execute patience w.digits .storeRegisters := by
  rw [execute_storeRegisters] at hOk ⊢
  split at hOk
  · rename_i hFits
    rw [if_pos hFits]
    rw [← length_dumped m.registers w.x] at hFits
    apply (m.plain_store _ hFits).trans
    rw [List.map_take, m.registers_toNat, ← List.map_take, w.x_eq]
    rfl
  · cases hOk

theorem plain_loadRegisters (m : Machine σ) (patience : Nat) (w : Word)
    (hOk : (m.execute patience .loadRegisters w).result = .ok ()) :
    (m.execute patience .loadRegisters w).machine.plain =
      m.plain.execute patience w.digits .loadRegisters := by
  rw [execute_loadRegisters] at hOk ⊢
  split at hOk
  · rename_i hFits
    rw [if_pos hFits]
    apply (m.plain_restore _ _).trans
    rw [w.x_eq]
    rfl
  · cases hOk

/-- An operation that succeeds does what it does in numbers. -/
theorem plain_execute (m : Machine σ) (patience : Nat) (op : Operation) (w : Word)
    (hOk : (m.execute patience op w).result = .ok ()) :
    (m.execute patience op w).machine.plain = m.plain.execute patience w.digits op := by
  have hX : (m.registers.reg w.x).toNat = m.plain.v w.digits.x := by
    rw [w.x_eq]
    rfl
  have hY : (m.registers.reg w.y).toNat = m.plain.v w.digits.y := by
    rw [w.y_eq]
    rfl
  have hConstant := w.toNat_constant
  cases op with
  | systemCall => rfl
  | clearScreen => exact congrArg plain m.clearScreen_machine
  | ret => exact m.plain_ret patience w hOk
  | jump => exact congrArg (fun pc => { m.plain with pc }) w.toNat_address
  | call => exact m.plain_call patience w hOk
  | skipEqualConstant =>
      apply plain_skipIf
      rw [beq_iff_eq, ← UInt8.toNat_inj, hX, hConstant]
  | skipUnequalConstant =>
      apply plain_skipIf
      rw [bne_iff_ne, Ne, ← UInt8.toNat_inj, hX, hConstant]
  | skipEqualRegister =>
      apply plain_skipIf
      rw [beq_iff_eq, ← UInt8.toNat_inj, hX, hY]
  | skipUnequalRegister =>
      apply plain_skipIf
      rw [bne_iff_ne, Ne, ← UInt8.toNat_inj, hX, hY]
  | loadConstant =>
      apply (m.plain_withReg w.x w.constant).trans
      rw [hConstant, w.x_eq]
      rfl
  | addConstant =>
      apply (m.plain_withReg w.x (m.registers.reg w.x + w.constant)).trans
      rw [UInt8.toNat_add, hX, hConstant, w.x_eq]
      rfl
  | register op =>
      apply (m.plain_combine op w.x w.y).trans
      rw [w.x_eq, w.y_eq]
      rfl
  | loadIndex => exact congrArg (fun i => { m.plain with i }) w.toNat_address
  | jumpOffset =>
      have hByte := (m.registers.reg 0).toNat_lt
      have hSum : (w.address + (m.registers.reg 0).toUInt16).toNat =
          w.digits.address + (m.registers.reg 0).toNat := by
        rw [UInt16.toNat_add, UInt8.toNat_toUInt16, w.toNat_address, Digits.address]
        omega
      rw [execute_jumpOffset]
      exact congrArg (fun pc => { m.plain with pc }) hSum
  | random =>
      apply (plain_withReg { m with random := m.random.next.2 } w.x
        (m.random.next.1 &&& w.constant)).trans
      rw [UInt8.toNat_and, hConstant, w.x_eq]
      rfl
  | draw =>
      apply (m.plain_drawSprite _ _ _ hOk).trans
      rw [hX, hY, w.toNat_nibble]
      rfl
  | skipPressed =>
      apply (m.plain_skipIfPressed _ _ hOk).trans
      rw [hX]
      rfl
  | skipReleased =>
      apply (m.plain_skipIfPressed _ _ hOk).trans
      rw [hX]
      rfl
  | readDelay =>
      apply (m.plain_withReg w.x m.registers.delayTimer).trans
      rw [w.x_eq]
      rfl
  | awaitKey =>
      have hKey : keyOf (m.registers.reg w.x) = PlainMachine.keyOf (m.plain.v w.digits.x) := by
        rw [keyOf_eq, hX]
      rw [PlainMachine.execute, ← hKey]
      exact congrArg (fun device => { m.plain with device })
        (KeyWait.device_await (keyOf (m.registers.reg w.x)) patience m.device _)
  | setDelay => exact congrArg (fun delayTimer => { m.plain with delayTimer }) hX
  | setSound => exact congrArg (fun soundTimer => { m.plain with soundTimer }) hX
  | addIndex =>
      have hSum : (m.registers.i + (m.registers.reg w.x).toUInt16).toNat =
          (m.plain.i + m.plain.v w.digits.x) % 0x10000 := by
        rw [UInt16.toNat_add, UInt8.toNat_toUInt16, hX]
        rfl
      exact congrArg (fun i => { m.plain with i }) hSum
  | loadGlyph =>
      have hGlyph : (UInt16.ofNat (5 * ((m.registers.reg w.x).toNat % 16))).toNat =
          5 * (m.plain.v w.digits.x % 16) := by
        rw [UInt16.toNat_ofNat', hX]
        omega
      rw [execute_loadGlyph]
      exact congrArg (fun i => { m.plain with i }) hGlyph
  | storeDecimal => exact m.plain_storeDecimal patience w hOk
  | storeRegisters => exact m.plain_storeRegisters patience w hOk
  | loadRegisters => exact m.plain_loadRegisters patience w hOk

/-- A step of a running machine that has a word to execute, and succeeds, is the reference step. -/
theorem step_plain (m : Machine σ) (patience : Nat) (hRunning : m.state = .running)
    (hEnd : m.registers.pc.toNat + 2 ≤ m.registers.programEnd)
    (hMemory : m.registers.pc.toNat + 2 ≤ m.ram.capacity) {s : RunState}
    (hOk : (m.step patience).result = .ok s) :
    s = .running ∧ (m.step patience).machine.plain = m.plain.step patience := by
  rcases m.step_cases with ⟨hState, -⟩ | ⟨-, hPast, -⟩ | ⟨-, -, hOut, -⟩ |
    ⟨w, hWord, hDecode, hStep⟩ | ⟨w, op, mnemonic, hWord, hDecode, hStep⟩
  · rw [hRunning] at hState
    cases hState
  · exact absurd hPast (Nat.not_lt.2 hEnd)
  · exact absurd hOut (Nat.not_lt.2 hMemory)
  · have hDigits := digits_of_readWord (nextWord?_eq_some_iff.1 hWord).2.2
    rw [hStep] at hOk ⊢
    refine ⟨(Except.ok.inj hOk).symm, ?_⟩
    change m.advanced.plain = _
    rw [plain_advanced, PlainMachine.step]
    simp only [hDigits, hDecode]
  · have hDigits := digits_of_readWord (nextWord?_eq_some_iff.1 hWord).2.2
    rw [hStep] at hOk ⊢
    change (m.advanced.execute patience op w).result.map _ = _ at hOk
    cases hResult : (m.advanced.execute patience op w).result with
    | error cause =>
        rw [hResult] at hOk
        cases hOk
    | ok done =>
        rw [hResult] at hOk
        refine ⟨(Except.ok.inj hOk).symm, ?_⟩
        change (m.advanced.execute patience op w).machine.plain = _
        rw [plain_execute _ _ _ _ hResult, plain_advanced, PlainMachine.step]
        simp only [hDigits, hDecode]

/-- Adding `VF` to itself: the flag that is left is the carry. -/
theorem step_plain_add_flag_flag :
    ∃ m : Machine (Board DrawCounter Keypad),
      m.state = .running ∧ m.registers.pc.toNat + 2 ≤ m.registers.programEnd ∧
        m.registers.pc.toNat + 2 ≤ m.ram.capacity ∧ (m.step 0).result = .ok .running ∧
        m.registers.flag = 200 ∧ (m.step 0).machine.registers.flag = 1 ∧
        (m.step 0).machine.plain = m.plain.step 0 := by
  let m : Machine (Board DrawCounter Keypad) :=
    { ram := ⟨Array.replicate 0x200 0 ++ #[0x8F, 0xF4]⟩
      registers := { Registers.initial with v := Vector.replicate 16 200, programEnd := 0x202 }
      depth := 0
      state := .running
      random := default
      device := Board.ofParts {} {} }
  have hEnd : m.registers.pc.toNat + 2 ≤ m.registers.programEnd := by decide
  have hMemory : m.registers.pc.toNat + 2 ≤ m.ram.capacity := by decide +kernel
  have hOk : (m.step 0).result = .ok .running := by decide +kernel
  exact ⟨m, rfl, hEnd, hMemory, hOk, rfl, by decide +kernel,
    (m.step_plain 0 rfl hEnd hMemory hOk).2⟩

end Machine

end Chip8
