import Chip8.Machine.Run
import Chip8.Proofs.Decoding
import Chip8.Proofs.ReturnStack

/-!
# What a step can do

`Machine.nextWord?` is the word that the next step will execute, if it comes that far.
`Machine.step_cases` lists everything a step can do, and each operation that is more than a change
of registers gets one lemma that says what it does. Later modules use these and unfold no operation.
-/

namespace Chip8

theorem toNat_nextAddress (pc : UInt16) : (nextAddress pc).toNat = min (pc.toNat + 2) 0xFFFF := by
  rw [nextAddress, UInt16.toNat_ofNat']
  exact Nat.mod_eq_of_lt (Nat.lt_succ_of_le (Nat.min_le_right _ _))

/-- Restoring registers leaves all but the byte registers alone. -/
theorem Registers.exists_restore (r : Registers) (bytes : List UInt8) :
    ∃ v, r.restore bytes = { r with v } :=
  ⟨_, rfl⟩

namespace Machine

variable {σ : Type}

/-- The machine with the program counter past the instruction that it is about to execute. -/
def advanced (m : Machine σ) : Machine σ :=
  m.withPc (nextAddress m.registers.pc)

/-- The machine `m'` is `m` with another device and with the program counter `distance` bytes
further on, but at most at the last address. -/
def Moved (m : Machine σ) (distance : Nat) (device : σ) (m' : Machine σ) : Prop :=
  ∃ pc, m' = { m with registers := { m.registers with pc }, device } ∧
    pc.toNat = min (m.registers.pc.toNat + distance) 0xFFFF

theorem Moved.device_eq {m m' : Machine σ} {distance : Nat} {device : σ}
    (h : m.Moved distance device m') : m'.device = device := by
  obtain ⟨pc, rfl, -⟩ := h
  rfl

theorem Moved.toNat_pc {m m' : Machine σ} {distance : Nat} {device : σ}
    (h : m.Moved distance device m') :
    m'.registers.pc.toNat = min (m.registers.pc.toNat + distance) 0xFFFF := by
  obtain ⟨pc, rfl, hPc⟩ := h
  exact hPc

theorem moved_advanced (m : Machine σ) (device : σ) : m.Moved 2 device { m.advanced with device } :=
  ⟨_, rfl, toNat_nextAddress _⟩

/-- A skip passes over one more instruction. -/
theorem moved_skipIf (m : Machine σ) (device : σ) (condition : Bool) :
    m.Moved (if condition then 4 else 2) device
      ({ m.advanced with device }.skipIf condition) := by
  cases condition with
  | false => exact m.moved_advanced device
  | true =>
      refine ⟨nextAddress (nextAddress m.registers.pc), rfl, ?_⟩
      rw [toNat_nextAddress, toNat_nextAddress, if_pos rfl]
      omega

/-- The word that the next step executes. There is none when the machine has halted or is about to
halt, or when the word does not lie in memory. -/
def nextWord? (m : Machine σ) : Option Word :=
  if m.state = .running ∧ m.registers.pc.toNat + 2 ≤ m.registers.programEnd then
    (m.ram.readWord m.registers.pc.toNat).toOption.map Word.mk
  else none

/-- The operation that the next step executes. -/
def nextOperation? (m : Machine σ) : Option Operation :=
  m.nextWord?.bind fun w => Operation.ofDigits? w.digits

theorem nextWord?_eq_some_iff {m : Machine σ} {w : Word} :
    m.nextWord? = some w ↔
      m.state = .running ∧ m.registers.pc.toNat + 2 ≤ m.registers.programEnd ∧
        m.ram.readWord m.registers.pc.toNat = .ok w.bits := by
  unfold nextWord?
  by_cases hGoes : m.state = .running ∧ m.registers.pc.toNat + 2 ≤ m.registers.programEnd
  · rw [if_pos hGoes, ← and_assoc, and_iff_right hGoes]
    cases m.ram.readWord m.registers.pc.toNat with
    | error fault => simp [Except.toOption]
    | ok bits =>
        cases w
        simp [Except.toOption]
  · rw [if_neg hGoes]
    exact iff_of_false (fun h => nomatch h) fun h => hGoes ⟨h.1, h.2.1⟩

theorem nextOperation?_eq_some_iff {m : Machine σ} {op : Operation} :
    m.nextOperation? = some op ↔
      ∃ w, m.nextWord? = some w ∧ Operation.ofDigits? w.digits = some op :=
  Option.bind_eq_some_iff

variable [Device σ]

/-- Everything that a step can do. Which case it is does not depend on the patience. -/
theorem step_cases (m : Machine σ) :
    (m.state = .halted ∧ ∀ patience, m.step patience = { machine := m, result := .ok .halted }) ∨
    (m.state = .running ∧ m.registers.programEnd < m.registers.pc.toNat + 2 ∧
      ∀ patience, m.step patience =
        { machine := { m with state := .halted }
          effects := .notice (.pastEnd m.registers.pc)
          result := .ok .halted }) ∨
    (m.state = .running ∧ m.registers.pc.toNat + 2 ≤ m.registers.programEnd ∧
      m.ram.capacity < m.registers.pc.toNat + 2 ∧
      ∀ patience, m.step patience =
        { machine := m
          result := .error (.fault (m.ram.outOfRange m.registers.pc.toNat 2)) }) ∨
    (∃ w, m.nextWord? = some w ∧ Operation.ofDigits? w.digits = none ∧
      ∀ patience, m.step patience =
        { machine := m.advanced
          effects := .notice (.unknownInstruction w m.registers.pc)
          result := .ok .running }) ∨
    (∃ w op mnemonic, m.nextWord? = some w ∧ Operation.ofDigits? w.digits = some op ∧
      ∀ patience, m.step patience =
        ((m.advanced.execute patience op w).map fun () => .running).after
          (.notice (.executing m.registers.pc w mnemonic))) := by
  cases hState : m.state with
  | halted =>
      refine Or.inl ⟨rfl, fun patience => ?_⟩
      rw [step, hState]
  | running =>
      have hPc := m.registers.pc.toNat_lt
      have hWordEnd : Checked.addSize m.registers.pc.toNat 2 = .ok (m.registers.pc.toNat + 2) :=
        Checked.addSize_of_lt (by unfold Checked.sizeLimit; omega)
      by_cases hEnd : m.registers.programEnd < m.registers.pc.toNat + 2
      · refine Or.inr (Or.inl ⟨rfl, hEnd, fun patience => ?_⟩)
        rw [step, hState]
        simp only [hWordEnd, if_pos hEnd]
      · right
        right
        cases hFetch : m.ram.readWord m.registers.pc.toNat with
        | error fault =>
            obtain ⟨hOut, rfl⟩ := Ram.readWord_eq_error_iff.1 hFetch
            refine Or.inl ⟨rfl, Nat.not_lt.1 hEnd, hOut, fun patience => ?_⟩
            rw [step, hState]
            simp only [hWordEnd, if_neg hEnd, hFetch]
        | ok bits =>
            have hNext : m.nextWord? = some ⟨bits⟩ :=
              nextWord?_eq_some_iff.2 ⟨hState, Nat.not_lt.1 hEnd, hFetch⟩
            have hValue := decode_value ⟨bits⟩
            cases hDecode : instructionSet.decode ⟨bits⟩ with
            | none =>
                rw [hDecode] at hValue
                refine Or.inr (Or.inl ⟨⟨bits⟩, hNext, hValue.symm, fun patience => ?_⟩)
                rw [step, hState]
                simp only [hWordEnd, if_neg hEnd, hFetch, hDecode]
                rfl
            | some entry =>
                rw [hDecode] at hValue
                refine Or.inr (Or.inr ⟨⟨bits⟩, entry.value, entry.mnemonic, hNext, hValue.symm,
                  fun patience => ?_⟩)
                rw [step, hState]
                simp only [hWordEnd, if_neg hEnd, hFetch, hDecode]
                rfl

/-- A step with a word to execute passes over it or executes its operation. -/
theorem step_of_nextWord {m : Machine σ} {w : Word} (h : m.nextWord? = some w) :
    (Operation.ofDigits? w.digits = none ∧
      ∀ patience, m.step patience =
        { machine := m.advanced
          effects := .notice (.unknownInstruction w m.registers.pc)
          result := .ok .running }) ∨
    (∃ op mnemonic, Operation.ofDigits? w.digits = some op ∧
      ∀ patience, m.step patience =
        ((m.advanced.execute patience op w).map fun () => .running).after
          (.notice (.executing m.registers.pc w mnemonic))) := by
  obtain ⟨hRunning, hEnd, hFetch⟩ := nextWord?_eq_some_iff.1 h
  rcases m.step_cases with ⟨hState, -⟩ | ⟨-, hPast, -⟩ | ⟨-, -, hOut, -⟩ |
    ⟨w', hWord, hDecode, hStep⟩ | ⟨w', op, mnemonic, hWord, hDecode, hStep⟩
  · rw [hRunning] at hState
    cases hState
  · exact absurd hPast (Nat.not_lt.2 hEnd)
  · exact absurd hOut (Nat.not_lt.2 (Ram.readWord_eq_ok_iff.1 hFetch).1)
  · rw [h] at hWord
    cases hWord
    exact Or.inl ⟨hDecode, hStep⟩
  · rw [h] at hWord
    cases hWord
    exact Or.inr ⟨op, mnemonic, hDecode, hStep⟩

/-- A step with an operation to execute executes it. -/
theorem step_of_nextOperation {m : Machine σ} {op : Operation} (h : m.nextOperation? = some op)
    (patience : Nat) :
    ∃ w, m.nextWord? = some w ∧ Operation.ofDigits? w.digits = some op ∧
      (m.step patience).machine = (m.advanced.execute patience op w).machine ∧
      (m.step patience).result =
        (m.advanced.execute patience op w).result.map fun () => .running := by
  obtain ⟨w, hWord, hDecode⟩ := nextOperation?_eq_some_iff.1 h
  refine ⟨w, hWord, hDecode, ?_⟩
  rcases step_of_nextWord hWord with ⟨hNone, -⟩ | ⟨op', mnemonic, hSome, hStep⟩
  · rw [hDecode] at hNone
    cases hNone
  · rw [hDecode] at hSome
    cases hSome
    rw [hStep]
    exact ⟨rfl, rfl⟩

/-- A step without an operation to execute changes the program counter or the run state at most. -/
theorem step_of_no_operation {m : Machine σ} (h : m.nextOperation? = none) (patience : Nat) :
    ∃ registers state, (m.step patience).machine = { m with registers, state } := by
  rcases m.step_cases with ⟨-, hStep⟩ | ⟨-, -, hStep⟩ | ⟨-, -, -, hStep⟩ |
    ⟨w, -, -, hStep⟩ | ⟨w, op, mnemonic, hWord, hDecode, -⟩
  · rw [hStep]
    exact ⟨_, _, rfl⟩
  · rw [hStep]
    exact ⟨_, _, rfl⟩
  · rw [hStep]
    exact ⟨_, _, rfl⟩
  · rw [hStep]
    exact ⟨_, _, rfl⟩
  · rw [nextOperation?_eq_some_iff.2 ⟨w, hWord, hDecode⟩] at h
    cases h

/-- A step of a machine that has halted, or whose next word would reach past the end of the program,
reports a halt and executes nothing. -/
theorem step_past_end {m : Machine σ}
    (h : m.state = .halted ∨ m.registers.programEnd < m.registers.pc.toNat + 2) (patience : Nat) :
    (m.step patience).result = .ok .halted ∧
      (m.step patience).machine = { m with state := .halted } := by
  have hEnds : ¬(m.state = .running ∧ m.registers.pc.toNat + 2 ≤ m.registers.programEnd) := by
    rintro ⟨hRunning, hEnd⟩
    rcases h with hHalted | hPast
    · rw [hRunning] at hHalted
      cases hHalted
    · exact absurd hPast (Nat.not_lt.2 hEnd)
  rcases m.step_cases with ⟨hState, hStep⟩ | ⟨-, -, hStep⟩ | ⟨hRunning, hEnd, -⟩ |
    ⟨w, hWord, -⟩ | ⟨w, op, mnemonic, hWord, -⟩
  · rw [hStep]
    refine ⟨rfl, ?_⟩
    rw [← hState]
  · rw [hStep]
    exact ⟨rfl, rfl⟩
  · exact absurd ⟨hRunning, hEnd⟩ hEnds
  · obtain ⟨hRunning, hEnd, -⟩ := nextWord?_eq_some_iff.1 hWord
    exact absurd ⟨hRunning, hEnd⟩ hEnds
  · obtain ⟨hRunning, hEnd, -⟩ := nextWord?_eq_some_iff.1 hWord
    exact absurd ⟨hRunning, hEnd⟩ hEnds

/-- No other step reports a halt. -/
theorem step_halts_iff (m : Machine σ) (patience : Nat) :
    (m.step patience).result = .ok .halted ↔
      m.state = .halted ∨ m.registers.programEnd < m.registers.pc.toNat + 2 := by
  refine ⟨fun hResult => ?_, fun h => (step_past_end h patience).1⟩
  rcases m.step_cases with ⟨hState, -⟩ | ⟨-, hPast, -⟩ | ⟨-, -, -, hStep⟩ | ⟨w, -, -, hStep⟩ |
    ⟨w, op, mnemonic, -, -, hStep⟩
  · exact Or.inl hState
  · exact Or.inr hPast
  · rw [hStep] at hResult
    cases hResult
  · rw [hStep] at hResult
    cases hResult
  · rw [hStep] at hResult
    change (m.advanced.execute patience op w).result.map (fun _ => RunState.running) = _ at hResult
    cases hExecuted : (m.advanced.execute patience op w).result with
    | error cause =>
        rw [hExecuted] at hResult
        cases hResult
    | ok done =>
        rw [hExecuted] at hResult
        cases hResult

/-- A step that goes on has executed a word. -/
theorem nextWord?_of_goes_on {m : Machine σ} {patience : Nat}
    (h : (m.step patience).result = .ok .running) : ∃ w, m.nextWord? = some w := by
  rcases m.step_cases with ⟨-, hStep⟩ | ⟨-, -, hStep⟩ | ⟨-, -, -, hStep⟩ | ⟨w, hWord, -⟩ |
    ⟨w, op, mnemonic, hWord, -⟩
  · rw [hStep] at h
    cases h
  · rw [hStep] at h
    cases h
  · rw [hStep] at h
    cases h
  · exact ⟨w, hWord⟩
  · exact ⟨w, hWord⟩

end Machine

/-- The operations that work on the registers and the random stream alone. -/
def Operation.isInternal : Operation → Bool
  | .clearScreen | .ret | .call | .draw | .skipPressed | .skipReleased | .awaitKey
  | .storeDecimal | .storeRegisters | .loadRegisters => false
  | _ => true

namespace Machine

variable {σ : Type}

@[simp]
theorem advanced_depth (m : Machine σ) : m.advanced.depth = m.depth := rfl

@[simp]
theorem advanced_i (m : Machine σ) : m.advanced.registers.i = m.registers.i := rfl

theorem stack_eq_ofDepth (m : Machine σ) : m.stack = .ofDepth m.depth := rfl

theorem skipIf_eq (m : Machine σ) (condition : Bool) :
    m.skipIf condition =
      m.withPc (if condition then nextAddress m.registers.pc else m.registers.pc) := by
  cases condition <;> rfl

theorem skipIf_frame (m : Machine σ) (condition : Bool) :
    ∃ registers, m.skipIf condition = { m with registers } := by
  rw [skipIf_eq]
  exact ⟨_, rfl⟩

/-- The sum of an address operand and a register does not leave 16 bits. -/
theorem addWord_address (w : Word) (b : UInt8) :
    Checked.addWord w.address b.toUInt16 = .ok (w.address + b.toUInt16) := by
  have hByte := b.toNat_lt
  have hAddress : w.address.toNat < 0x1000 := by
    rw [w.toNat_address, Digits.address]
    omega
  refine Checked.addWord_eq_ok_iff.2 ⟨?_, rfl⟩
  rw [UInt8.toNat_toUInt16]
  exact Nat.lt_trans (Nat.add_lt_add hAddress hByte) (by decide)

/-- The address of a glyph does not leave 16 bits. -/
theorem glyphAddress_nibble (b : UInt8) :
    glyphAddress (b &&& 0x0F) = .ok (UInt16.ofNat (5 * (b.toNat % 16))) := by
  have hDigit : ∀ digit : Fin 16,
      glyphAddress (UInt8.ofNat digit) = .ok (UInt16.ofNat (5 * digit)) := by
    decide
  have hByte : b &&& 0x0F = UInt8.ofNat (b.toNat % 16) := by
    rw [← toNat_and_nibble, UInt8.ofNat_toNat]
  rw [hByte]
  exact hDigit ⟨b.toNat % 16, Nat.mod_lt _ (by decide)⟩

variable [Device σ]

/-- Only a wait for a key looks at the patience. -/
theorem execute_patience {m : Machine σ} {op : Operation} (hOp : op ≠ .awaitKey) (w : Word)
    (patience patience' : Nat) : m.execute patience op w = m.execute patience' op w := by
  cases op
  case awaitKey => exact absurd rfl hOp
  all_goals rfl

theorem execute_jumpOffset (m : Machine σ) (patience : Nat) (w : Word) :
    m.execute patience .jumpOffset w =
      (m.withPc (w.address + (m.registers.reg 0).toUInt16)).done := by
  simp only [execute, addWord_address]
  rfl

theorem execute_loadGlyph (m : Machine σ) (patience : Nat) (w : Word) :
    m.execute patience .loadGlyph w =
      (m.withIndex (UInt16.ofNat (5 * ((m.registers.reg w.x).toNat % 16)))).done := by
  simp only [execute, glyphAddress_nibble]
  rfl

/-- An internal operation succeeds and leaves memory, stack, run state and device alone. -/
theorem execute_internal (m : Machine σ) (patience : Nat) {op : Operation}
    (hInternal : op.isInternal = true) (w : Word) :
    ∃ registers random effects,
      m.execute patience op w =
        { machine := { m with registers, random }, effects, result := .ok () } ∧
      registers.programEnd = m.registers.programEnd ∧ effects.pauses = #[] := by
  cases op
  case register op =>
      rw [execute]
      unfold combine
      split
      · exact ⟨_, _, _, rfl, rfl, rfl⟩
      · exact ⟨_, _, _, rfl, rfl, rfl⟩
  case jumpOffset =>
      rw [execute_jumpOffset]
      exact ⟨_, _, _, rfl, rfl, rfl⟩
  case loadGlyph =>
      rw [execute_loadGlyph]
      exact ⟨_, _, _, rfl, rfl, rfl⟩
  case skipEqualConstant | skipUnequalConstant | skipEqualRegister | skipUnequalRegister =>
      simp only [execute, skipIf_eq]
      exact ⟨_, _, _, rfl, rfl, rfl⟩
  case clearScreen | ret | call | draw | skipPressed | skipReleased | awaitKey | storeDecimal |
      storeRegisters | loadRegisters =>
      cases hInternal
  all_goals exact ⟨_, _, _, rfl, rfl, rfl⟩

theorem execute_ret (m : Machine σ) (patience : Nat) (w : Word) :
    m.execute patience .ret w =
      m.update id (m.stack.pop m.ram) fun (pc, stack) =>
        { m with depth := stack.depth }.withPc pc := rfl

/-- A return without a pending call. -/
theorem execute_ret_empty {m : Machine σ} (hEmpty : m.depth = 0) (patience : Nat) (w : Word) :
    m.execute patience .ret w = m.stop (.fault .stackUnderflow) := by
  have hStack : m.stack.depth = 0 := hEmpty
  rw [execute_ret, CallStack.pop_empty hStack]
  rfl

/-- A return with a pending call goes through: the window of the call stack lies in memory. -/
theorem execute_ret_pending {m : Machine σ} {below : Nat}
    (hCapacity : Layout.programStart < m.ram.capacity) (hSlot : below < Layout.stackSlots)
    (hDepth : m.depth = below + 1) (patience : Nat) (w : Word) :
    ∃ pc, m.execute patience .ret w = ({ m with depth := below }.withPc pc).done := by
  obtain ⟨pc, hWord⟩ := Ram.exists_readWord (CallStack.slotOf_fits hCapacity hSlot)
  refine ⟨pc, ?_⟩
  rw [execute_ret, stack_eq_ofDepth, hDepth, CallStack.pop_ofDepth hSlot hWord]
  rfl

/-- A call pushes the program counter, if there is room. -/
theorem execute_call (m : Machine σ) (patience : Nat) (w : Word) :
    m.execute patience .call w =
      if Layout.stackSlots ≤ m.depth then m.stop (.fault (.stackOverflow Layout.stackSlots))
      else if CallStack.slotOf m.depth + 2 ≤ m.ram.capacity then
        ({ m with
            ram := ⟨Ram.store m.ram.bytes (CallStack.slotOf m.depth)
              (Ram.wordBytes m.registers.pc)⟩
            depth := m.depth + 1 }.withPc w.address).done
      else m.stop (.fault (m.ram.outOfRange (CallStack.slotOf m.depth) 2)) := by
  simp only [execute, stack_eq_ofDepth, CallStack.push_ofDepth]
  split
  · rfl
  · split
    · rfl
    · rfl

theorem execute_storeDecimal (m : Machine σ) (patience : Nat) (w : Word) :
    m.execute patience .storeDecimal w =
      if m.registers.i.toNat + 3 ≤ m.ram.capacity then
        { m with
          ram := ⟨Ram.store m.ram.bytes m.registers.i.toNat
            (decimalDigits (m.registers.reg w.x))⟩ }.done
      else m.stop (.fault (m.ram.outOfRange m.registers.i.toNat 3)) := by
  have hLength : (decimalDigits (m.registers.reg w.x)).length = 3 := rfl
  simp only [execute, Ram.copyTo, hLength, if_true]
  split
  · rfl
  · rfl

theorem length_dumped (registers : Registers) (x : Fin 16) :
    (registers.v.toList.take (x.val + 1)).length = x.val + 1 := by
  rw [List.length_take, Vector.length_toList]
  omega

theorem execute_storeRegisters (m : Machine σ) (patience : Nat) (w : Word) :
    m.execute patience .storeRegisters w =
      if m.registers.i.toNat + (w.x.val + 1) ≤ m.ram.capacity then
        { m with
          ram := ⟨Ram.store m.ram.bytes m.registers.i.toNat
            (m.registers.v.toList.take (w.x.val + 1))⟩ }.done
      else m.stop (.fault (m.ram.outOfRange m.registers.i.toNat (w.x.val + 1))) := by
  have hDump : m.dumpRegisters (w.x.val + 1) =
      m.ram.copyTo m.registers.i.toNat (w.x.val + 1)
        (m.registers.v.toList.take (w.x.val + 1)) := by
    rw [dumpRegisters, Registers.first_of_le _ w.x.isLt]
    rfl
  simp only [execute, hDump, Ram.copyTo, length_dumped, if_true]
  split
  · rfl
  · rfl

theorem execute_loadRegisters (m : Machine σ) (patience : Nat) (w : Word) :
    m.execute patience .loadRegisters w =
      if m.registers.i.toNat + (w.x.val + 1) ≤ m.ram.capacity then
        (m.withRegisters (m.registers.restore
          ((List.range (w.x.val + 1)).map fun k =>
            m.ram.cell (m.registers.i.toNat + k)))).done
      else m.stop (.fault (m.ram.outOfRange m.registers.i.toNat (w.x.val + 1))) := by
  cases hRead : m.ram.read m.registers.i.toNat (w.x.val + 1) with
  | error fault =>
      obtain ⟨hOut, rfl⟩ := Ram.read_eq_error_iff.1 hRead
      have hFetch : m.fetchRegisters (w.x.val + 1) =
          .error (.fault (m.ram.outOfRange m.registers.i.toNat (w.x.val + 1))) := by
        rw [fetchRegisters, hRead]
        rfl
      simp only [execute, hFetch]
      rw [if_neg (Nat.not_le.2 hOut)]
      rfl
  | ok bytes =>
      obtain ⟨hFits, hBytes⟩ := Ram.read_eq_ok_iff.1 hRead
      have hLength : bytes.toList.length = w.x.val + 1 := by
        rw [hBytes, List.length_map, List.length_range]
      have hFetch : m.fetchRegisters (w.x.val + 1) = .ok (m.registers.restore bytes.toList) := by
        rw [fetchRegisters, hRead, ← hLength]
        change (m.registers.restoreFirst bytes.toList.length bytes.toList).mapError _ = _
        rw [Registers.restoreFirst_of_le _ (hLength ▸ w.x.isLt)]
        rfl
      simp only [execute, hFetch]
      rw [if_pos hFits, ← hBytes]
      rfl

/-- Clearing the screen touches nothing but the device, whatever the device answers. -/
theorem clearScreen_machine (m : Machine σ) :
    m.clearScreen.machine = { m with device := (Device.clear m.device).state } := by
  unfold clearScreen
  cases hAnswer : (Device.clear m.device).answer with
  | value answer => simp only [hAnswer]
  | failed error => simp only [hAnswer]
  | aborted cause => simp only [hAnswer]

/-- A failure to clear the screen is no fault. -/
theorem clearScreen_result (m : Machine σ) :
    m.clearScreen.result = .ok () ∨
      ∃ cause, (Device.clear m.device).answer = .aborted cause ∧
        m.clearScreen.result = .error (.abort cause) := by
  unfold clearScreen
  cases hAnswer : (Device.clear m.device).answer with
  | value answer => simp only [hAnswer, true_or]
  | failed error => simp only [hAnswer, true_or]
  | aborted cause =>
      simp only [hAnswer]
      exact Or.inr ⟨cause, rfl, rfl⟩

theorem skipIfPressed_value {m : Machine σ} {key : UInt8} {answer : Bool}
    (hAnswer : (Device.pressed m.device key).answer = .value answer) (expected : Bool) :
    m.skipIfPressed key expected =
      { machine := { m with device := (Device.pressed m.device key).state }.skipIf
          (answer == expected)
        effects := { notices := (Device.pressed m.device key).notices }
        result := .ok () } := by
  simp only [skipIfPressed, hAnswer, Answer.toExcept]

theorem skipIfPressed_stopped {m : Machine σ} {key : UInt8} {cause : Stop}
    (hAnswer : (Device.pressed m.device key).answer.toExcept = .error cause) (expected : Bool) :
    m.skipIfPressed key expected =
      { machine := { m with device := (Device.pressed m.device key).state }
        effects := { notices := (Device.pressed m.device key).notices }
        result := .error cause } := by
  simp only [skipIfPressed, hAnswer]

theorem drawSprite_outOfRange {m : Machine σ} {height : UInt8}
    (hOut : m.ram.capacity < m.registers.i.toNat + height.toNat) (x y : UInt8) :
    m.drawSprite x y height =
      m.stop (.fault (m.ram.outOfRange m.registers.i.toNat height.toNat)) := by
  have hRead := Ram.read_eq_error_iff.2 ⟨hOut, rfl⟩
  simp only [drawSprite, hRead]

theorem drawSprite_painted {m : Machine σ} {x y height : UInt8} {rows : Array UInt8}
    {p : Painting σ} (hRead : m.ram.read m.registers.i.toNat height.toNat = .ok rows)
    (hPaint : Painting.paint x.toNat y.toNat { device := m.device } (Sprite.cells rows.toList) =
      (p, .ok ())) :
    (m.drawSprite x y height).machine =
        { m with device := p.device }.withRegisters (m.registers.setFlag p.collision) ∧
      (m.drawSprite x y height).result = .ok () := by
  simp only [drawSprite, hRead, hPaint, and_self]

theorem drawSprite_aborted {m : Machine σ} {x y height : UInt8} {rows : Array UInt8}
    {p : Painting σ} {cause : Abort}
    (hRead : m.ram.read m.registers.i.toNat height.toNat = .ok rows)
    (hPaint : Painting.paint x.toNat y.toNat { device := m.device } (Sprite.cells rows.toList) =
      (p, .error cause)) :
    (m.drawSprite x y height).machine = { m with device := p.device } ∧
      (m.drawSprite x y height).result = .error (.abort cause) := by
  simp only [drawSprite, hRead, hPaint, and_self]

/-- A skip after a question about a key goes on with this instruction or with the one behind it. -/
theorem skipIfPressed_frame (m : Machine σ) (key : UInt8) (expected : Bool) :
    ∃ pc device, (m.skipIfPressed key expected).machine = { m with device }.withPc pc ∧
      (pc = m.registers.pc ∨ pc = nextAddress m.registers.pc) := by
  cases hAnswer : (Device.pressed m.device key).answer with
  | value answer =>
      rw [skipIfPressed_value hAnswer, skipIf_eq]
      refine ⟨_, _, rfl, ?_⟩
      split
      · exact Or.inr rfl
      · exact Or.inl rfl
  | failed error =>
      rw [skipIfPressed_stopped (by rw [hAnswer]; rfl)]
      exact ⟨m.registers.pc, (Device.pressed m.device key).state, rfl, Or.inl rfl⟩
  | aborted cause =>
      rw [skipIfPressed_stopped (by rw [hAnswer]; rfl)]
      exact ⟨m.registers.pc, (Device.pressed m.device key).state, rfl, Or.inl rfl⟩

theorem drawSprite_frame (m : Machine σ) (x y height : UInt8) :
    ∃ v device, (m.drawSprite x y height).machine =
      { m with registers := { m.registers with v }, device } := by
  cases hRead : m.ram.read m.registers.i.toNat height.toNat with
  | error fault =>
      rw [drawSprite_outOfRange (Ram.read_eq_error_iff.1 hRead).1]
      exact ⟨_, _, rfl⟩
  | ok rows =>
      cases hPaint : Painting.paint x.toNat y.toNat { device := m.device }
          (Sprite.cells rows.toList) with
      | mk p painted =>
          cases painted with
          | error cause =>
              rw [(drawSprite_aborted hRead hPaint).1]
              exact ⟨_, _, rfl⟩
          | ok done =>
              rw [(drawSprite_painted hRead hPaint).1]
              exact ⟨_, _, rfl⟩

/-- Only calls, returns and the two stores write memory or move the call stack. -/
theorem execute_frame (m : Machine σ) (patience : Nat) {op : Operation} (w : Word)
    (hCall : op ≠ .call) (hRet : op ≠ .ret) (hDecimal : op ≠ .storeDecimal)
    (hRegisters : op ≠ .storeRegisters) :
    ∃ registers random device,
      (m.execute patience op w).machine = { m with registers, random, device } := by
  cases hInternal : op.isInternal with
  | true =>
      obtain ⟨registers, random, effects, hExecute, -, -⟩ :=
        m.execute_internal patience hInternal w
      rw [hExecute]
      exact ⟨registers, random, _, rfl⟩
  | false =>
      cases op
      case call => exact absurd rfl hCall
      case ret => exact absurd rfl hRet
      case storeDecimal => exact absurd rfl hDecimal
      case storeRegisters => exact absurd rfl hRegisters
      case clearScreen => exact ⟨_, _, _, m.clearScreen_machine⟩
      case draw =>
          obtain ⟨v, device, hDraw⟩ := m.drawSprite_frame _ _ _
          exact ⟨_, _, device, hDraw⟩
      case skipPressed | skipReleased =>
          obtain ⟨pc, device, hSkip, -⟩ := m.skipIfPressed_frame _ _
          exact ⟨_, _, device, hSkip⟩
      case awaitKey => exact ⟨_, _, _, rfl⟩
      case loadRegisters =>
          rw [execute_loadRegisters]
          split
          · exact ⟨_, _, _, rfl⟩
          · exact ⟨_, _, _, rfl⟩
      all_goals cases hInternal

/-- Only calls and the two stores write memory. -/
theorem execute_frame_ram (m : Machine σ) (patience : Nat) {op : Operation} (w : Word)
    (hCall : op ≠ .call) (hDecimal : op ≠ .storeDecimal) (hRegisters : op ≠ .storeRegisters) :
    ∃ registers depth random device,
      (m.execute patience op w).machine = { m with registers, depth, random, device } := by
  by_cases hRet : op = .ret
  · subst hRet
    rw [execute_ret]
    cases m.stack.pop m.ram with
    | error cause => exact ⟨_, _, _, _, rfl⟩
    | ok popped => exact ⟨_, _, _, _, rfl⟩
  · obtain ⟨registers, random, device, hFrame⟩ :=
      m.execute_frame patience w hCall hRet hDecimal hRegisters
    exact ⟨registers, m.depth, random, device, hFrame⟩

/-- No operation halts the machine. -/
theorem state_execute (m : Machine σ) (patience : Nat) (op : Operation) (w : Word) :
    (m.execute patience op w).machine.state = m.state := by
  by_cases hCall : op = .call
  · subst hCall
    rw [execute_call]
    split
    · rfl
    · split
      · rfl
      · rfl
  by_cases hDecimal : op = .storeDecimal
  · subst hDecimal
    rw [execute_storeDecimal]
    split
    · rfl
    · rfl
  by_cases hRegisters : op = .storeRegisters
  · subst hRegisters
    rw [execute_storeRegisters]
    split
    · rfl
    · rfl
  obtain ⟨registers, depth, random, device, hFrame⟩ :=
    m.execute_frame_ram patience w hCall hDecimal hRegisters
  rw [hFrame]

end Machine

end Chip8
