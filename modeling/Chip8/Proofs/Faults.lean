import Mathlib.Tactic
import Chip8.Device.Keypad
import Chip8.Proofs.KeyWaits
import Chip8.Proofs.Starting
import Chip8.Proofs.Stepping

/-!
# When a step faults

`Machine.Refuses` lists, operation by operation, what makes it fault and with which fault.
`execute_fault_iff` says that the list is complete, `execute_of_fault` that an operation that faults
has done nothing but ask about a key. A step faults for one more reason only: its word does not lie
in memory.
-/

namespace Chip8

namespace Machine

variable {σ : Type}

theorem stop_fault_iff {m : Machine σ} {f f' : Fault} :
    (m.stop (.fault f')).result = .error (.fault f) ↔ f = f' := by
  change Except.error (Stop.fault f') = _ ↔ _
  rw [Except.error.injEq, Stop.fault.injEq, eq_comm]

theorem ite_done_stop_fault_iff {p : Prop} [Decidable p] {m m' : Machine σ} {f f' : Fault} :
    (if p then m.done else m'.stop (.fault f')).result = .error (.fault f) ↔ ¬p ∧ f = f' := by
  split
  · rename_i h
    exact iff_of_false (fun h => nomatch h) fun h' => h'.1 h
  · rename_i h
    rw [stop_fault_iff, and_iff_right h]

theorem machine_of_ite_fault {p : Prop} [Decidable p] {m m' : Machine σ} {cause : Stop}
    {f : Fault} (h : (if p then m.done else m'.stop cause).result = .error (.fault f)) :
    (if p then m.done else m'.stop cause).machine = m' := by
  split at h
  · cases h
  · rename_i hNot
    rw [if_neg hNot]
    rfl

variable [Device σ]

/-- The fault `f` is what an operation with the operands in `d` comes to. -/
def Refuses (m : Machine σ) (patience : Nat) (d : Digits) (f : Fault) : Operation → Prop
  | .call => m.depth = 16 ∧ f = .stackOverflow 16
  | .ret => m.depth = 0 ∧ f = .stackUnderflow
  | .draw =>
    m.ram.capacity < m.registers.i.toNat + d.n ∧
      f = .addressOutOfRange m.registers.i.toNat d.n m.ram.capacity
  | .storeDecimal =>
    m.ram.capacity < m.registers.i.toNat + 3 ∧
      f = .addressOutOfRange m.registers.i.toNat 3 m.ram.capacity
  | .storeRegisters | .loadRegisters =>
    m.ram.capacity < m.registers.i.toNat + (d.x.val + 1) ∧
      f = .addressOutOfRange m.registers.i.toNat (d.x.val + 1) m.ram.capacity
  | .skipPressed | .skipReleased =>
    ∃ error, Device.answerAt (keyOf (m.registers.reg d.x)) 0 m.device = .failed error ∧
      f = .device error
  | .awaitKey =>
    ∃ n error, n < patience ∧ Device.Silent (keyOf (m.registers.reg d.x)) n m.device ∧
      Device.answerAt (keyOf (m.registers.reg d.x)) n m.device = .failed error ∧ f = .device error
  | _ => False

theorem refuses_advanced (m : Machine σ) (patience : Nat) (d : Digits) (f : Fault)
    (op : Operation) : m.advanced.Refuses patience d f op ↔ m.Refuses patience d f op := by
  cases op <;> exact Iff.rfl

theorem drawSprite_fault_iff (m : Machine σ) (x y height : UInt8) (f : Fault) :
    (m.drawSprite x y height).result = .error (.fault f) ↔
      m.ram.capacity < m.registers.i.toNat + height.toNat ∧
        f = m.ram.outOfRange m.registers.i.toNat height.toNat := by
  cases hRead : m.ram.read m.registers.i.toNat height.toNat with
  | error fault =>
      obtain ⟨hOut, -⟩ := Ram.read_eq_error_iff.1 hRead
      rw [drawSprite_outOfRange hOut, stop_fault_iff, and_iff_right hOut]
  | ok rows =>
      have hFits := (Ram.read_eq_ok_iff.1 hRead).1
      apply iff_of_false
      · intro h
        cases hPaint : Painting.paint x.toNat y.toNat { device := m.device }
            (Sprite.cells rows.toList) with
        | mk p painted =>
            cases painted with
            | error cause =>
                rw [(drawSprite_aborted hRead hPaint).2] at h
                cases h
            | ok done =>
                rw [(drawSprite_painted hRead hPaint).2] at h
                cases h
      · rintro ⟨hOut, -⟩
        exact absurd hOut (Nat.not_lt.2 hFits)

theorem skipIfPressed_fault_iff (m : Machine σ) (key : UInt8) (expected : Bool) (f : Fault) :
    (m.skipIfPressed key expected).result = .error (.fault f) ↔
      ∃ error, Device.answerAt key 0 m.device = .failed error ∧ f = .device error := by
  change _ ↔ ∃ error, (Device.pressed m.device key).answer = .failed error ∧ f = .device error
  cases hAnswer : (Device.pressed m.device key).answer with
  | value answer =>
      rw [skipIfPressed_value hAnswer]
      exact iff_of_false (fun h => nomatch h) fun ⟨_, h, _⟩ => nomatch h
  | failed error =>
      rw [skipIfPressed_stopped (by rw [hAnswer]; rfl)]
      constructor
      · intro h
        cases h
        exact ⟨error, rfl, rfl⟩
      · rintro ⟨error', hError, rfl⟩
        cases hError
        rfl
  | aborted cause =>
      rw [skipIfPressed_stopped (by rw [hAnswer]; rfl)]
      exact iff_of_false (fun h => nomatch h) fun ⟨_, h, _⟩ => nomatch h

theorem awaitKey_fault_iff (m : Machine σ) (patience : Nat) (key : UInt8) (f : Fault) :
    (m.awaitKey patience key).result = .error (.fault f) ↔
      ∃ n error, n < patience ∧ Device.Silent key n m.device ∧
        Device.answerAt key n m.device = .failed error ∧ f = .device error := by
  -- A failed answer after nothing but no is the deciding one.
  have hDecisive {n : Nat} {error : IoError} (hSilent : Device.Silent key n m.device)
      (hFailed : Device.answerAt key n m.device = .failed error) :
      Device.Decides key n m.device :=
    ⟨hSilent, fun h => by rw [hFailed] at h; cases h⟩
  rcases Device.decides_or_silent key patience m.device with ⟨n, hn, hDecides⟩ | hSilent
  · obtain ⟨-, hResult, -, -⟩ := KeyWait.await_of_decides hDecides hn
      (.notice (.waitingForKey key))
    change (KeyWait.await key patience m.device (.notice (.waitingForKey key))).result = _ ↔ _
    rw [hResult]
    constructor
    · intro h
      cases hAnswer : Device.answerAt key n m.device with
      | value answer =>
          rw [hAnswer] at h
          cases h
      | failed error =>
          rw [hAnswer] at h
          cases h
          exact ⟨n, error, hn, hDecides.silent, hAnswer, rfl⟩
      | aborted cause =>
          rw [hAnswer] at h
          cases h
    · rintro ⟨k, error, -, hSilent, hFailed, rfl⟩
      rw [hDecides.unique (hDecisive hSilent hFailed), hFailed]
      rfl
  · obtain ⟨-, hResult⟩ := KeyWait.await_of_silent hSilent (.notice (.waitingForKey key))
    change (KeyWait.await key patience m.device (.notice (.waitingForKey key))).result = _ ↔ _
    rw [hResult]
    apply iff_of_false
    · intro h
      cases h
    · rintro ⟨k, error, hk, -, hFailed, -⟩
      rw [hSilent k hk] at hFailed
      cases hFailed

theorem clearScreen_ne_fault (m : Machine σ) (f : Fault) :
    m.clearScreen.result ≠ .error (.fault f) := by
  intro h
  rcases m.clearScreen_result with hResult | ⟨cause, -, hResult⟩
  · rw [hResult] at h
    cases h
  · rw [hResult] at h
    cases h

/-- A return faults only on an empty call stack: its window lies in memory. -/
theorem ret_fault_iff {m : Machine σ} (hCapacity : 0x200 < m.ram.capacity) (hDepth : m.depth ≤ 16)
    (patience : Nat) (w : Word) (f : Fault) :
    (m.execute patience .ret w).result = .error (.fault f) ↔
      m.depth = 0 ∧ f = .stackUnderflow := by
  cases hLive : m.depth with
  | zero =>
      rw [execute_ret_empty hLive, stop_fault_iff, and_iff_right rfl]
  | succ below =>
      have hSlot : below < Layout.stackSlots := by
        rw [hLive] at hDepth
        exact hDepth
      obtain ⟨pc, hExecute⟩ := execute_ret_pending hCapacity hSlot hLive patience w
      rw [hExecute]
      exact iff_of_false (fun h => nomatch h) fun h => absurd h.1 (Nat.succ_ne_zero below)

/-- A call faults only on a full call stack. -/
theorem call_fault_iff {m : Machine σ} (hCapacity : 0x200 < m.ram.capacity) (hDepth : m.depth ≤ 16)
    (patience : Nat) (w : Word) (f : Fault) :
    (m.execute patience .call w).result = .error (.fault f) ↔
      m.depth = 16 ∧ f = .stackOverflow 16 := by
  rw [execute_call]
  by_cases hFull : Layout.stackSlots ≤ m.depth
  · have hDepth : m.depth = 16 := Nat.le_antisymm hDepth hFull
    rw [if_pos hFull, stop_fault_iff, and_iff_right hDepth]
    exact Iff.rfl
  · have hFits := CallStack.slotOf_fits hCapacity (Nat.lt_of_not_le hFull)
    rw [if_neg hFull, if_pos hFits]
    apply iff_of_false
    · intro h
      cases h
    · rintro ⟨hDepth, -⟩
      exact hFull (Nat.le_of_eq hDepth.symm)

/-- An operation faults exactly when it refuses. -/
theorem execute_fault_iff {m : Machine σ} (hCapacity : 0x200 < m.ram.capacity)
    (hDepth : m.depth ≤ 16) (patience : Nat) (op : Operation) (w : Word) (f : Fault) :
    (m.execute patience op w).result = .error (.fault f) ↔
      m.Refuses patience w.digits f op := by
  cases hInternal : op.isInternal with
  | true =>
      obtain ⟨registers, random, effects, hExecute, -, -⟩ :=
        m.execute_internal patience hInternal w
      rw [hExecute]
      apply iff_of_false
      · intro h
        cases h
      · cases op <;> first | exact fun h => h | cases hInternal
  | false =>
      cases op
      case clearScreen =>
          exact iff_of_false (m.clearScreen_ne_fault f) fun h => h
      case ret => exact ret_fault_iff hCapacity hDepth patience w f
      case call => exact call_fault_iff hCapacity hDepth patience w f
      case draw =>
          apply (m.drawSprite_fault_iff _ _ _ f).trans
          rw [w.toNat_nibble]
          exact Iff.rfl
      case skipPressed | skipReleased =>
          apply (m.skipIfPressed_fault_iff _ _ f).trans
          rw [w.x_eq]
          exact Iff.rfl
      case awaitKey =>
          apply (m.awaitKey_fault_iff patience _ f).trans
          rw [w.x_eq]
          exact Iff.rfl
      case storeDecimal =>
          rw [execute_storeDecimal, ite_done_stop_fault_iff, Nat.not_le]
          exact Iff.rfl
      case storeRegisters =>
          rw [execute_storeRegisters, ite_done_stop_fault_iff, Nat.not_le, w.x_eq]
          exact Iff.rfl
      case loadRegisters =>
          rw [execute_loadRegisters, ite_done_stop_fault_iff, Nat.not_le, w.x_eq]
          exact Iff.rfl
      all_goals cases hInternal

/-- The machine `m'` differs from `m` by questions about a key at most, and only after a fault of
the device. -/
def OnlyAsked (m m' : Machine σ) (f : Fault) : Prop :=
  ∃ key asked, m' = { m with device := Device.afterQueries key asked m.device } ∧
    ((∀ error, f ≠ .device error) → asked = 0)

theorem OnlyAsked.of_eq {m m' : Machine σ} (h : m' = m) (f : Fault) : m.OnlyAsked m' f :=
  ⟨0, 0, h, fun _ => rfl⟩

theorem skipIfPressed_of_fault {m : Machine σ} {key : UInt8} {expected : Bool} {f : Fault}
    (h : (m.skipIfPressed key expected).result = .error (.fault f)) :
    m.OnlyAsked (m.skipIfPressed key expected).machine f := by
  obtain ⟨error, hFailed, rfl⟩ := (m.skipIfPressed_fault_iff key expected f).1 h
  have hAnswer : (Device.pressed m.device key).answer = .failed error := hFailed
  rw [skipIfPressed_stopped (by rw [hAnswer]; rfl)]
  exact ⟨key, 1, rfl, fun h => absurd rfl (h error)⟩

theorem awaitKey_of_fault {m : Machine σ} {patience : Nat} {key : UInt8} {f : Fault}
    (h : (m.awaitKey patience key).result = .error (.fault f)) :
    m.OnlyAsked (m.awaitKey patience key).machine f := by
  obtain ⟨n, error, hn, hSilent, hFailed, rfl⟩ := (m.awaitKey_fault_iff patience key f).1 h
  have hDecides : Device.Decides key n m.device :=
    ⟨hSilent, fun h => by rw [hFailed] at h; cases h⟩
  obtain ⟨hDevice, -, -, -⟩ := KeyWait.await_of_decides hDecides hn
    (.notice (.waitingForKey key))
  refine ⟨key, n + 1, ?_, fun h => absurd rfl (h error)⟩
  rw [← hDevice]
  rfl

/-- An operation that faults has at most asked about a key. -/
theorem execute_of_fault {m : Machine σ} {patience : Nat} {op : Operation} {w : Word} {f : Fault}
    (h : (m.execute patience op w).result = .error (.fault f)) :
    m.OnlyAsked (m.execute patience op w).machine f := by
  cases hInternal : op.isInternal with
  | true =>
      obtain ⟨registers, random, effects, hExecute, -, -⟩ :=
        m.execute_internal patience hInternal w
      rw [hExecute] at h
      cases h
  | false =>
      cases op
      case clearScreen =>
          exact absurd h (m.clearScreen_ne_fault f)
      case ret =>
          apply OnlyAsked.of_eq
          cases hPop : m.stack.pop m.ram with
          | error cause =>
              rw [execute_ret, hPop]
              rfl
          | ok popped =>
              rw [execute_ret, hPop] at h
              cases h
      case call =>
          apply OnlyAsked.of_eq
          rw [execute_call] at h ⊢
          split
          · rfl
          · rename_i hRoom
            rw [if_neg hRoom] at h
            exact machine_of_ite_fault h
      case draw =>
          apply OnlyAsked.of_eq
          have hOut := ((m.drawSprite_fault_iff _ _ _ f).1 h).1
          change (m.drawSprite _ _ _).machine = m
          rw [drawSprite_outOfRange hOut]
          rfl
      case skipPressed | skipReleased => exact skipIfPressed_of_fault h
      case awaitKey => exact awaitKey_of_fault h
      case storeDecimal =>
          rw [execute_storeDecimal] at h ⊢
          exact .of_eq (machine_of_ite_fault h) f
      case storeRegisters =>
          rw [execute_storeRegisters] at h ⊢
          exact .of_eq (machine_of_ite_fault h) f
      case loadRegisters =>
          rw [execute_loadRegisters] at h ⊢
          exact .of_eq (machine_of_ite_fault h) f
      all_goals cases hInternal

/-- What makes a step fault: its word does not lie in memory, or its operation refuses. -/
def StepRefuses (m : Machine σ) (patience : Nat) (f : Fault) : Prop :=
  m.state = .running ∧ m.registers.pc.toNat + 2 ≤ m.registers.programEnd ∧
    ((m.ram.capacity < m.registers.pc.toNat + 2 ∧
        f = .addressOutOfRange m.registers.pc.toNat 2 m.ram.capacity) ∨
      ∃ (w : Word) (op : Operation), m.ram.readWord m.registers.pc.toNat = .ok w.bits ∧
        Operation.ofDigits? w.digits = some op ∧ m.Refuses patience w.digits f op)

/-- With an operation to execute, that operation alone decides. -/
theorem stepRefuses_iff {m : Machine σ} {w : Word} {op : Operation}
    (hWord : m.nextWord? = some w) (hDecode : Operation.ofDigits? w.digits = some op)
    (patience : Nat) (f : Fault) :
    m.StepRefuses patience f ↔ m.Refuses patience w.digits f op := by
  obtain ⟨hRunning, hEnd, hFetch⟩ := nextWord?_eq_some_iff.1 hWord
  constructor
  · rintro ⟨-, -, ⟨hOut, -⟩ | ⟨w', op', hFetch', hDecode', hRefuses⟩⟩
    · exact absurd hOut (Nat.not_lt.2 (Ram.readWord_eq_ok_iff.1 hFetch).1)
    · have hWord' : m.nextWord? = some w' :=
        nextWord?_eq_some_iff.2 ⟨hRunning, hEnd, hFetch'⟩
      obtain rfl : w = w' := Option.some.inj (hWord.symm.trans hWord')
      obtain rfl : op = op' := Option.some.inj (hDecode.symm.trans hDecode')
      exact hRefuses
  · intro hRefuses
    exact ⟨hRunning, hEnd, Or.inr ⟨w, op, hFetch, hDecode, hRefuses⟩⟩

theorem step_fault_iff_refuses {m : Machine σ} (hCapacity : 0x200 < m.ram.capacity)
    (hDepth : m.depth ≤ 16) (patience : Nat) (f : Fault) :
    (m.step patience).result = .error (.fault f) ↔ m.StepRefuses patience f := by
  rcases m.step_cases with ⟨hState, hStep⟩ | ⟨-, hPast, hStep⟩ |
    ⟨hState, hEnd, hOut, hStep⟩ | ⟨w, hWord, hDecode, hStep⟩ |
    ⟨w, op, mnemonic, hWord, hDecode, hStep⟩
  · rw [hStep]
    apply iff_of_false
    · intro h
      cases h
    · rintro ⟨hRunning, -⟩
      rw [hRunning] at hState
      cases hState
  · rw [hStep]
    apply iff_of_false
    · intro h
      cases h
    · rintro ⟨-, hEnd, -⟩
      exact absurd hEnd (Nat.not_le.2 hPast)
  · rw [hStep]
    change Except.error (Stop.fault _) = _ ↔ _
    rw [Except.error.injEq, Stop.fault.injEq]
    constructor
    · rintro rfl
      exact ⟨hState, hEnd, Or.inl ⟨hOut, rfl⟩⟩
    · rintro ⟨-, -, ⟨-, rfl⟩ | ⟨w, op, hFetch, -⟩⟩
      · rfl
      · exact absurd hOut (Nat.not_lt.2 (Ram.readWord_eq_ok_iff.1 hFetch).1)
  · rw [hStep]
    apply iff_of_false
    · intro h
      cases h
    · rintro ⟨hRunning, hEnd, ⟨hOut, -⟩ | ⟨w', op, hFetch, hDecode', -⟩⟩
      · have hFetch := (nextWord?_eq_some_iff.1 hWord).2.2
        exact absurd hOut (Nat.not_lt.2 (Ram.readWord_eq_ok_iff.1 hFetch).1)
      · have hWord' := nextWord?_eq_some_iff.2 ⟨hRunning, hEnd, hFetch⟩
        obtain rfl : w = w' := Option.some.inj (hWord.symm.trans hWord')
        rw [hDecode] at hDecode'
        cases hDecode'
  · rw [stepRefuses_iff hWord hDecode, ← refuses_advanced,
      ← execute_fault_iff (m := m.advanced) hCapacity hDepth, hStep]
    change (m.advanced.execute patience op w).result.map _ = _ ↔ _
    cases (m.advanced.execute patience op w).result with
    | error cause =>
        rw [Except.error.injEq]
        exact ⟨fun h => Except.error.inj h, fun h => congrArg _ h⟩
    | ok done => exact iff_of_false (fun h => nomatch h) (fun h => nomatch h)

/-- Whether a step can come to a fault of this kind. -/
def isStepFault : Fault → Bool
  | .registerOutOfRange _ | .insufficientMemory .. | .invalidCapacity _ => false
  | _ => true

theorem isStepFault_of_refuses {m : Machine σ} {patience : Nat} {d : Digits} {f : Fault}
    {op : Operation} (h : m.Refuses patience d f op) : isStepFault f = true := by
  cases op
  case call | ret | draw | storeDecimal | storeRegisters | loadRegisters =>
      obtain ⟨-, rfl⟩ := h
      rfl
  case skipPressed | skipReleased =>
      obtain ⟨-, -, rfl⟩ := h
      rfl
  case awaitKey =>
      obtain ⟨-, -, -, -, -, rfl⟩ := h
      rfl
  all_goals cases h

theorem kind_of_stepRefuses {m : Machine σ} {patience : Nat} {f : Fault}
    (h : m.StepRefuses patience f) :
    (∀ x, f ≠ .registerOutOfRange x) ∧
      (∀ required capacity, f ≠ .insufficientMemory required capacity) ∧
      ∀ capacity, f ≠ .invalidCapacity capacity := by
  have hKind : isStepFault f = true := by
    obtain ⟨-, -, ⟨-, rfl⟩ | ⟨w, op, -, -, hRefuses⟩⟩ := h
    · rfl
    · exact isStepFault_of_refuses hRefuses
  refine ⟨?_, ?_, ?_⟩
  · rintro x rfl
    cases hKind
  · rintro required capacity rfl
    cases hKind
  · rintro capacity rfl
    cases hKind

/-- A step that faults leaves the machine as before, but for a program counter past an instruction
that was fetched and for questions about a key. -/
theorem step_of_fault {m : Machine σ} {patience : Nat} {f : Fault}
    (h : (m.step patience).result = .error (.fault f)) :
    ∃ pc key asked,
      (m.step patience).machine =
        { m with
          registers := { m.registers with pc }
          device := Device.afterQueries key asked m.device } ∧
      pc.toNat =
        (if m.ram.capacity < m.registers.pc.toNat + 2 then m.registers.pc.toNat
        else min (m.registers.pc.toNat + 2) 0xFFFF) ∧
      ((∀ error, f ≠ .device error) → asked = 0) := by
  rcases m.step_cases with ⟨-, hStep⟩ | ⟨-, -, hStep⟩ | ⟨-, -, hOut, hStep⟩ |
    ⟨w, -, -, hStep⟩ | ⟨w, op, mnemonic, hWord, -, hStep⟩
  · rw [hStep] at h
    cases h
  · rw [hStep] at h
    cases h
  · rw [hStep]
    exact ⟨m.registers.pc, 0, 0, rfl, (if_pos hOut).symm, fun _ => rfl⟩
  · rw [hStep] at h
    cases h
  · have hFetch := (nextWord?_eq_some_iff.1 hWord).2.2
    have hInside := Nat.not_lt.2 (Ram.readWord_eq_ok_iff.1 hFetch).1
    rw [hStep] at h ⊢
    have hExecute : (m.advanced.execute patience op w).result = .error (.fault f) := by
      change (m.advanced.execute patience op w).result.map _ = _ at h
      cases hResult : (m.advanced.execute patience op w).result with
      | error cause =>
          rw [hResult] at h
          exact congrArg _ (Except.error.inj h)
      | ok done =>
          rw [hResult] at h
          cases h
    obtain ⟨key, asked, hMachine, hAsked⟩ := execute_of_fault hExecute
    refine ⟨nextAddress m.registers.pc, key, asked, hMachine, ?_, hAsked⟩
    rw [if_neg hInside, toNat_nextAddress]

/-- A step of a machine with room for a program faults for exactly the reasons that `StepRefuses`
lists, with exactly those faults, and then it has done nothing but pass a fetched instruction and
ask about a key. -/
theorem step_faults_exactly {m : Machine σ} (hCapacity : 0x200 < m.ram.capacity)
    (hDepth : m.depth ≤ 16) (patience : Nat) (f : Fault) :
    ((m.step patience).result = .error (.fault f) ↔ m.StepRefuses patience f) ∧
    ((m.step patience).result = .error (.fault f) →
      (∀ x, f ≠ .registerOutOfRange x) ∧
      (∀ required capacity, f ≠ .insufficientMemory required capacity) ∧
      (∀ capacity, f ≠ .invalidCapacity capacity) ∧
      ∃ pc key asked,
        (m.step patience).machine =
          { m with
            registers := { m.registers with pc }
            device := Device.afterQueries key asked m.device } ∧
        pc.toNat =
          (if m.ram.capacity < m.registers.pc.toNat + 2 then m.registers.pc.toNat
          else min (m.registers.pc.toNat + 2) 0xFFFF) ∧
        ((∀ error, f ≠ .device error) → asked = 0)) := by
  have hIff := step_fault_iff_refuses hCapacity hDepth patience f
  refine ⟨hIff, fun hFault => ?_⟩
  obtain ⟨hRegister, hMemory, hInvalid⟩ := kind_of_stepRefuses (hIff.1 hFault)
  exact ⟨hRegister, hMemory, hInvalid, step_of_fault hFault⟩

/-- Decimal digits that would leave the memory by one byte: none of them is written. -/
theorem step_faults_exactly_decimal :
    ∃ m : Machine (Board DrawCounter Keypad),
      0x200 < m.ram.capacity ∧ m.depth ≤ 16 ∧ m.registers.i = 0x2FE ∧
        (m.step 0).result = .error (.fault (.addressOutOfRange 0x2FE 3 0x300)) ∧
        m.StepRefuses 0 (.addressOutOfRange 0x2FE 3 0x300) ∧
        (m.step 0).machine.ram = m.ram := by
  let blank : Machine (Board DrawCounter Keypad) := fresh 0x300 (Board.ofParts {} {}) default
  let m : Machine (Board DrawCounter Keypad) :=
    { blank with
      ram := ⟨Ram.store blank.ram.bytes 0x200 [0xF0, 0x33]⟩
      registers := { Registers.initial with i := 0x2FE, programEnd := 0x202 } }
  have hCapacity : 0x200 < m.ram.capacity := by
    rw [Ram.capacity_store, capacity_fresh]
    decide
  have hDepth : m.depth ≤ 16 := Nat.zero_le _
  have hFault : (m.step 0).result = .error (.fault (.addressOutOfRange 0x2FE 3 0x300)) := by
    decide +kernel
  obtain ⟨hIff, hAfter⟩ := step_faults_exactly hCapacity hDepth 0 (.addressOutOfRange 0x2FE 3 0x300)
  obtain ⟨-, -, -, pc, key, asked, hMachine, -, -⟩ := hAfter hFault
  refine ⟨m, hCapacity, hDepth, rfl, hFault, hIff.1 hFault, ?_⟩
  rw [hMachine]

end Machine

end Chip8
