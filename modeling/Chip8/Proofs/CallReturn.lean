import Mathlib.Tactic
import Chip8.Device.Keypad
import Chip8.Machine.Action
import Chip8.Proofs.Starting
import Chip8.Proofs.Stepping

/-!
# The discipline of calls and returns

A `CallLog` follows a machine and remembers which calls have not returned. It is no part of the
machine: the machine has only a depth and bytes in memory that programs can overwrite. `Tracks` says
that these bytes are the return addresses of the log. Every move keeps it, as long as no store hits
the live bytes, so it holds through every sequence of actions after power on.
-/

namespace Chip8

/-- The calls that a machine has made since it was last started. -/
structure CallLog where
  /-- The addresses of the calls that have not returned, the newest first. -/
  pending : List UInt16 := []
  called : Nat := 0
  returned : Nat := 0
  deriving DecidableEq, Repr

namespace CallLog

variable {σ : Type} [Device σ]

/-- The log after a step. Only calls and returns that succeed count. -/
def afterStep (log : CallLog) (m : Machine σ) (patience : Nat) : CallLog :=
  match m.nextOperation?, (m.step patience).result with
  | some .call, .ok _ =>
    { log with pending := m.registers.pc :: log.pending, called := log.called + 1 }
  | some .ret, .ok _ => { log with pending := log.pending.tail, returned := log.returned + 1 }
  | _, _ => log

/-- The log after a move. A reset and a successful load start it anew. -/
def after (log : CallLog) (m : Machine σ) : Move → CallLog
  | .load program =>
    match (m.load program).result with
    | .ok () => {}
    | .error _ => log
  | .reset => {}
  | .step patience => log.afterStep m patience
  | .tick => log
  | .poke _ => log

/-- The log after a sequence of moves. -/
def follow (log : CallLog) (m : Machine σ) : List Move → CallLog
  | [] => log
  | mv :: rest => (log.after m mv).follow (m.move mv).machine rest

/-- The addresses to which the pending calls return, the newest first. -/
def returns (log : CallLog) : List UInt16 :=
  log.pending.map nextAddress

theorem length_returns (log : CallLog) : log.returns.length = log.pending.length :=
  List.length_map _

end CallLog

namespace Machine

section Stores

variable {σ : Type}

/-- The bytes that the next step stores into, as first address and length, if it is a store. -/
def nextStore? (m : Machine σ) : Option (Nat × Nat) :=
  m.nextWord?.bind fun w =>
    match Operation.ofDigits? w.digits with
    | some .storeDecimal => some (m.registers.i.toNat, 3)
    | some .storeRegisters => some (m.registers.i.toNat, w.digits.x.val + 1)
    | _ => none

theorem nextStore?_storeDecimal {m : Machine σ} {w : Word} (hWord : m.nextWord? = some w)
    (hDecode : Operation.ofDigits? w.digits = some .storeDecimal) :
    m.nextStore? = some (m.registers.i.toNat, 3) := by
  simp only [nextStore?, hWord, Option.bind_some, hDecode]

theorem nextStore?_storeRegisters {m : Machine σ} {w : Word} (hWord : m.nextWord? = some w)
    (hDecode : Operation.ofDigits? w.digits = some .storeRegisters) :
    m.nextStore? = some (m.registers.i.toNat, w.x.val + 1) := by
  simp only [nextStore?, hWord, Option.bind_some, hDecode, w.x_eq]

/-- The next step stores into no live byte of the call stack. -/
def SparesStack (m : Machine σ) : Prop :=
  ∀ addr len, m.nextStore? = some (addr, len) →
    ∀ a, addr ≤ a → a < addr + len → ¬(0x160 ≤ a ∧ a < 0x160 + 2 * m.depth)

theorem sparesStack_of_no_store {m : Machine σ} (h : m.nextStore? = none) : m.SparesStack := by
  intro addr len hStore
  rw [h] at hStore
  cases hStore

/-- The call stack holds the return addresses of a log. -/
structure Tracks (m : Machine σ) (log : CallLog) : Prop where
  capacity : Layout.programStart < m.ram.capacity
  words : ReturnWords m.ram log.returns
  depth : m.depth = log.pending.length
  balance : m.depth + log.returned = log.called
  bounded : m.depth ≤ Layout.stackSlots

namespace Tracks

variable {m m' : Machine σ} {log : CallLog}

/-- Nothing but memory and depth matters. -/
theorem congr (h : m.Tracks log) (hRam : m'.ram = m.ram) (hDepth : m'.depth = m.depth) :
    m'.Tracks log where
  capacity := hRam ▸ h.capacity
  words := hRam ▸ h.words
  depth := hDepth.trans h.depth
  balance := hDepth ▸ h.balance
  bounded := hDepth ▸ h.bounded

/-- A machine that has just started tracks the empty log. -/
theorem start (hCapacity : Layout.programStart < m.ram.capacity) (hDepth : m.depth = 0) :
    m.Tracks {} where
  capacity := hCapacity
  words := trivial
  depth := hDepth
  balance := hDepth
  bounded := hDepth ▸ Nat.zero_le _

/-- Power on starts with the empty log. -/
theorem ofPowerOn {ram blank : Ram} {device : σ} {random : RandomStream}
    {notices : Array Notice} (hAccepted : Ram.ofCapacity ram.capacity = .ok blank)
    (hPowerOn : powerOn ram device random = .ok (m, notices)) : m.Tracks {} := by
  obtain ⟨⟨hCapacity, -⟩, -⟩ := Ram.ofCapacity_eq_ok_iff.1 hAccepted
  rw [powerOn_of_capacity hCapacity] at hPowerOn
  obtain ⟨rfl, -⟩ := Prod.mk.inj (Except.ok.inj hPowerOn)
  refine Tracks.start ?_ rfl
  rw [Ram.capacity_store]
  exact hCapacity

/-- A store that spares the live bytes. -/
theorem store (h : m.Tracks log) {addr : Nat} (data : List UInt8)
    (hFits : addr + data.length ≤ m.ram.capacity)
    (hSpared : ∀ a, addr ≤ a → a < addr + data.length → ¬(0x160 ≤ a ∧ a < 0x160 + 2 * m.depth))
    (hRam : m'.ram = ⟨Ram.store m.ram.bytes addr data⟩) (hDepth : m'.depth = m.depth) :
    m'.Tracks log where
  capacity := by
    rw [hRam, Ram.capacity_store]
    exact h.capacity
  words := by
    rw [hRam]
    refine ReturnWords.congr (Ram.capacity_store _ _ _) ?_ h.words
    intro a hLow hHigh
    rw [log.length_returns, ← h.depth] at hHigh
    rw [Ram.cell_store _ hFits, if_neg fun hInside => hSpared a hInside.1 hInside.2 ⟨hLow, hHigh⟩]
  depth := hDepth.trans h.depth
  balance := hDepth ▸ h.balance
  bounded := hDepth ▸ h.bounded

/-- The live words, read back. -/
theorem pending (h : m.Tracks log) : m.stack.pending m.ram = .ok log.returns.reverse := by
  rw [stack_eq_ofDepth, h.depth, ← log.length_returns]
  refine ReturnWords.pending ?_ h.words
  rw [log.length_returns, ← h.depth]
  exact h.bounded

end Tracks

end Stores

variable {σ : Type} [Device σ] {m : Machine σ} {log : CallLog}

/-- With room on the stack a call goes through and is pending afterwards. -/
theorem step_call (h : m.Tracks log) (hOp : m.nextOperation? = some .call)
    (hRoom : log.pending.length < Layout.stackSlots) (patience : Nat) :
    (m.step patience).result = .ok .running ∧
      (m.step patience).machine.Tracks
        { log with pending := m.registers.pc :: log.pending, called := log.called + 1 } := by
  obtain ⟨w, -, -, hMachine, hResult⟩ := step_of_nextOperation hOp patience
  have hDepth : m.depth < Layout.stackSlots := h.depth ▸ hRoom
  have hNotFull : ¬Layout.stackSlots ≤ m.advanced.depth := Nat.not_le.2 hDepth
  have hFits : CallStack.slotOf m.advanced.depth + 2 ≤ m.advanced.ram.capacity :=
    CallStack.slotOf_fits h.capacity hDepth
  rw [execute_call, if_neg hNotFull, if_pos hFits] at hMachine hResult
  refine ⟨hResult, ?_⟩
  have hLength : log.returns.length = m.depth := log.length_returns.trans h.depth.symm
  have hPush := ReturnWords.push h.capacity (hLength ▸ hDepth) h.words
    (nextAddress m.registers.pc)
  rw [hLength] at hPush
  rw [hMachine]
  exact {
    capacity := (Ram.capacity_store _ _ _).symm ▸ h.capacity
    words := hPush
    depth := congrArg (· + 1) h.depth
    balance := by
      have hBalance := h.balance
      change m.depth + 1 + log.returned = log.called + 1
      omega
    bounded := hDepth }

/-- On a full stack a call overflows and changes neither memory nor depth. -/
theorem step_call_full (h : m.Tracks log) (hOp : m.nextOperation? = some .call)
    (hFull : log.pending.length = Layout.stackSlots) (patience : Nat) :
    (m.step patience).result = .error (.fault (.stackOverflow Layout.stackSlots)) ∧
      (m.step patience).machine.ram = m.ram ∧ (m.step patience).machine.depth = m.depth := by
  obtain ⟨w, -, -, hMachine, hResult⟩ := step_of_nextOperation hOp patience
  have hDepth : Layout.stackSlots ≤ m.advanced.depth := Nat.le_of_eq (hFull.symm.trans h.depth.symm)
  rw [execute_call, if_pos hDepth] at hMachine hResult
  rw [hMachine]
  exact ⟨hResult, rfl, rfl⟩

/-- A return goes behind the newest pending call, which is pending no longer. -/
theorem step_ret (h : m.Tracks log) (hOp : m.nextOperation? = some .ret) {call : UInt16}
    {older : List UInt16} (hPending : log.pending = call :: older) (patience : Nat) :
    (m.step patience).result = .ok .running ∧
      (m.step patience).machine.registers.pc = nextAddress call ∧
      (m.step patience).machine.Tracks
        { log with pending := older, returned := log.returned + 1 } := by
  obtain ⟨w, -, -, hMachine, hResult⟩ := step_of_nextOperation hOp patience
  have hDepth : m.depth = older.length + 1 := by
    rw [h.depth, hPending]
    rfl
  have hReturns : log.returns = nextAddress call :: older.map nextAddress := by
    rw [CallLog.returns, hPending]
    rfl
  have hLength : (older.map nextAddress).length = older.length := List.length_map _
  have hWords := h.words
  rw [hReturns] at hWords
  have hBound : older.length < Layout.stackSlots := by
    have hBounded := h.bounded
    rw [hDepth] at hBounded
    exact hBounded
  have hPop : m.advanced.stack.pop m.advanced.ram =
      .ok (nextAddress call, .ofDepth older.length) := by
    rw [stack_eq_ofDepth, advanced_depth, hDepth, ← hLength]
    exact ReturnWords.pop (hLength.symm ▸ hBound) hWords
  rw [execute_ret, hPop] at hMachine hResult
  rw [hMachine]
  refine ⟨hResult, rfl, ?_⟩
  exact {
    capacity := h.capacity
    words := hWords.2
    depth := rfl
    balance := by
      have hBalance := h.balance
      change older.length + (log.returned + 1) = log.called
      omega
    bounded := Nat.le_of_lt hBound }

/-- Without a pending call a return underflows and changes neither memory nor depth. -/
theorem step_ret_empty (h : m.Tracks log) (hOp : m.nextOperation? = some .ret)
    (hPending : log.pending = []) (patience : Nat) :
    (m.step patience).result = .error (.fault .stackUnderflow) ∧
      (m.step patience).machine.ram = m.ram ∧ (m.step patience).machine.depth = m.depth := by
  obtain ⟨w, -, -, hMachine, hResult⟩ := step_of_nextOperation hOp patience
  have hDepth : m.advanced.depth = 0 := by
    rw [advanced_depth, h.depth, hPending]
    rfl
  rw [execute_ret_empty hDepth] at hMachine hResult
  rw [hMachine]
  exact ⟨hResult, rfl, rfl⟩

theorem Tracks.afterStoreDecimal (h : m.Tracks log) (hSpared : m.SparesStack) {w : Word}
    (hWord : m.nextWord? = some w) (hDecode : Operation.ofDigits? w.digits = some .storeDecimal)
    (patience : Nat) : (m.advanced.execute patience .storeDecimal w).machine.Tracks log := by
  have hStore := nextStore?_storeDecimal hWord hDecode
  rw [execute_storeDecimal]
  split
  · rename_i hFits
    exact h.store (decimalDigits _) hFits (hSpared _ _ hStore) rfl rfl
  · exact h.congr rfl rfl

theorem Tracks.afterStoreRegisters (h : m.Tracks log) (hSpared : m.SparesStack) {w : Word}
    (hWord : m.nextWord? = some w) (hDecode : Operation.ofDigits? w.digits = some .storeRegisters)
    (patience : Nat) : (m.advanced.execute patience .storeRegisters w).machine.Tracks log := by
  have hStore := nextStore?_storeRegisters hWord hDecode
  rw [execute_storeRegisters]
  split
  · rename_i hFits
    refine h.store (m.advanced.registers.v.toList.take (w.x.val + 1)) ?_ ?_ rfl rfl
    · rw [length_dumped]
      exact hFits
    · rw [length_dumped]
      exact hSpared _ _ hStore
  · exact h.congr rfl rfl

/-- Every step keeps track of the calls, if it stores into no live byte. -/
theorem Tracks.afterStep (h : m.Tracks log) (hSpared : m.SparesStack) (patience : Nat) :
    (m.step patience).machine.Tracks (log.afterStep m patience) := by
  cases hOp : m.nextOperation? with
  | none =>
      obtain ⟨registers, state, hMachine⟩ := step_of_no_operation hOp patience
      have hLog : log.afterStep m patience = log := by simp only [CallLog.afterStep, hOp]
      rw [hLog, hMachine]
      exact h.congr rfl rfl
  | some op =>
      obtain ⟨w, hWord, hDecode, hMachine, -⟩ := step_of_nextOperation hOp patience
      by_cases hCall : op = .call
      · subst hCall
        by_cases hRoom : log.pending.length < Layout.stackSlots
        · obtain ⟨hResult, hTracks⟩ := step_call h hOp hRoom patience
          simpa only [CallLog.afterStep, hOp, hResult] using hTracks
        · have hFull : log.pending.length = Layout.stackSlots :=
            Nat.le_antisymm (h.depth ▸ h.bounded) (Nat.not_lt.1 hRoom)
          obtain ⟨hResult, hRam, hDepth⟩ := step_call_full h hOp hFull patience
          simpa only [CallLog.afterStep, hOp, hResult] using h.congr hRam hDepth
      by_cases hRet : op = .ret
      · subst hRet
        cases hPending : log.pending with
        | nil =>
            obtain ⟨hResult, hRam, hDepth⟩ := step_ret_empty h hOp hPending patience
            simpa only [CallLog.afterStep, hOp, hResult] using h.congr hRam hDepth
        | cons call older =>
            obtain ⟨hResult, -, hTracks⟩ := step_ret h hOp hPending patience
            simpa only [CallLog.afterStep, hOp, hResult, hPending, List.tail_cons] using hTracks
      have hLog : log.afterStep m patience = log := by
        unfold CallLog.afterStep
        rw [hOp]
        split
        · rename_i hSome _
          exact absurd (Option.some.inj hSome) hCall
        · rename_i hSome _
          exact absurd (Option.some.inj hSome) hRet
        · rfl
      rw [hLog, hMachine]
      by_cases hDecimal : op = .storeDecimal
      · subst hDecimal
        exact h.afterStoreDecimal hSpared hWord hDecode patience
      by_cases hRegisters : op = .storeRegisters
      · subst hRegisters
        exact h.afterStoreRegisters hSpared hWord hDecode patience
      obtain ⟨registers, random, device, hFrame⟩ :=
        m.advanced.execute_frame patience w hCall hRet hDecimal hRegisters
      rw [hFrame]
      exact h.congr rfl rfl

/-- Every move keeps track of the calls, if it stores into no live byte. -/
theorem Tracks.after (h : m.Tracks log) {mv : Move}
    (hSpared : ∀ patience, mv = .step patience → m.SparesStack) :
    (m.move mv).machine.Tracks (log.after m mv) := by
  cases mv with
  | load program =>
      rcases m.load_cases program with ⟨-, hLoad⟩ | ⟨-, hMachine, hResult⟩
      · simp only [CallLog.after, move, hLoad]
        exact h
      · simp only [CallLog.after, move, hResult]
        rw [hMachine]
        refine Tracks.start ?_ rfl
        rw [Ram.capacity_store]
        exact h.capacity
  | reset => exact Tracks.start h.capacity rfl
  | step patience => exact h.afterStep (hSpared patience rfl) patience
  | tick => exact h.congr rfl rfl
  | poke registers => exact h.congr rfl rfl

/-- No step among the moves stores into a live byte of the call stack. -/
def StoresSpareStack (m : Machine σ) (moves : List Move) : Prop :=
  ∀ before patience later, moves = before ++ .step patience :: later →
    (m.replay before).SparesStack

theorem storesSpareStack_nil : m.StoresSpareStack [] := by
  intro before patience later hSplit
  cases before with
  | nil => cases hSplit
  | cons mv before => cases hSplit

theorem storesSpareStack_cons_iff {mv : Move} {rest : List Move} :
    m.StoresSpareStack (mv :: rest) ↔
      (∀ patience, mv = .step patience → m.SparesStack) ∧
        (m.move mv).machine.StoresSpareStack rest := by
  constructor
  · intro h
    constructor
    · rintro patience rfl
      exact h [] patience rest rfl
    · intro before patience later hRest
      exact h (mv :: before) patience later (congrArg (mv :: ·) hRest)
  · rintro ⟨hFirst, hRest⟩ before patience later hSplit
    cases before with
    | nil =>
        obtain ⟨rfl, rfl⟩ := List.cons.inj hSplit
        exact hFirst patience rfl
    | cons mv' before =>
        obtain ⟨rfl, hTail⟩ := List.cons.inj hSplit
        exact hRest before patience later hTail

theorem StoresSpareStack.of_append {before later : List Move}
    (h : m.StoresSpareStack (before ++ later)) : m.StoresSpareStack before := by
  intro first patience second hSplit
  refine h first patience (second ++ later) ?_
  rw [hSplit, List.append_assoc]
  rfl

/-- So the calls are tracked through every sequence of moves. -/
theorem Tracks.follow (h : m.Tracks log) {moves : List Move}
    (hSpared : m.StoresSpareStack moves) : (m.replay moves).Tracks (log.follow m moves) := by
  induction moves generalizing m log with
  | nil => exact h
  | cons mv rest ih =>
      obtain ⟨hFirst, hRest⟩ := storesSpareStack_cons_iff.1 hSpared
      exact ih (h.after hFirst) hRest

/-- From power on, through all that a host can do, as long as no store of a program hits the live
bytes of the call stack: these bytes are the return addresses of the calls that have not returned,
every return goes behind the newest of them, and calls and returns fail only for want of room and
of a pending call. -/
theorem calls_return_in_order {ram blank : Ram} {device : σ} {random : RandomStream}
    {m₀ : Machine σ} {notices : Array Notice} (hAccepted : Ram.ofCapacity ram.capacity = .ok blank)
    (hPowerOn : powerOn ram device random = .ok (m₀, notices)) (patience : Nat)
    (actions : List Action) (hSpared : m₀.StoresSpareStack (m₀.moves patience actions)) :
    m₀.replay (m₀.moves patience actions) = m₀.performAll patience actions ∧
    ∀ before later, m₀.moves patience actions = before ++ later →
      let m := m₀.replay before
      let log := CallLog.follow {} m₀ before
      m.stack.pending m.ram = .ok (log.pending.map nextAddress).reverse ∧
      m.depth = log.pending.length ∧
      m.depth + log.returned = log.called ∧
      m.depth ≤ 16 ∧
      ∀ patience',
        let o := m.step patience'
        (m.nextOperation? = some .ret → ∀ call older, log.pending = call :: older →
          o.result = .ok .running ∧
            o.machine.registers.pc.toNat = min (call.toNat + 2) 0xFFFF) ∧
        (m.nextOperation? = some .ret → log.pending = [] →
          o.result = .error (.fault .stackUnderflow) ∧
            o.machine.ram = m.ram ∧ o.machine.depth = m.depth) ∧
        (m.nextOperation? = some .call → log.pending.length < 16 → o.result = .ok .running) ∧
        (m.nextOperation? = some .call → log.pending.length = 16 →
          o.result = .error (.fault (.stackOverflow 16)) ∧
            o.machine.ram = m.ram ∧ o.machine.depth = m.depth) := by
  refine ⟨replay_moves _ _ _, ?_⟩
  intro before later hSplit m log
  rw [hSplit] at hSpared
  have hTracks : m.Tracks log := (Tracks.ofPowerOn hAccepted hPowerOn).follow hSpared.of_append
  refine ⟨hTracks.pending, hTracks.depth, hTracks.balance, hTracks.bounded, ?_⟩
  intro patience' o
  refine ⟨?_, ?_, ?_, ?_⟩
  · intro hRet call older hPending
    obtain ⟨hResult, hPc, -⟩ := step_ret hTracks hRet hPending patience'
    refine ⟨hResult, ?_⟩
    rw [hPc, toNat_nextAddress]
  · intro hRet hPending
    exact step_ret_empty hTracks hRet hPending patience'
  · intro hCall hRoom
    exact (step_call hTracks hCall hRoom patience').1
  · intro hCall hFull
    exact step_call_full hTracks hCall hFull patience'

/-- A call that comes back to the instruction behind it. -/
theorem calls_return_in_order_once :
    ∃ (ram blank : Ram) (m₀ : Machine (Board DrawCounter Keypad)) (notices : Array Notice)
      (actions : List Action) (before later : List Move),
      Ram.ofCapacity ram.capacity = .ok blank ∧
      powerOn ram (Board.ofParts {} {}) default = .ok (m₀, notices) ∧
      m₀.StoresSpareStack (m₀.moves 0 actions) ∧
      m₀.moves 0 actions = before ++ later ∧
      (m₀.replay before).nextOperation? = some .ret ∧
      (m₀.replay before).stack.pending (m₀.replay before).ram = .ok [0x202] ∧
      ((m₀.replay before).step 0).machine.registers.pc.toNat = 0x202 := by
  let program : List UInt8 := [0x22, 0x04, 0x12, 0x02, 0x00, 0xEE]
  let m₀ : Machine (Board DrawCounter Keypad) := fresh 0x300 (Board.ofParts {} {}) default
  have hAccepted : Ram.ofCapacity (Ram.zeroed 0x300).capacity = .ok (Ram.zeroed 0x300) :=
    Ram.ofCapacity_zeroed (by decide) (by decide)
  have hPowerOn := powerOn_zeroed (by decide : Layout.programStart < 0x300)
    (Board.ofParts {} {} : Board DrawCounter Keypad) default
  have hMoves : m₀.moves 0 [.load program, .run 2] = [.load program, .step 0, .step 0] := by
    decide +kernel
  have hSpared : m₀.StoresSpareStack (m₀.moves 0 [.load program, .run 2]) := by
    rw [hMoves]
    refine storesSpareStack_cons_iff.2 ⟨(fun _ h => nomatch h), ?_⟩
    refine storesSpareStack_cons_iff.2 ⟨fun _ _ => ?_, ?_⟩
    · exact sparesStack_of_no_store (by decide +kernel)
    refine storesSpareStack_cons_iff.2 ⟨fun _ _ => ?_, storesSpareStack_nil⟩
    exact sparesStack_of_no_store (by decide +kernel)
  obtain ⟨-, hAll⟩ := calls_return_in_order hAccepted hPowerOn 0 [.load program, .run 2] hSpared
  obtain ⟨hPending, -, -, -, hNext⟩ := hAll [.load program, .step 0] [.step 0] hMoves
  obtain ⟨hRet, -⟩ := hNext 0
  have hOp : (m₀.replay [.load program, .step 0]).nextOperation? = some .ret := by decide +kernel
  have hLog : (CallLog.follow {} m₀ [.load program, .step 0]).pending = [0x200] := by
    decide +kernel
  refine ⟨_, _, _, _, _, _, _, hAccepted, hPowerOn, hSpared, hMoves, hOp, ?_, ?_⟩
  · rw [hPending, hLog]
    rfl
  · rw [(hRet hOp 0x200 [] hLog).2]
    rfl

end Machine

end Chip8
