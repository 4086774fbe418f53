import Mathlib.Tactic
import Chip8.Device.Keypad
import Chip8.Proofs.Reachable

/-!
# Straight-line code comes to an end

Every instruction but a jump, a call and a return moves the program counter upwards, by two or, for
a skip that skips, by four. The counter sticks at the largest address instead of wrapping around,
and no program in a memory of 16-bit addresses has a whole word there. So a machine that goes on
without faults has to jump, call or return again and again, or it halts.
-/

namespace Chip8

/-- Whether the instruction with these digits sends the program counter elsewhere: `1NNN`, `2NNN`,
`BNNN` and `00EE` do. -/
def Digits.isTransfer (d : Digits) : Bool :=
  d.family == 0x1 || d.family == 0x2 || d.family == 0xB || d == ⟨0x0, 0x0, 0xE, 0xE⟩

/-- Whether an operation sends the program counter elsewhere. -/
def Operation.isTransfer : Operation → Bool
  | .jump | .call | .jumpOffset | .ret => true
  | _ => false

theorem Operation.isTransfer_of_ofDigits? {d : Digits} {op : Operation}
    (h : ofDigits? d = some op) : op.isTransfer = d.isTransfer := by
  revert h
  obtain ⟨family, x, y, n⟩ := d
  fun_cases ofDigits?
  case case3 hFamily hClear hReturn =>
      -- Of the words of the family 0, only the return is a transfer.
      rintro ⟨⟩
      obtain rfl : family = 0 := hFamily
      have hOther : Digits.mk 0 x y n ≠ ⟨0x0, 0x0, 0xE, 0xE⟩ := by
        rintro ⟨⟩
        exact hReturn rfl rfl rfl
      rw [Digits.isTransfer, beq_false_of_ne hOther]
      rfl
  case case36 =>
      intro hNone
      cases hNone
  all_goals
    rintro ⟨⟩
    dsimp only at *
    subst_vars
    rfl

/-- How a host paces the steps of a machine: the patience of every step, and how often it counts the
timers down after it. -/
structure Pace where
  patience : Nat → Nat
  ticks : Nat → Nat

/-- The pace from step `n` on. -/
def Pace.drop (p : Pace) (n : Nat) : Pace where
  patience k := p.patience (n + k)
  ticks k := p.ticks (n + k)

namespace Machine

variable {σ : Type}

/-- The next step executes a jump, a call or a return. -/
def AtTransfer (m : Machine σ) : Prop :=
  ∃ w, m.nextWord? = some w ∧ w.digits.isTransfer = true

/-- `m'` is about to execute the instruction that `m` is about to execute, or the one behind it. -/
def Follows (m m' : Machine σ) : Prop :=
  m'.registers.pc = m.registers.pc ∨ m'.registers.pc = nextAddress m.registers.pc

theorem pc_ticks (m : Machine σ) (n : Nat) : (m.ticks n).registers.pc = m.registers.pc := by
  induction n generalizing m with
  | zero => rfl
  | succ n ih => exact ih m.tick

theorem follows_skipIf (m : Machine σ) (condition : Bool) : m.Follows (m.skipIf condition) := by
  cases condition with
  | true => exact Or.inr rfl
  | false => exact Or.inl rfl

variable [Device σ]

/-- Apart from jumps, calls and returns, operations skip at most one instruction. -/
theorem follows_execute (m : Machine σ) (patience : Nat) {op : Operation}
    (hStraight : op.isTransfer = false) (w : Word) :
    m.Follows (m.execute patience op w).machine := by
  cases op
  case jump | call | jumpOffset | ret => cases hStraight
  case skipEqualConstant | skipUnequalConstant | skipEqualRegister | skipUnequalRegister =>
      rw [execute]
      exact m.follows_skipIf _
  case skipPressed | skipReleased =>
      obtain ⟨pc, device, hSkip, hPc⟩ := m.skipIfPressed_frame _ _
      change m.Follows (m.skipIfPressed _ _).machine
      rw [hSkip]
      exact hPc
  case clearScreen =>
      change m.Follows m.clearScreen.machine
      rw [clearScreen_machine]
      exact Or.inl rfl
  case draw =>
      obtain ⟨v, device, hDraw⟩ := m.drawSprite_frame _ _ _
      change m.Follows (m.drawSprite _ _ _).machine
      rw [hDraw]
      exact Or.inl rfl
  case register op =>
      rw [execute, combine]
      split
      · exact Or.inl rfl
      · exact Or.inl rfl
  case loadGlyph =>
      rw [execute_loadGlyph]
      exact Or.inl rfl
  case storeDecimal =>
      rw [execute_storeDecimal]
      split
      · exact Or.inl rfl
      · exact Or.inl rfl
  case storeRegisters =>
      rw [execute_storeRegisters]
      split
      · exact Or.inl rfl
      · exact Or.inl rfl
  case loadRegisters =>
      rw [execute_loadRegisters]
      split
      · obtain ⟨v, hRestored⟩ := m.registers.exists_restore _
        rw [hRestored]
        exact Or.inl rfl
      · exact Or.inl rfl
  all_goals exact Or.inl rfl

/-- What the instruction `w` comes to, executed behind its fetch. A word that is no instruction is
passed over. -/
def executed (m : Machine σ) (patience : Nat) (w : Word) : Outcome σ Unit :=
  match Operation.ofDigits? w.digits with
  | none => m.advanced.done
  | some op => m.advanced.execute patience op w

/-- A step that has fetched a word does nothing but execute it. -/
theorem step_eq_executed {m : Machine σ} {w : Word} (hWord : m.nextWord? = some w)
    (patience : Nat) :
    (m.step patience).machine = (m.executed patience w).machine ∧
      (m.step patience).result = (m.executed patience w).result.map fun () => .running := by
  rw [executed]
  rcases step_of_nextWord hWord with ⟨hDecode, hStep⟩ | ⟨op, mnemonic, hDecode, hStep⟩
  · rw [hStep, hDecode]
    exact ⟨rfl, rfl⟩
  · rw [hStep, hDecode]
    exact ⟨rfl, rfl⟩

/-- A step that does not transfer control goes at least one instruction further, also when the
instruction fails. -/
theorem pc_of_straight_step {m : Machine σ} {w : Word} (hWord : m.nextWord? = some w)
    (hStraight : w.digits.isTransfer = false) (patience : Nat) :
    min (m.registers.pc.toNat + 2) 0xFFFF ≤ (m.step patience).machine.registers.pc.toNat := by
  have hNext : m.advanced.Follows (m.step patience).machine := by
    rw [(step_eq_executed hWord patience).1, executed]
    cases hDecode : Operation.ofDigits? w.digits with
    | none => exact Or.inl rfl
    | some op =>
        refine m.advanced.follows_execute patience ?_ w
        rw [Operation.isTransfer_of_ofDigits? hDecode, hStraight]
  have hPc : m.advanced.registers.pc = nextAddress m.registers.pc := rfl
  rcases hNext with hSame | hSkipped
  · rw [hSame, hPc, toNat_nextAddress]
  · rw [hSkipped, hPc, toNat_nextAddress, toNat_nextAddress]
    omega

/-- The machine before step `n` of a sequence of steps. -/
def before (m : Machine σ) (pace : Pace) : Nat → Machine σ
  | 0 => m
  | n + 1 =>
    let last := m.before pace n
    (last.step (pace.patience n)).machine.ticks (pace.ticks n)

/-- What step `n` of a sequence of steps comes to. -/
def resultAt (m : Machine σ) (pace : Pace) (n : Nat) : Except Stop RunState :=
  ((m.before pace n).step (pace.patience n)).result

theorem sameBounds_before (m : Machine σ) (pace : Pace) (n : Nat) :
    m.SameBounds (m.before pace n) := by
  induction n with
  | zero => exact .refl m
  | succ n ih =>
      have hStep := (m.before pace n).sameBounds_step (pace.patience n)
      exact (ih.trans hStep).trans (sameBounds_ticks _ _)

/-- The steps from step `n` on are steps of the machine before step `n`. -/
theorem before_add (m : Machine σ) (pace : Pace) (n k : Nat) :
    m.before pace (n + k) = (m.before pace n).before (pace.drop n) k := by
  induction k with
  | zero => rfl
  | succ k ih =>
      rw [← Nat.add_assoc, before, ih]
      rfl

theorem resultAt_add (m : Machine σ) (pace : Pace) (n k : Nat) :
    m.resultAt pace (n + k) = (m.before pace n).resultAt (pace.drop n) k := by
  rw [resultAt, before_add]
  rfl

section StraightLine

variable {m : Machine σ} {pace : Pace} {n : Nat}

/-- Steps that do not transfer control go at least one instruction further each. -/
theorem pc_before_of_straight (hRunning : ∀ k < n, m.resultAt pace k = .ok .running)
    (hStraight : ∀ k < n, ¬(m.before pace k).AtTransfer) :
    min (m.registers.pc.toNat + 2 * n) 0xFFFF ≤ (m.before pace n).registers.pc.toNat := by
  induction n with
  | zero => exact Nat.min_le_left _ _
  | succ n ih =>
      have hBefore := ih (fun k hk => hRunning k (Nat.lt_succ_of_lt hk))
        fun k hk => hStraight k (Nat.lt_succ_of_lt hk)
      obtain ⟨w, hWord⟩ := nextWord?_of_goes_on (hRunning n (Nat.lt_succ_self n))
      have hOther : w.digits.isTransfer = false :=
        Bool.eq_false_of_not_eq_true fun h => hStraight n (Nat.lt_succ_self n) ⟨w, hWord, h⟩
      have hStep := pc_of_straight_step hWord hOther (pace.patience n)
      rw [before, pc_ticks]
      omega

/-- They are as many as there are instructions up to the end of the program, at most. -/
theorem straight_line_fits (hEnd : m.registers.programEnd ≤ 0x10000)
    (hRunning : ∀ k < n + 1, m.resultAt pace k = .ok .running)
    (hStraight : ∀ k < n + 1, ¬(m.before pace k).AtTransfer) :
    m.registers.pc.toNat + 2 * (n + 1) ≤ m.registers.programEnd := by
  have hBefore := pc_before_of_straight (fun k hk => hRunning k (Nat.lt_succ_of_lt hk))
    fun k hk => hStraight k (Nat.lt_succ_of_lt hk)
  obtain ⟨w, hWord⟩ := nextWord?_of_goes_on (hRunning n (Nat.lt_succ_self n))
  obtain ⟨-, hFits, -⟩ := nextWord?_eq_some_iff.1 hWord
  rw [(m.sameBounds_before pace n).programEnd] at hFits
  omega

/-- So a longer sequence of steps transfers control or halts. -/
theorem exists_transfer_or_halt (hEnd : m.registers.programEnd ≤ 0x10000)
    (hLong : (m.registers.programEnd - m.registers.pc.toNat) / 2 < n)
    (hOk : ∀ k < n, ∃ state, m.resultAt pace k = .ok state) :
    ∃ k < n, (m.before pace k).AtTransfer ∨ m.resultAt pace k = .ok .halted := by
  by_contra hNone
  have hStraight : ∀ k < n, ¬(m.before pace k).AtTransfer :=
    fun k hk h => hNone ⟨k, hk, Or.inl h⟩
  have hRunning : ∀ k < n, m.resultAt pace k = .ok .running := by
    intro k hk
    obtain ⟨state, hState⟩ := hOk k hk
    cases state with
    | running => exact hState
    | halted => exact absurd ⟨k, hk, Or.inr hState⟩ hNone
  cases n with
  | zero => exact absurd hLong (Nat.not_lt_zero _)
  | succ n =>
      have hFits := straight_line_fits hEnd hRunning hStraight
      omega

/-- A machine that goes on forever transfers control again and again. -/
theorem exists_transfer_after (hEnd : m.registers.programEnd ≤ 0x10000)
    (hForever : ∀ k, m.resultAt pace k = .ok .running) (n : Nat) :
    ∃ k, n ≤ k ∧ (m.before pace k).AtTransfer := by
  have hLater (k : Nat) : (m.before pace n).resultAt (pace.drop n) k = .ok .running := by
    rw [← resultAt_add]
    exact hForever (n + k)
  have hEndLater : (m.before pace n).registers.programEnd ≤ 0x10000 := by
    rw [(m.sameBounds_before pace n).programEnd]
    exact hEnd
  obtain ⟨k, -, hTransfer | hHalted⟩ :=
    exists_transfer_or_halt hEndLater (Nat.lt_succ_self _) fun k _ => ⟨_, hLater k⟩
  · rw [← before_add] at hTransfer
    exact ⟨n + k, Nat.le_add_right n k, hTransfer⟩
  · rw [hLater k] at hHalted
    cases hHalted

end StraightLine

/-- In every state that a machine on a memory of 16-bit addresses reaches without a write of
registers, the program ends inside memory. A running machine halts exactly when its next word would
reach past that end; otherwise the word is in memory and the step executes it, and the program
counter grows unless the word transfers control. So no sequence of steps without a fault is longer
than the rest of the program, unless it transfers control or halts, and one that never halts
transfers control again and again. -/
theorem straight_line_ends {ram blank : Ram} {device : σ} {random : RandomStream}
    {m₀ m : Machine σ} {notices : Array Notice}
    (hAccepted : Ram.ofCapacity ram.capacity = .ok blank)
    (hPowerOn : powerOn ram device random = .ok (m₀, notices)) (hReaches : m₀.Reaches m) :
    m.registers.programEnd ≤ m.ram.capacity ∧ m.ram.capacity ≤ 0x10000 ∧
    (m.state = .running → ∀ patience,
      ((m.step patience).result = .ok .halted ↔
        m.registers.programEnd < m.registers.pc.toNat + 2) ∧
      (m.registers.programEnd < m.registers.pc.toNat + 2 →
        (m.step patience).machine = { m with state := .halted }) ∧
      (m.registers.pc.toNat + 2 ≤ m.registers.programEnd →
        ∃ w : Word, m.ram.readWord m.registers.pc.toNat = .ok w.bits ∧
          (m.step patience).machine = (m.executed patience w).machine ∧
          (m.step patience).result = ((m.executed patience w).result.map fun () => .running) ∧
          (w.digits.isTransfer = false →
            m.registers.pc.toNat < (m.step patience).machine.registers.pc.toNat))) ∧
    ∀ pace,
      (∀ n, (m.registers.programEnd - m.registers.pc.toNat) / 2 < n →
        (∀ k < n, ∃ state, m.resultAt pace k = .ok state) →
        ∃ k < n, (m.before pace k).AtTransfer ∨ m.resultAt pace k = .ok .halted) ∧
      ((∀ k, m.resultAt pace k = .ok .running) →
        ∀ n, ∃ k, n ≤ k ∧ (m.before pace k).AtTransfer) := by
  obtain ⟨⟨-, hLimit⟩, -⟩ := Ram.ofCapacity_eq_ok_iff.1 hAccepted
  have hInside := hReaches.endsInside hPowerOn
  have hEnd : m.registers.programEnd ≤ 0x10000 := hInside.programEnd.trans hLimit
  refine ⟨?_, ?_, ?_, ?_⟩
  · rw [hInside.size]
    exact hInside.programEnd
  · rw [hInside.size]
    exact hLimit
  · intro hRunning patience
    refine ⟨?_, fun hPast => (step_past_end (Or.inr hPast) patience).2, ?_⟩
    · rw [step_halts_iff, hRunning]
      exact or_iff_right fun h => nomatch h
    · intro hFits
      obtain ⟨bits, hRead⟩ := Ram.exists_readWord (r := m.ram) (hFits.trans (by
        rw [hInside.size]
        exact hInside.programEnd))
      have hWord : m.nextWord? = some ⟨bits⟩ := nextWord?_eq_some_iff.2 ⟨hRunning, hFits, hRead⟩
      obtain ⟨hMachine, hResult⟩ := step_eq_executed hWord patience
      refine ⟨⟨bits⟩, hRead, hMachine, hResult, fun hStraight => ?_⟩
      have hStep := pc_of_straight_step hWord hStraight patience
      omega
  · intro pace
    exact ⟨fun n => exists_transfer_or_halt hEnd, exists_transfer_after hEnd⟩

/-- A program of one instruction and an odd byte: its second step halts. -/
theorem straight_line_ends_odd :
    ∃ (m₀ m : Machine (Board DrawCounter Keypad)) (notices : Array Notice),
      powerOn (Ram.zeroed 0x300) (Board.ofParts {} {}) default = .ok (m₀, notices) ∧
      m₀.Reaches m ∧ m.registers.programEnd = 0x203 ∧
      (m.step 0).result = .ok .running ∧
      ∃ k < 2, (m.before ⟨fun _ => 0, fun _ => 1⟩ k).AtTransfer ∨
        m.resultAt ⟨fun _ => 0, fun _ => 1⟩ k = .ok .halted := by
  let program : List UInt8 := [0x60, 0x05, 0x60]
  let pace : Pace := ⟨fun _ => 0, fun _ => 1⟩
  let m₀ : Machine (Board DrawCounter Keypad) := fresh 0x300 (Board.ofParts {} {}) default
  let m := (m₀.perform 0 (.load program)).machine
  have hAccepted : Ram.ofCapacity (Ram.zeroed 0x300).capacity = .ok (Ram.zeroed 0x300) :=
    Ram.ofCapacity_zeroed (by decide) (by decide)
  have hPowerOn := powerOn_zeroed (by decide : Layout.programStart < 0x300)
    (Board.ofParts {} {} : Board DrawCounter Keypad) default
  have hReaches : m₀.Reaches m := Reaches.start.act 0 rfl
  have hFirst : m.resultAt pace 0 = .ok .running := by decide +kernel
  have hSecond : m.resultAt pace 1 = .ok .halted := by decide +kernel
  obtain ⟨-, -, -, hEnds⟩ := straight_line_ends hAccepted hPowerOn hReaches
  refine ⟨m₀, m, _, hPowerOn, hReaches, by decide +kernel, hFirst, ?_⟩
  refine (hEnds pace).1 2 (by decide +kernel) fun k hk => ?_
  interval_cases k
  · exact ⟨_, hFirst⟩
  · exact ⟨_, hSecond⟩

end Machine

end Chip8
