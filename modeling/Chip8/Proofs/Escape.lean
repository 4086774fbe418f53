import Mathlib.Tactic
import Chip8.Proofs.KeyInstructions
import Chip8.Proofs.Scheduling
import Chip8.Proofs.SessionKeys
import Chip8.Proofs.StepLimit

/-!
# Escape ends a session

Escape is read in an instruction that asks about a key or when the keys are flushed. In the first
case the question fails, and that ends the session. In the second case the session begins one more
frame, in which every question about a key fails at once; at the latest it ends with that frame.
-/

namespace Chip8

theorem Outcome.Ends.answered {σ α : Type} {o : Outcome σ α} (h : o.Ends) :
    o.result ≠ .error .unanswered := by
  rcases h with ⟨answer, hAnswer⟩ | ⟨fault, hFault⟩
  · rw [hAnswer]
    nofun
  · rw [hFault]
    nofun

namespace Board

variable {δ κ : Type} [KeySource κ]

theorem keys_toggle (b : Board δ κ) (x y : Nat) : (Device.toggle b x y).state.keys = b.keys := by
  change (Board.toggle b x y).state.keys = b.keys
  rw [Board.toggle]
  split
  · rfl
  · rfl

/-- Painting asks about no key. -/
theorem keys_paint (x y : Nat) (p : Painting (Board δ κ)) (cells : List (Nat × Nat)) :
    (Painting.paint x y p cells).1.device.keys = p.device.keys := by
  induction cells generalizing p with
  | nil => rfl
  | cons cell rest ih =>
      rw [Painting.paint]
      cases Sprite.place x y cell with
      | error cause => rfl
      | ok place =>
          obtain ⟨px, py⟩ := place
          have hKeys := p.device.keys_toggle px py
          dsimp only
          cases (Device.toggle p.device px py).answer with
          | value wasLit => exact (ih _).trans hKeys
          | failed error => exact (ih _).trans hKeys
          | aborted cause => exact hKeys

end Board

namespace Machine

section Boards

variable {δ κ : Type}

/-- The operation asks about no key. -/
def AsksNoKey {α : Type} (m : Machine (Board δ κ)) (o : Outcome (Board δ κ) α) : Prop :=
  o.machine.device.keys = m.device.keys ∧ o.effects.pauses = #[]

variable {m : Machine (Board δ κ)}

theorem asksNoKey_stop (m : Machine (Board δ κ)) (cause : Stop) : m.AsksNoKey (m.stop cause) :=
  ⟨rfl, rfl⟩

theorem asksNoKey_ite {c : Prop} [Decidable c] {α : Type} {o o' : Outcome (Board δ κ) α}
    (ho : m.AsksNoKey o) (ho' : m.AsksNoKey o') : m.AsksNoKey (if c then o else o') := by
  split
  · exact ho
  · exact ho'

end Boards

variable {δ κ : Type} [KeySource κ]

theorem asksNoKey_drawSprite (m : Machine (Board δ κ)) (x y height : UInt8) :
    m.AsksNoKey (m.drawSprite x y height) := by
  rw [drawSprite]
  cases m.ram.read m.registers.i.toNat height.toNat with
  | error fault => exact ⟨rfl, rfl⟩
  | ok rows =>
      have hKeys := Board.keys_paint x.toNat y.toNat { device := m.device }
        (Sprite.cells rows.toList)
      dsimp only
      cases hPaint : Painting.paint x.toNat y.toNat { device := m.device }
          (Sprite.cells rows.toList) with
      | mk p painted =>
          rw [hPaint] at hKeys
          cases painted with
          | error cause => exact ⟨hKeys, rfl⟩
          | ok done => exact ⟨hKeys, rfl⟩

/-- All operations but three ask about no key. -/
theorem asksNoKey_execute (m : Machine (Board δ κ)) (patience : Nat) {op : Operation}
    (hAwait : op ≠ .awaitKey) (hSkip : ∀ expected, op ≠ keySkip expected) (w : Word) :
    m.AsksNoKey (m.execute patience op w) := by
  cases hInternal : op.isInternal with
  | true =>
      obtain ⟨registers, random, effects, hExecute, -, hPauses⟩ :=
        m.execute_internal patience hInternal w
      rw [hExecute]
      exact ⟨rfl, hPauses⟩
  | false =>
      cases op
      case clearScreen => exact ⟨rfl, rfl⟩
      case ret =>
          rw [execute_ret]
          cases m.stack.pop m.ram with
          | error cause => exact ⟨rfl, rfl⟩
          | ok popped => exact ⟨rfl, rfl⟩
      case call =>
          rw [execute_call]
          exact asksNoKey_ite (m.asksNoKey_stop _) (asksNoKey_ite ⟨rfl, rfl⟩ (m.asksNoKey_stop _))
      case draw => exact m.asksNoKey_drawSprite _ _ _
      case skipPressed => exact absurd rfl (hSkip true)
      case skipReleased => exact absurd rfl (hSkip false)
      case awaitKey => exact absurd rfl hAwait
      case storeDecimal =>
          rw [execute_storeDecimal]
          exact asksNoKey_ite ⟨rfl, rfl⟩ (m.asksNoKey_stop _)
      case storeRegisters =>
          rw [execute_storeRegisters]
          exact asksNoKey_ite ⟨rfl, rfl⟩ (m.asksNoKey_stop _)
      case loadRegisters =>
          rw [execute_loadRegisters]
          exact asksNoKey_ite ⟨rfl, rfl⟩ (m.asksNoKey_stop _)
      all_goals cases hInternal

/-- The step asks about a key up to answer number `n`, counted from 0. The answers before it are
that the key is not down, and a sleep follows each of them. If answer number `n` is a failure, the
step does nothing else. -/
structure StepHears (m : Machine (Board δ κ)) (patience : Nat) (key : UInt8) (n : Nat) : Prop where
  silent : Device.Silent key n m.device
  device : (m.step patience).machine.device = Device.afterQueries key (n + 1) m.device
  pauses : (m.step patience).effects.pauses.toList = Device.intervals key n m.device
  failed : ∀ error, Device.answerAt key n m.device = .failed error →
    m.StepAsks patience key (n + 1) n ∧
      (m.step patience).result = .error (.fault (.device error))

variable {m : Machine (Board δ κ)} {w : Word}

theorem stepHears_of_decides (hWord : m.nextWord? = some w)
    (hOp : Operation.ofDigits? w.digits = some .awaitKey) {n patience : Nat}
    (hDecides : Device.Decides (m.keyNamed w.digits.x) n m.device) (hPatience : n < patience) :
    m.StepHears patience (m.keyNamed w.digits.x) n := by
  obtain ⟨hAsks, hResult⟩ := stepAsks_of_decides hWord hOp rfl hDecides hPatience
  refine ⟨hDecides.silent, hAsks.machine.device_eq, hAsks.pauses,
    fun error hFailed => ⟨hAsks, ?_⟩⟩
  rw [hResult, hFailed]
  rfl

theorem stepHears_of_keySkip (hWord : m.nextWord? = some w) {expected : Bool}
    (hOp : Operation.ofDigits? w.digits = some (keySkip expected)) (patience : Nat) :
    m.StepHears patience (m.keyNamed w.digits.x) 0 := by
  have hSkips := skipsOnKey_of_operation hWord hOp rfl patience
  obtain ⟨notice, hStep⟩ := step_keySkip hWord hOp rfl patience
  refine ⟨Device.silent_zero _ _, ?_, ?_, fun error hFailed => (hSkips.failed error hFailed).symm⟩
  · rw [hStep]
    exact device_skipIfPressed m.advanced _ expected
  · rw [hSkips.pauses]
    rfl

theorem answered_of_decides (hWord : m.nextWord? = some w)
    (hOp : Operation.ofDigits? w.digits = some .awaitKey) {n patience : Nat}
    (hDecides : Device.Decides (m.keyNamed w.digits.x) n m.device) (hPatience : n < patience) :
    (m.step patience).result ≠ .error .unanswered := by
  rw [(stepAsks_of_decides hWord hOp rfl hDecides hPatience).2]
  cases Device.answerAt (m.keyNamed w.digits.x) n m.device with
  | value answer => nofun
  | failed error => nofun
  | aborted cause => nofun

/-- What a step does with the keys of a board that never aborts: it asks about none, it hears an
answer about one, or it uses up its patience. -/
theorem step_keys_cases {P : Board δ κ → Prop} (hSafe : Device.Safe P) (hSound : m.Sound P)
    (patience : Nat) :
    ((m.step patience).result ≠ .error .unanswered ∧
      (m.AsksNoKey (m.step patience) ∨ ∃ key n, m.StepHears patience key n)) ∨
    ∃ key, Device.Silent key patience m.device ∧ m.StepAsks patience key patience patience := by
  rcases m.step_cases with ⟨-, hStep⟩ | ⟨-, -, hStep⟩ | ⟨-, -, -, hStep⟩ | ⟨w, -, -, hStep⟩ |
    ⟨w, op, mnemonic, hWord, hOp, hStep⟩
  · rw [hStep]
    exact Or.inl ⟨nofun, Or.inl ⟨rfl, rfl⟩⟩
  · rw [hStep]
    exact Or.inl ⟨nofun, Or.inl ⟨rfl, rfl⟩⟩
  · rw [hStep]
    exact Or.inl ⟨nofun, Or.inl ⟨rfl, rfl⟩⟩
  · rw [hStep]
    exact Or.inl ⟨nofun, Or.inl ⟨rfl, rfl⟩⟩
  by_cases hAwait : op = .awaitKey
  · subst hAwait
    rcases Device.decides_or_silent (m.keyNamed w.digits.x) patience m.device with
      ⟨n, hPatience, hDecides⟩ | hSilent
    · exact Or.inl ⟨answered_of_decides hWord hOp hDecides hPatience,
        Or.inr ⟨_, n, stepHears_of_decides hWord hOp hDecides hPatience⟩⟩
    · exact Or.inr ⟨_, hSilent, (stepAsks_of_silent hWord hOp rfl hSilent).1⟩
  · have hEnds := (endsSound_execute hSafe hSound.advanced patience hAwait w).2
    have hExecuted := (hEnds.map fun () => RunState.running).answered
    have hAnswered : (m.step patience).result ≠ .error .unanswered := by
      rw [hStep]
      exact hExecuted
    refine Or.inl ⟨hAnswered, ?_⟩
    by_cases hSkip : ∃ expected, op = keySkip expected
    · obtain ⟨expected, rfl⟩ := hSkip
      exact Or.inr ⟨_, 0, stepHears_of_keySkip hWord hOp patience⟩
    · obtain ⟨hKeys, hPauses⟩ :=
        m.advanced.asksNoKey_execute patience hAwait (not_exists.1 hSkip) w
      rw [hStep]
      exact Or.inl ⟨hKeys, (Array.empty_append).trans hPauses⟩

end Machine

/-! Escape and the questions about a key. -/

namespace Console

variable {d : Console} {key : UInt8} {n : Nat}

/-- As long as a key is said not to be down, Escape is not read. -/
theorem quitRequested_afterQueries (hSilent : Device.Silent key n d)
    (hBefore : d.keys.quitRequested = false) :
    (Device.afterQueries key n d).keys.quitRequested = false := by
  cases n with
  | zero => exact hBefore
  | succ n =>
      have hAnswer : ((Device.afterQueries key n d).keys.pressed key).answer = .value false :=
        hSilent n (Nat.lt_succ_self n)
      rw [Device.afterQueries_succ]
      change ((Device.afterQueries key n d).keys.pressed key).state.quitRequested = false
      rw [Keyboard.state_pressed]
      exact Keyboard.quitRequested_of_pressed_value hAnswer

/-- After Escape nothing is said about a key. -/
theorem eq_zero_of_silent (hSilent : Device.Silent key n d) (hQuit : d.keys.quitRequested = true) :
    n = 0 := by
  cases n with
  | zero => rfl
  | succ n =>
      have hAnswer : (d.keys.pressed key).answer = .value false := hSilent 0 (Nat.succ_pos n)
      have hStill := Keyboard.quitRequested_drain hQuit
      rw [Keyboard.quitRequested_of_pressed_value hAnswer] at hStill
      cases hStill

end Console

namespace Session

variable {s s₀ t : Session} {patience : Nat}

theorem step_keys_cases (hSound : s.Sound) (patience : Nat) :
    ((s.machine.step patience).result ≠ .error .unanswered ∧
      (s.machine.AsksNoKey (s.machine.step patience) ∨
        ∃ key n, s.machine.StepHears patience key n)) ∨
    ∃ key, Device.Silent key patience s.machine.device ∧
      s.machine.StepAsks patience key patience patience :=
  Machine.step_keys_cases (Console.safe s.canvas) hSound patience

/-- After Escape an instruction does not sleep, and it does not wait in vain. -/
theorem awake_of_quitRequested (hSound : s.Sound) (hQuit : s.keyboard.quitRequested = true)
    (patience : Nat) :
    (s.machine.step patience).effects.pauses = #[] ∧
      (0 < patience → (s.machine.step patience).result ≠ .error .unanswered) := by
  rcases step_keys_cases hSound patience with
    ⟨hAnswered, ⟨-, hPauses⟩ | ⟨key, n, hHears⟩⟩ | ⟨key, hSilent, hAsks⟩
  · exact ⟨hPauses, fun _ => hAnswered⟩
  · obtain rfl := Console.eq_zero_of_silent hHears.silent hQuit
    exact ⟨Array.toList_inj.1 hHears.pauses, fun _ => hAnswered⟩
  · obtain rfl := Console.eq_zero_of_silent hSilent hQuit
    exact ⟨Array.toList_inj.1 hAsks.pauses, fun hPatience => absurd rfl hPatience.ne⟩

/-- After Escape a session goes on by an instruction, in the same frame. -/
theorem going_of_quitRequested (hSound : s.Sound) (hQuit : s.keyboard.quitRequested = true)
    (hGoing : s.advance patience = .going t) :
    s.left = t.left + 1 ∧ t.steps = s.steps + 1 ∧ t.keyboard.quitRequested = true := by
  have hKeeps := Keyboard.kept_quitRequested.advance hSound hQuit patience
  rw [hGoing] at hKeeps
  rcases going_cases hSound hGoing with ⟨left, notices, hLeft, -, -, rfl⟩ |
    ⟨notices, -, hNot, -, rfl⟩
  · exact ⟨hLeft, rfl, hKeeps⟩
  · change s.keyboard.quitRequested = false at hNot
    rw [hQuit] at hNot
    cases hNot

/-- After Escape a session executes at most what is left of its frame. -/
theorem executed_le_left (hSound : s.Sound) (hQuit : s.keyboard.quitRequested = true)
    (patience fuel : Nat) : s.executed patience fuel ≤ s.left := by
  induction fuel generalizing s with
  | zero => exact Nat.zero_le _
  | succ fuel ih =>
      by_cases hGoes : ∃ t, s.advance patience = .going t
      · obtain ⟨t, hGoing⟩ := hGoes
        obtain ⟨hLeft, -, hStill⟩ := going_of_quitRequested hSound hQuit hGoing
        have hRest := ih (hSound.advance hGoing) hStill
        rw [executed_succ_of_going hGoing, if_neg (by omega)]
        omega
      · rw [executed_succ_of_stopped (not_exists.1 hGoes)]
        split
        · omega
        · omega

/-- The report tells of success, or of an instruction of `t` or after it that fails for another
reason than the wish to quit. -/
def Explains (t : Session) (patience : Nat) (r : Report) : Prop :=
  r.result = .ok () ∨
    ∃ v fault, t.Reaches v ∧ 0 < v.left ∧
      (v.machine.step patience).result = .error (.fault fault) ∧
      fault ≠ .device .quitRequested ∧ r.result = .error (.stopped (.fault fault))

/-- How an instruction that does not wait in vain ends its session. -/
theorem explains_of_ending (hReaches : t.Reaches s) (hSound : s.Sound) (hLeft : 0 < s.left)
    (hAnswered : (s.machine.step patience).result ≠ .error .unanswered) (u : Session) :
    t.Explains patience (u.finish (ending (s.machine.step patience).result)) := by
  have hUnaborted := (Machine.staysSound_step (Console.safe s.canvas) hSound patience).2
  cases hResult : (s.machine.step patience).result with
  | ok state => exact Or.inl rfl
  | error cause =>
      cases cause with
      | unanswered => exact absurd hResult hAnswered
      | abort cause => exact absurd hResult (hUnaborted cause)
      | fault fault =>
          by_cases hInterrupted : isInterruption fault = true
          · rw [ending, if_pos hInterrupted]
            exact Or.inl rfl
          · rw [ending, if_neg hInterrupted]
            exact Or.inr ⟨s, fault, hReaches, hLeft, hResult, fun h => hInterrupted (h ▸ rfl), rfl⟩

/-- Only an instruction that waits for a key in vain lets its session wait. -/
theorem unanswered_of_waiting (hSound : s.Sound) (h : s.advance patience = .waiting t) :
    (s.machine.step patience).result = .error .unanswered := by
  rw [advance] at h
  split at h
  · rcases endFrame_cases hSound.device.screen with ⟨-, notices, hEnd⟩ | ⟨-, -, notices, hEnd⟩ |
      ⟨-, error, -, notices, hEnd⟩
    all_goals
      rw [hEnd] at h
      cases h
  · rename_i left hLeft
    rcases s.stepMachine_cases patience left with ⟨-, -, notices, hStep⟩ |
      ⟨-, -, notices, hStep⟩ | ⟨hUnanswered, -⟩ | ⟨-, -, notices, hStep⟩
    · rw [hStep] at h
      cases h
    · rw [hStep] at h
      cases h
    · exact hUnanswered
    · rw [hStep] at h
      cases h

/-- After Escape a session ends within its frame. -/
theorem exists_run_of_quitRequested (hReaches : t.Reaches s) (hSound : s.Sound)
    (hQuit : s.keyboard.quitRequested = true) (hPatience : 0 < patience) {fuel : Nat}
    (hFuel : s.left < fuel) : ∃ r, s.run patience fuel = some r ∧ t.Explains patience r := by
  induction fuel generalizing s with
  | zero => omega
  | succ fuel ih =>
      have hAnswered := (awake_of_quitRequested hSound hQuit patience).2 hPatience
      rw [run]
      cases hAdvance : s.advance patience with
      | going u =>
          obtain ⟨hLeft, -, hStill⟩ := going_of_quitRequested hSound hQuit hAdvance
          exact ih (hReaches.advance hAdvance) (hSound.advance hAdvance) hStill (by omega)
      | waiting u => exact absurd (unanswered_of_waiting hSound hAdvance) hAnswered
      | ended u result =>
          refine ⟨u.finish result, rfl, ?_⟩
          rcases ended_cases hSound hAdvance with ⟨left, notices, -, -, -, -, rfl⟩ |
            ⟨left, notices, hLeft, -, -, -, rfl⟩ | ⟨notices, -, -, -, rfl⟩ |
            ⟨notices, error, -, hNot, -, -, -⟩
          · exact Or.inl rfl
          · exact explains_of_ending hReaches hSound (by omega) hAnswered u
          · exact Or.inl rfl
          · change s.keyboard.quitRequested = false at hNot
            rw [hQuit] at hNot
            cases hNot

/-- What a session that has read Escape at the end of a frame still does: it stays in the frame
that has begun, never sleeps, executes at most what is left of the frame, and ends. -/
structure Leaves (t : Session) : Prop where
  sameFrame : ∀ v, t.Reaches v → v.steps + v.left = t.steps + t.left
  awake : ∀ v, t.Reaches v → ∀ patience, (v.machine.step patience).effects.pauses = #[]
  executed_le : ∀ patience fuel, t.executed patience fuel ≤ t.left
  ends : ∀ patience fuel, 0 < patience → t.left < fuel →
    ∃ r, t.run patience fuel = some r ∧ t.Explains patience r

theorem leaves_of_quitRequested (hSound : t.Sound) (hQuit : t.keyboard.quitRequested = true) :
    t.Leaves where
  sameFrame v hReaches := by
    have hFrame : v.keyboard.quitRequested = true ∧ v.steps + v.left = t.steps + t.left := by
      refine hReaches.induct
        (P := fun v => v.keyboard.quitRequested = true ∧ v.steps + v.left = t.steps + t.left)
        hSound ⟨hQuit, rfl⟩ ?_
      rintro s u patience - hSound ⟨hStill, hFrame⟩ hGoing
      obtain ⟨hLeft, hSteps, hNext⟩ := going_of_quitRequested hSound hStill hGoing
      exact ⟨hNext, by omega⟩
    exact hFrame.2
  awake v hReaches patience := by
    have hStill := Keyboard.kept_quitRequested.reaches hSound hQuit hReaches
    exact (awake_of_quitRequested (hReaches.sound hSound) hStill patience).1
  executed_le patience fuel := executed_le_left hSound hQuit patience fuel
  ends patience fuel hPatience hFuel :=
    exists_run_of_quitRequested .start hSound hQuit hPatience hFuel

/-- The small step in which Escape is read. -/
structure ReadsEscape (s : Session) (patience : Nat) : Prop where
  before : s.keyboard.quitRequested = false
  after : (s.advance patience).session.keyboard.quitRequested = true

/-- An instruction that fails ends its session. -/
theorem exists_ended_of_fault {fault : Fault} (hLeft : 0 < s.left)
    (hFault : (s.machine.step patience).result = .error (.fault fault)) :
    ∃ t, s.advance patience = .ended t (ending (.error (.fault fault))) := by
  obtain ⟨left, hLeft⟩ := Nat.exists_eq_succ_of_ne_zero hLeft.ne'
  rw [advance, hLeft]
  rcases s.stepMachine_cases patience left with ⟨hRunning, -⟩ | ⟨hRunning, -⟩ |
    ⟨hUnanswered, -⟩ | ⟨-, -, notices, hStep⟩
  · rw [hFault] at hRunning
    cases hRunning
  · rw [hFault] at hRunning
    cases hRunning
  · rw [hFault] at hUnanswered
    cases hUnanswered
  · exact ⟨_, hStep.trans (by rw [hFault])⟩

/-- What a session ends with when the drain that reads Escape comes to an answer: with success if
the drain goes well, and with its failure otherwise, unless that is an interruption too. -/
def EscapeResult (answer : Answer Unit) (result : Except Stop Unit) : Prop :=
  answer = .value () ∧ result = .ok () ∨
    ∃ error, answer = .failed error ∧
      result = if error.kind = .interrupted then .ok () else .error (.fault (.device error))

/-- An answer about a key with which Escape is read is a failure, and ends the session. -/
theorem exists_ended_of_hears {key : UInt8} {n : Nat} (hHears : s.machine.StepHears patience key n)
    (hLeft : 0 < s.left)
    (hAfter : (s.machine.step patience).machine.device.keys.quitRequested = true) :
    ∃ t result, s.advance patience = .ended t result ∧
      s.machine.StepAsks patience key (n + 1) n ∧
      EscapeResult (Device.afterQueries key n s.machine.device).keys.drain.answer result := by
  rw [hHears.device, Device.afterQueries_succ] at hAfter
  change ((Device.afterQueries key n s.machine.device).keys.pressed key).state.quitRequested = true
    at hAfter
  rw [Keyboard.state_pressed] at hAfter
  rcases (Device.afterQueries key n s.machine.device).keys.pressed_cases key with
    ⟨error, hDrain, hAnswer⟩ | ⟨hDrain, -, hAnswer⟩ | ⟨hNot, -⟩
  · obtain ⟨hAsks, hResult⟩ := hHears.failed error hAnswer
    obtain ⟨t, hEnded⟩ := exists_ended_of_fault hLeft hResult
    refine ⟨t, _, hEnded, hAsks, Or.inr ⟨error, hDrain, ?_⟩⟩
    simp only [ending, isInterruption, decide_eq_true_eq]
  · obtain ⟨hAsks, hResult⟩ := hHears.failed .quitRequested hAnswer
    obtain ⟨t, hEnded⟩ := exists_ended_of_fault hLeft hResult
    exact ⟨t, _, hEnded, hAsks, Or.inl ⟨hDrain, rfl⟩⟩
  · rw [hNot] at hAfter
    cases hAfter

/-- An instruction that reads Escape does so at its last question about a key, and ends its
session. -/
theorem ReadsEscape.in_step (h : s.ReadsEscape patience) (hSound : s.Sound) (hLeft : 0 < s.left) :
    ∃ key n t result, s.advance patience = .ended t result ∧
      s.machine.StepAsks patience key (n + 1) n ∧
      (Device.afterQueries key n s.machine.device).keys.quitRequested = false ∧
      EscapeResult (Device.afterQueries key n s.machine.device).keys.drain.answer result := by
  have hBefore := h.before
  have hAfter := h.after
  rw [keyboard_advance hSound, if_neg hLeft.ne'] at hAfter
  rcases step_keys_cases hSound patience with
    ⟨-, ⟨hKeys, -⟩ | ⟨key, n, hHears⟩⟩ | ⟨key, hSilent, hAsks⟩
  · rw [keyboard, ← hKeys, hAfter] at hBefore
    cases hBefore
  · obtain ⟨t, result, hEnded, hAsks, hDrain⟩ := exists_ended_of_hears hHears hLeft hAfter
    exact ⟨key, n, t, result, hEnded, hAsks,
      Console.quitRequested_afterQueries hHears.silent hBefore, hDrain⟩
  · have hStill := Console.quitRequested_afterQueries hSilent hBefore
    rw [hAsks.machine.device_eq, hStill] at hAfter
    cases hAfter

/-- A flush that reads Escape fails and ends the session, or begins the session's last frame. -/
theorem ReadsEscape.at_end (h : s.ReadsEscape patience) (hSound : s.Sound) (hLeft : s.left = 0) :
    (∃ t error, s.keyboard.drain.answer = .failed error ∧
      s.advance patience = .ended t (.error (.fault (.device error)))) ∨
    ∃ t, s.keyboard.drain.answer = .value () ∧ s.advance patience = .going t ∧
      t.left = s.perFrame ∧ t.Leaves := by
  have hAdvance : s.advance patience = s.endFrame := by
    rw [advance, hLeft]
  rcases endFrame_cases hSound.device.screen with ⟨hQuit, -⟩ | ⟨-, hFlush, notices, hEnd⟩ |
    ⟨-, error, hFlush, notices, hEnd⟩
  · change s.keyboard.quitRequested = true at hQuit
    rw [h.before] at hQuit
    cases hQuit
  · have hGoing := hAdvance.trans hEnd
    have hQuit := h.after
    rw [hGoing] at hQuit
    exact Or.inr ⟨_, s.keyboard.answer_flush ▸ hFlush, hGoing, rfl,
      leaves_of_quitRequested (hSound.advance hGoing) hQuit⟩
  · exact Or.inl ⟨_, error, s.keyboard.answer_flush ▸ hFlush, hAdvance.trans hEnd⟩

/-- Escape ends a session soon. Read in an instruction, at its last question about a key, it ends
the session there: with success, unless reading fails for another reason than an interruption. Read
when the keys are flushed, and unless that fails, it lets the session begin one more frame and no
further one. There the session executes no more instructions than a frame has, sleeps in none of
them, and ends: with success, unless one of them fails for another reason. -/
theorem escape_ends_session {o : Options} {e : Environment} (hStart : start o e = .ok s₀)
    (hReaches : s₀.Reaches s) (hEscape : s.ReadsEscape patience) :
    (0 < s.left → ∃ key n t result, s.advance patience = .ended t result ∧
      s.machine.StepAsks patience key (n + 1) n ∧
      (Device.afterQueries key n s.machine.device).keys.quitRequested = false ∧
      EscapeResult (Device.afterQueries key n s.machine.device).keys.drain.answer result) ∧
    (s.left = 0 →
      (∃ t error, s.keyboard.drain.answer = .failed error ∧
        s.advance patience = .ended t (.error (.fault (.device error)))) ∨
      ∃ t, s.keyboard.drain.answer = .value () ∧ s.advance patience = .going t ∧
        t.left = max 1 (o.hz / 60) ∧ t.Leaves) := by
  have hSound := hReaches.sound (sound_of_start hStart)
  refine ⟨hEscape.in_step hSound, fun hLeft => ?_⟩
  rcases hEscape.at_end hSound hLeft with hFailed | ⟨t, hDrain, hGoing, hWhole, hLeaves⟩
  · exact Or.inl hFailed
  · exact Or.inr ⟨t, hDrain, hGoing, hWhole.trans (hReaches.keeps hStart).perFrame, hLeaves⟩

/-- Escape is typed in the first frame, and the second one waits for a key. The wait ends at once,
without a sleep. The terminal refuses to draw. -/
theorem escape_ends_session_waiting :
    ∃ (o : Options) (e : Environment) (s₀ s t : Session) (r : Report),
      start o e = .ok s₀ ∧ e.program = some [0x60, 0x07, 0xF0, 0x0A] ∧ e.batches = [[.escape]] ∧
      s₀.Reaches s ∧ s.ReadsEscape 5 ∧ s.left = 0 ∧ s.advance 5 = .going t ∧ t.left = 1 ∧
      t.executed 5 2 ≤ 1 ∧ (t.machine.step 5).effects.pauses = #[] ∧
      t.run 5 2 = some r ∧ r.result = .ok () := by
  let o : Options := { program := "wait.ch8", hz := 60 }
  let e : Environment :=
    { program := some [0x60, 0x07, 0xF0, 0x0A]
      canvasRefuses := [.draw]
      batches := [[.escape]] }
  have hRun : ((reached? o e 5 1).map fun s =>
      (decide (s.left = 0 ∧ s.keyboard.quitRequested = false ∧
          (s.advance 5).session.keyboard.quitRequested = true ∧
          s.keyboard.drain.answer = .value ()),
        ((s.advance 5).session.run 5 2).map (·.result.toOption))) =
      some (true, some (some ())) := by
    decide +kernel
  obtain ⟨s, hReached, hFields⟩ := Option.map_eq_some_iff.1 hRun
  obtain ⟨s₀, hStart, -, hReaches⟩ := exists_of_reached? hReached
  simp only [Prod.mk.injEq, decide_eq_true_eq] at hFields
  obtain ⟨⟨hLeft, hBefore, hAfter, hDrain⟩, hReport⟩ := hFields
  have hEscape : s.ReadsEscape 5 := ⟨hBefore, hAfter⟩
  obtain ⟨-, hFlush⟩ := escape_ends_session hStart hReaches hEscape
  rcases hFlush hLeft with ⟨t, error, hFailed, -⟩ | ⟨t, -, hGoing, hWhole, hLeaves⟩
  · rw [hDrain] at hFailed
    cases hFailed
  · have hOne : t.left = 1 := hWhole.trans (by decide)
    have hExecuted := hLeaves.executed_le 5 2
    rw [hOne] at hExecuted
    rw [hGoing] at hReport
    obtain ⟨r, hRun, hResult⟩ := Option.map_eq_some_iff.1 hReport
    exact ⟨o, e, s₀, s, t, r, hStart, rfl, rfl, hReaches, hEscape, hLeft, hGoing, hOne, hExecuted,
      hLeaves.awake t .start 5, hRun, eq_ok_of_toOption hResult⟩

end Session

end Chip8
