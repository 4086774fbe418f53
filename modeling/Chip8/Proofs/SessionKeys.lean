import Mathlib.Tactic
import Chip8.Proofs.Sessions

/-!
# What a session does with its keyboard

A session reads its keyboard in two places: in an instruction that asks about a key, and when it
flushes the keys at the end of a frame (`Session.keyboard_advance`). Both are drains. So a property
of keyboards that drains keep, and that does not depend on the remembered keys, is kept by every
small step (`Keyboard.Kept.advance`), of which Escape being read is one.
-/

namespace Chip8

namespace Keyboard

/-- A question about a key is a drain. -/
theorem state_pressed (k : Keyboard) (key : UInt8) : (k.pressed key).state = k.drain.state := by
  rcases k.drain_cases with hDrain | ⟨error, hDrain⟩
  · rw [pressed_of_value hDrain]
  · rw [pressed_of_failed hDrain]

/-- What a question about a key comes to. -/
theorem pressed_cases (k : Keyboard) (key : UInt8) :
    (∃ error, k.drain.answer = .failed error ∧ (k.pressed key).answer = .failed error) ∨
    (k.drain.answer = .value () ∧ k.drain.state.quitRequested = true ∧
      (k.pressed key).answer = .failed .quitRequested) ∨
    (k.drain.state.quitRequested = false ∧ ∃ down, (k.pressed key).answer = .value down) := by
  rcases k.drain_cases with hDrain | ⟨error, hDrain⟩
  · rw [pressed_of_value hDrain]
    cases k.drain.state.quitRequested with
    | true => exact Or.inr (Or.inl ⟨hDrain, rfl, rfl⟩)
    | false => exact Or.inr (Or.inr ⟨rfl, _, rfl⟩)
  · rw [pressed_of_failed hDrain]
    exact Or.inl ⟨error, hDrain, rfl⟩

/-- A plain answer about a key comes from a keyboard on which Escape was never read. -/
theorem quitRequested_of_pressed_value {k : Keyboard} {key : UInt8} {down : Bool}
    (h : (k.pressed key).answer = .value down) : k.drain.state.quitRequested = false := by
  rcases k.pressed_cases key with ⟨error, -, hFailed⟩ | ⟨-, -, hFailed⟩ | ⟨hQuit, -⟩
  · rw [hFailed] at h
    cases h
  · rw [hFailed] at h
    cases h
  · exact hQuit

/-- A flush is a drain, after which the keys are forgotten unless it fails. -/
theorem state_flush (k : Keyboard) :
    k.flush.state = k.drain.state ∨ k.flush.state = { k.drain.state with buffer := #[] } := by
  rcases k.drain_cases with hDrain | ⟨error, hDrain⟩
  · rw [flush_of_value hDrain]
    exact Or.inr rfl
  · rw [flush_of_failed hDrain]
    exact Or.inl rfl

theorem answer_flush (k : Keyboard) : k.flush.answer = k.drain.answer := by
  rcases k.drain_cases with hDrain | ⟨error, hDrain⟩
  · rw [flush_of_value hDrain]
  · rw [flush_of_failed hDrain]

/-- A property that drains keep and that does not depend on the remembered keys. -/
structure Kept (Q : Keyboard → Prop) : Prop where
  drain : ∀ k, Q k → Q k.drain.state
  forget : ∀ k, Q k → Q { k with buffer := #[] }

theorem kept_quitRequested : Kept fun k => k.quitRequested = true where
  drain _ := quitRequested_drain
  forget _ hQuit := hQuit

namespace Kept

variable {Q : Keyboard → Prop} {k : Keyboard}

theorem flush (h : Kept Q) (hk : Q k) : Q k.flush.state := by
  rcases k.state_flush with hState | hState
  · exact hState ▸ h.drain k hk
  · exact hState ▸ h.forget _ (h.drain k hk)

/-- No question to a console changes the property of its keyboard. -/
theorem safe (h : Kept Q) : Device.Safe fun d : Console => d.screen.Standard ∧ Q d.keys where
  clear d hd := ⟨⟨⟨hd.1.width, hd.1.height⟩, hd.2⟩, fun _ h => nomatch h⟩
  toggle d x y hd := by
    rw [Board.toggle_of_whole hd.1.whole]
    exact ⟨⟨⟨hd.1.width, hd.1.height⟩, hd.2⟩, fun _ h => nomatch h⟩
  pressed d key hd := by
    refine ⟨⟨hd.1, ?_⟩, d.keys.pressed_unaborted key⟩
    change Q (d.keys.pressed key).state
    rw [state_pressed]
    exact h.drain d.keys hd.2

end Kept

end Keyboard

namespace Progress

/-- The session after a small step, whatever it comes to. -/
def session : Progress → Session
  | going s => s
  | waiting s => s
  | ended s _ => s

end Progress

namespace Session

variable {s s₀ t : Session} {patience : Nat}

theorem machine_countStep (s : Session) (left : Nat) :
    (s.countStep left).session.machine = s.machine := by
  rcases s.countStep_cases left with ⟨-, hCount⟩ | ⟨-, notices, hCount⟩
  · rw [hCount]
    rfl
  · rw [hCount]
    rfl

/-- After an instruction the keyboard is what the step has made of it. -/
theorem keyboard_stepMachine (s : Session) (patience left : Nat) :
    (s.stepMachine patience left).session.keyboard =
      (s.machine.step patience).machine.device.keys := by
  rw [stepMachine]
  cases (s.machine.step patience).result with
  | ok state =>
      cases state with
      | running => exact congrArg (fun m : Machine Console => m.device.keys) (machine_countStep _ _)
      | halted => rfl
  | error cause =>
      cases cause with
      | unanswered => rfl
      | abort cause => rfl
      | fault fault =>
          by_cases hInterrupted : isInterruption fault = true
          · simp only [if_pos hInterrupted]
            rfl
          · simp only [if_neg hInterrupted]
            rfl

/-- At the end of a frame the keys are flushed, unless Escape was read before. -/
theorem keyboard_endFrame (hScreen : s.screen.Standard) :
    s.endFrame.session.keyboard =
      if s.keyboard.quitRequested = true then s.keyboard else s.keyboard.flush.state := by
  rcases endFrame_cases hScreen with ⟨hQuit, notices, hEnd⟩ | ⟨hQuit, -, notices, hEnd⟩ |
    ⟨hQuit, error, -, notices, hEnd⟩
  · change s.keyboard.quitRequested = true at hQuit
    rw [hEnd, if_pos hQuit]
    rfl
  · change s.keyboard.quitRequested = false at hQuit
    rw [hEnd, hQuit, if_neg Bool.false_ne_true]
    rfl
  · change s.keyboard.quitRequested = false at hQuit
    rw [hEnd, hQuit, if_neg Bool.false_ne_true]
    rfl

/-- What a small step does to the keyboard. -/
theorem keyboard_advance (hSound : s.Sound) (patience : Nat) :
    (s.advance patience).session.keyboard =
      if s.left = 0 then
        if s.keyboard.quitRequested = true then s.keyboard else s.keyboard.flush.state
      else (s.machine.step patience).machine.device.keys := by
  rw [advance]
  cases s.left with
  | zero =>
      rw [if_pos rfl]
      exact keyboard_endFrame hSound.device.screen
  | succ left =>
      rw [if_neg (Nat.succ_ne_zero left)]
      exact s.keyboard_stepMachine patience left

end Session

namespace Keyboard.Kept

variable {Q : Keyboard → Prop} {s s₀ t : Session} {patience : Nat}

theorem step (h : Kept Q) (hSound : s.Sound) (hs : Q s.keyboard) (patience : Nat) :
    Q (s.machine.step patience).machine.device.keys := by
  have hStart : s.machine.Sound fun d => d.screen.Standard ∧ Q d.keys :=
    ⟨hSound.capacity, hSound.depth, hSound.device.screen, hs⟩
  exact (Machine.staysSound_step h.safe hStart patience).1.device.2

/-- A property that drains keep is kept by every small step. -/
theorem advance (h : Kept Q) (hSound : s.Sound) (hs : Q s.keyboard) (patience : Nat) :
    Q (s.advance patience).session.keyboard := by
  rw [Session.keyboard_advance hSound]
  split
  · split
    · exact hs
    · exact h.flush hs
  · exact h.step hSound hs patience

theorem reaches (h : Kept Q) (hSound : s₀.Sound) (hStart : Q s₀.keyboard)
    (hReaches : s₀.Reaches s) : Q s.keyboard := by
  refine hReaches.induct (P := fun s => Q s.keyboard) hSound hStart ?_
  intro s t patience _ hSound hs hGoing
  have hAdvance := h.advance hSound hs patience
  rw [hGoing] at hAdvance
  exact hAdvance

end Keyboard.Kept

end Chip8
