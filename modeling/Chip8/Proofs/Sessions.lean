import Mathlib.Tactic
import Chip8.Host.Session
import Chip8.Proofs.KeyReading
import Chip8.Proofs.NoAbort
import Chip8.Proofs.Pictures

/-!
# How a session goes on and how it ends

A session goes on in two ways: by an instruction (`stepMachine_cases`) or by the end of a frame
(`endFrame_cases`). It ends in four: after an instruction at its limit, at an instruction that does
not go on, at the end of a frame because the user asked to quit, and there because the keys could
not be read. Nothing aborts it. `Session.Reaches` is about the sessions on the way, where every
instruction may have a patience of its own.
-/

namespace Chip8

theorem eq_ok_of_toOption {ε α : Type} {x : Except ε α} {value : α}
    (h : x.toOption = some value) : x = .ok value := by
  cases x with
  | error e => cases h
  | ok value' => exact congrArg Except.ok (Option.some.inj h)

namespace Keyboard

/-- After a flush that goes well the buffer is empty. -/
theorem flush_cases (k : Keyboard) :
    k.flush.answer = .value () ∧ k.flush.state.buffer = #[] ∨
      ∃ error, k.flush.answer = .failed error := by
  rcases k.drain_cases with hDrain | ⟨error, hDrain⟩
  · rw [flush_of_value hDrain]
    exact Or.inl ⟨hDrain, rfl⟩
  · rw [flush_of_failed hDrain]
    exact Or.inr ⟨error, hDrain⟩

theorem pressed_unaborted (k : Keyboard) (key : UInt8) (cause : Abort) :
    (k.pressed key).answer ≠ .aborted cause := by
  rcases k.drain_cases with hDrain | ⟨error, hDrain⟩
  · rw [pressed_of_value hDrain]
    cases k.drain.state.quitRequested with
    | true => nofun
    | false => nofun
  · rw [pressed_of_failed hDrain]
    nofun

end Keyboard

/-- A console with a screen of the usual size and a given canvas. -/
structure Console.On (canvas : Canvas) (d : Console) : Prop where
  screen : d.screen.Standard
  display : d.display = canvas

/-- No question to a console aborts or touches its canvas. -/
theorem Console.safe (canvas : Canvas) : Device.Safe (Console.On canvas) where
  clear d hd := ⟨⟨⟨hd.screen.width, hd.screen.height⟩, hd.display⟩, fun _ h => nomatch h⟩
  toggle d x y hd := by
    rw [Board.toggle_of_whole hd.screen.whole]
    exact ⟨⟨⟨hd.screen.width, hd.screen.height⟩, hd.display⟩, fun _ h => nomatch h⟩
  pressed d key hd := ⟨⟨hd.screen, hd.display⟩, d.keys.pressed_unaborted key⟩

namespace Machine

/-- The machine after its screen is shown, or is not because the terminal refuses. -/
def refreshed (m : Machine Console) : Machine Console :=
  { m with device := m.device.refresh.state }

/-- The machine after its keys are flushed, or are not because they cannot be read. -/
def flushed (m : Machine Console) : Machine Console :=
  { m with device := { m.device with keys := m.device.keys.flush.state } }

end Machine

namespace Session

/-- The canvas of a session. -/
def canvas (s : Session) : Canvas :=
  s.machine.device.display

/-- The screen of a session. -/
def screen (s : Session) : Bitmap :=
  s.machine.device.screen

/-- Nothing that the session does next aborts. -/
def Sound (s : Session) : Prop :=
  s.machine.Sound (Console.On s.canvas)

/-- How a step that does not let its session go on ends it. -/
def ending : Except Stop RunState → Except Stop Unit
  | .ok _ => .ok ()
  | .error (.fault fault) => if isInterruption fault then .ok () else .error (.fault fault)
  | .error cause => .error cause

/-- An executed instruction ends the session at its limit. -/
theorem countStep_cases (s : Session) (left : Nat) :
    ((∀ limit, s.limit = some limit → s.steps + 1 < limit) ∧
      s.countStep left = .going { s with steps := s.steps + 1, left }) ∨
    ((∃ limit, s.limit = some limit ∧ limit ≤ s.steps + 1) ∧
      ∃ notices, s.countStep left =
        .ended { s with notices, steps := s.steps + 1, left } (.ok ())) := by
  cases hLimit : s.limit with
  | none =>
      refine Or.inl ⟨nofun, ?_⟩
      simp only [countStep, hLimit]
  | some limit =>
      by_cases hReached : limit ≤ s.steps + 1
      · refine Or.inr ⟨⟨limit, rfl, hReached⟩, ?_⟩
        simp only [countStep, hLimit, if_pos hReached]
        exact ⟨_, rfl⟩
      · refine Or.inl ⟨fun limit' h => Option.some.inj h ▸ Nat.lt_of_not_le hReached, ?_⟩
        simp only [countStep, hLimit, if_neg hReached]

/-- What an instruction comes to: the session goes on, reaches its limit, waits for a key, or ends
as the step of its machine does. -/
theorem stepMachine_cases (s : Session) (patience left : Nat) :
    ((s.machine.step patience).result = .ok .running ∧
      (∀ limit, s.limit = some limit → s.steps + 1 < limit) ∧
      ∃ notices, s.stepMachine patience left =
        .going { s with
          machine := (s.machine.step patience).machine, notices, steps := s.steps + 1, left }) ∨
    ((s.machine.step patience).result = .ok .running ∧
      (∃ limit, s.limit = some limit ∧ limit ≤ s.steps + 1) ∧
      ∃ notices, s.stepMachine patience left =
        .ended { s with
          machine := (s.machine.step patience).machine, notices, steps := s.steps + 1, left }
          (.ok ())) ∨
    ((s.machine.step patience).result = .error .unanswered ∧
      ∃ t, s.stepMachine patience left = .waiting t) ∨
    ((s.machine.step patience).result ≠ .ok .running ∧
      (s.machine.step patience).result ≠ .error .unanswered ∧
      ∃ notices, s.stepMachine patience left =
        .ended { s with machine := (s.machine.step patience).machine, notices }
          (ending (s.machine.step patience).result)) := by
  rw [stepMachine]
  cases hResult : (s.machine.step patience).result with
  | ok state =>
      cases state with
      | running =>
          let t : Session := { s with machine := (s.machine.step patience).machine }
          rcases (t.tell (s.machine.step patience).effects.notices).countStep_cases left with
            ⟨hLimit, hCount⟩ | ⟨hLimit, notices, hCount⟩
          · exact Or.inl ⟨rfl, hLimit, _, hCount⟩
          · exact Or.inr (Or.inl ⟨rfl, hLimit, notices, hCount⟩)
      | halted => exact Or.inr (Or.inr (Or.inr ⟨nofun, nofun, _, rfl⟩))
  | error cause =>
      cases cause with
      | unanswered => exact Or.inr (Or.inr (Or.inl ⟨rfl, _, rfl⟩))
      | abort cause => exact Or.inr (Or.inr (Or.inr ⟨nofun, nofun, _, rfl⟩))
      | fault fault =>
          refine Or.inr (Or.inr (Or.inr ⟨nofun, nofun, ?_⟩))
          by_cases hInterrupted : isInterruption fault = true
          · simp only [ending, if_pos hInterrupted]
            exact ⟨_, rfl⟩
          · simp only [ending, if_neg hInterrupted]
            exact ⟨_, rfl⟩

theorem flushKeys_cases (s : Session) :
    (s.keyboard.flush.answer = .value () ∧
      ∃ notices, s.flushKeys =
        .going { s with machine := s.machine.flushed, notices, left := s.perFrame }) ∨
    ∃ error, s.keyboard.flush.answer = .failed error ∧
      ∃ notices, s.flushKeys =
        .ended { s with machine := s.machine.flushed, notices }
          (.error (.fault (.device error))) := by
  rcases s.keyboard.flush_cases with ⟨hFlush, -⟩ | ⟨error, hFlush⟩
  · refine Or.inl ⟨hFlush, ?_⟩
    rw [flushKeys, hFlush]
    exact ⟨_, rfl⟩
  · refine Or.inr ⟨error, hFlush, ?_⟩
    rw [flushKeys, hFlush]
    exact ⟨_, rfl⟩

/-- A picture of a screen of the usual size comes to something, so the frame ends. -/
theorem exists_endFrame {s : Session} (hScreen : s.screen.Standard) :
    ∃ notices, s.endFrame =
      let t : Session := { s with machine := s.machine.tick.refreshed, notices }
      if t.keyboard.quitRequested then .ended t (.ok ()) else t.flushKeys := by
  have hUnaborted := s.canvas.draw_unaborted hScreen
  rw [endFrame]
  cases hAnswer : s.machine.tick.device.refresh.answer with
  | value answer => exact ⟨_, rfl⟩
  | failed error => exact ⟨_, rfl⟩
  | aborted cause => exact absurd hAnswer (hUnaborted cause)

/-- What the end of a frame comes to: the session ends because the user asked to quit, or after the
keys are flushed it goes on, or they cannot be read. -/
theorem endFrame_cases {s : Session} (hScreen : s.screen.Standard) :
    (s.machine.tick.refreshed.device.keys.quitRequested = true ∧
      ∃ notices, s.endFrame =
        .ended { s with machine := s.machine.tick.refreshed, notices } (.ok ())) ∨
    (s.machine.tick.refreshed.device.keys.quitRequested = false ∧
      s.machine.tick.refreshed.device.keys.flush.answer = .value () ∧
      ∃ notices, s.endFrame =
        .going { s with
          machine := s.machine.tick.refreshed.flushed, notices, left := s.perFrame }) ∨
    (s.machine.tick.refreshed.device.keys.quitRequested = false ∧
      ∃ error, s.machine.tick.refreshed.device.keys.flush.answer = .failed error ∧
        ∃ notices, s.endFrame =
          .ended { s with machine := s.machine.tick.refreshed.flushed, notices }
            (.error (.fault (.device error)))) := by
  obtain ⟨notices, hEnd⟩ := exists_endFrame hScreen
  let t : Session := { s with machine := s.machine.tick.refreshed, notices }
  change s.endFrame = if t.keyboard.quitRequested then .ended t (.ok ()) else t.flushKeys at hEnd
  cases hQuit : t.keyboard.quitRequested with
  | true =>
      rw [hEnd, hQuit]
      exact Or.inl ⟨hQuit, notices, rfl⟩
  | false =>
      rw [hEnd, hQuit]
      exact Or.inr (t.flushKeys_cases.imp (And.intro hQuit) (And.intro hQuit))

variable {s s₀ t : Session} {patience : Nat}

/-- How a session goes on. -/
theorem going_cases (hSound : s.Sound) (h : s.advance patience = .going t) :
    (∃ left notices, s.left = left + 1 ∧
      (s.machine.step patience).result = .ok .running ∧
      (∀ limit, s.limit = some limit → s.steps + 1 < limit) ∧
      t = { s with
        machine := (s.machine.step patience).machine, notices, steps := s.steps + 1, left }) ∨
    (∃ notices, s.left = 0 ∧
      s.machine.tick.refreshed.device.keys.quitRequested = false ∧
      s.machine.tick.refreshed.device.keys.flush.answer = .value () ∧
      t = { s with
        machine := s.machine.tick.refreshed.flushed, notices, left := s.perFrame }) := by
  rw [advance] at h
  split at h
  · rename_i hLeft
    rcases endFrame_cases hSound.device.screen with ⟨-, notices, hEnd⟩ |
      ⟨hQuit, hFlush, notices, hEnd⟩ | ⟨-, error, -, notices, hEnd⟩
    · rw [hEnd] at h
      cases h
    · rw [hEnd] at h
      exact Or.inr ⟨notices, hLeft, hQuit, hFlush, (Progress.going.inj h).symm⟩
    · rw [hEnd] at h
      cases h
  · rename_i left hLeft
    rcases s.stepMachine_cases patience left with ⟨hResult, hLimit, notices, hStep⟩ |
      ⟨-, -, notices, hStep⟩ | ⟨-, u, hStep⟩ | ⟨-, -, notices, hStep⟩
    · rw [hStep] at h
      exact Or.inl ⟨left, notices, hLeft, hResult, hLimit, (Progress.going.inj h).symm⟩
    all_goals
      rw [hStep] at h
      cases h

/-- How a session ends. -/
theorem ended_cases {result : Except Stop Unit} (hSound : s.Sound)
    (h : s.advance patience = .ended t result) :
    (∃ left notices, s.left = left + 1 ∧
      (s.machine.step patience).result = .ok .running ∧
      (∃ limit, s.limit = some limit ∧ limit ≤ s.steps + 1) ∧
      t = { s with
        machine := (s.machine.step patience).machine, notices, steps := s.steps + 1, left } ∧
      result = .ok ()) ∨
    (∃ left notices, s.left = left + 1 ∧
      (s.machine.step patience).result ≠ .ok .running ∧
      (s.machine.step patience).result ≠ .error .unanswered ∧
      t = { s with machine := (s.machine.step patience).machine, notices } ∧
      result = ending (s.machine.step patience).result) ∨
    (∃ notices, s.left = 0 ∧
      s.machine.tick.refreshed.device.keys.quitRequested = true ∧
      t = { s with machine := s.machine.tick.refreshed, notices } ∧
      result = .ok ()) ∨
    (∃ notices error, s.left = 0 ∧
      s.machine.tick.refreshed.device.keys.quitRequested = false ∧
      s.machine.tick.refreshed.device.keys.flush.answer = .failed error ∧
      t = { s with machine := s.machine.tick.refreshed.flushed, notices } ∧
      result = .error (.fault (.device error))) := by
  rw [advance] at h
  split at h
  · rename_i hLeft
    rcases endFrame_cases hSound.device.screen with ⟨hQuit, notices, hEnd⟩ |
      ⟨-, -, notices, hEnd⟩ | ⟨hQuit, error, hFlush, notices, hEnd⟩
    · rw [hEnd] at h
      obtain ⟨rfl, rfl⟩ := Progress.ended.inj h
      exact Or.inr (Or.inr (Or.inl ⟨notices, hLeft, hQuit, rfl, rfl⟩))
    · rw [hEnd] at h
      cases h
    · rw [hEnd] at h
      obtain ⟨rfl, rfl⟩ := Progress.ended.inj h
      exact Or.inr (Or.inr (Or.inr ⟨notices, error, hLeft, hQuit, hFlush, rfl, rfl⟩))
  · rename_i left hLeft
    rcases s.stepMachine_cases patience left with ⟨-, -, notices, hStep⟩ |
      ⟨hResult, hLimit, notices, hStep⟩ | ⟨-, u, hStep⟩ | ⟨hStops, hAnswered, notices, hStep⟩
    · rw [hStep] at h
      cases h
    · rw [hStep] at h
      obtain ⟨rfl, rfl⟩ := Progress.ended.inj h
      exact Or.inl ⟨left, notices, hLeft, hResult, hLimit, rfl, rfl⟩
    · rw [hStep] at h
      cases h
    · rw [hStep] at h
      obtain ⟨rfl, rfl⟩ := Progress.ended.inj h
      exact Or.inr (Or.inl ⟨left, notices, hLeft, hStops, hAnswered, rfl, rfl⟩)

/-- An instruction does not touch the canvas. -/
theorem Sound.step (h : s.Sound) (patience : Nat) :
    (s.machine.step patience).machine.Sound (Console.On s.canvas) :=
  (Machine.staysSound_step (Console.safe _) h patience).1

theorem Sound.advance (h : s.Sound) (hGoing : s.advance patience = .going t) : t.Sound := by
  rcases going_cases h hGoing with ⟨left, notices, -, -, -, rfl⟩ | ⟨notices, -, -, -, rfl⟩
  · have hStep := h.step patience
    exact ⟨hStep.capacity, hStep.depth, hStep.device.screen, rfl⟩
  · exact ⟨h.capacity, h.depth, h.device.screen, rfl⟩

/-- The sessions that a session goes on to. Every small step has a patience of its own. -/
inductive Reaches (s₀ : Session) : Session → Prop where
  | start : s₀.Reaches s₀
  | advance {s t : Session} (hReaches : s₀.Reaches s) {patience : Nat}
      (hGoing : s.advance patience = .going t) : s₀.Reaches t

theorem Reaches.sound (hReaches : s₀.Reaches s) (h : s₀.Sound) : s.Sound := by
  induction hReaches with
  | start => exact h
  | advance _ hGoing ih => exact ih.advance hGoing

/-- What every small step keeps holds of all sessions that are reached. -/
theorem Reaches.induct {P : Session → Prop} (hReaches : s₀.Reaches s) (hSound : s₀.Sound)
    (hStart : P s₀)
    (hStep : ∀ {s t : Session} {patience : Nat}, s₀.Reaches s → s.Sound → P s →
      s.advance patience = .going t → P t) : P s := by
  induction hReaches with
  | start => exact hStart
  | advance hBefore hGoing ih => exact hStep hBefore (hBefore.sound hSound) ih hGoing

/-- The session after `n` small steps, if it goes on for so long. -/
def after? (patience : Nat) : Nat → Session → Option Session
  | 0, s => some s
  | n + 1, s =>
    match s.advance patience with
    | .going t => after? patience n t
    | _ => none

theorem reaches_of_after? {n : Nat} (hReaches : s₀.Reaches s)
    (h : s.after? patience n = some t) : s₀.Reaches t := by
  induction n generalizing s with
  | zero => exact Option.some.inj h ▸ hReaches
  | succ n ih =>
      rw [after?] at h
      split at h
      · rename_i u hGoing
        exact ih (hReaches.advance hGoing) h
      · cases h

/-- How the next small step ends the session, if it does. -/
def ending? (s : Session) (patience : Nat) : Option (Session × Except Stop Unit) :=
  match s.advance patience with
  | .ended t result => some (t, result)
  | _ => none

theorem ended_of_ending? {result : Except Stop Unit} (h : s.ending? patience = some (t, result)) :
    s.advance patience = .ended t result := by
  rw [ending?] at h
  split at h
  · rename_i hEnded
    obtain ⟨rfl, rfl⟩ := Prod.mk.inj (Option.some.inj h)
    exact hEnded
  · cases h

end Session

end Chip8
