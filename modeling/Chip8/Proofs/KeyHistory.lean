import Mathlib.Tactic
import Chip8.Proofs.SessionKeys

/-!
# The keys that a keyboard remembers

A `KeyLog` is kept beside a keyboard: the events that were read, parted by the last flush that went
well, and the events to come. Every action but the look at the wish to quit moves the readable
events of the current batch from the second to the first. `KeyLog.Tells` says what the keyboard has
to do with its log: it remembers the keys of the events since the flush, and Escape of all of them.
-/

namespace Chip8

/-- What can be done with a keyboard. -/
inductive KeyAction where
  | peek
  | pressed (key : UInt8)
  | flush
  /-- Asking whether Escape was read. -/
  | quitRequested
  deriving DecidableEq, Repr

/-- The events that are read from a keyboard. -/
structure KeyLog where
  /-- The events read before the last flush that went well. -/
  flushed : List KeyEvent := []
  /-- The events read since then. -/
  recent : List KeyEvent := []
  /-- The events to come; the first batch is the current one. -/
  batches : List (List KeyEvent)

namespace KeyLog

/-- All events read so far. -/
def events (log : KeyLog) : List KeyEvent :=
  log.flushed ++ log.recent

/-- The keys read since the last flush that went well. -/
def keys (log : KeyLog) : List UInt8 :=
  log.recent.filterMap KeyEvent.key

/-- The batch that the next drain reads. -/
def batch (log : KeyLog) : List KeyEvent :=
  log.batches.headD []

/-- How the next drain fails, if it does. -/
def failure (log : KeyLog) : Option IoError :=
  Keyboard.firstFailure log.batch

/-- The log after a drain, which reads up to the end of the batch or to its first failure. -/
def drained (log : KeyLog) : KeyLog :=
  { log with
    recent := log.recent ++ Keyboard.readable log.batch
    batches := Keyboard.leftover log.batch ++ log.batches.tail }

/-- The log after an action. A flush parts the events only if its drain goes well. -/
def after (log : KeyLog) : KeyAction → KeyLog
  | .peek => log.drained
  | .pressed _ => log.drained
  | .flush =>
    if log.failure = none then { log.drained with flushed := log.drained.events, recent := [] }
    else log.drained
  | .quitRequested => log

/-- The log after actions. -/
def follow (log : KeyLog) (actions : List KeyAction) : KeyLog :=
  actions.foldl after log

/-- The events of some batches that can be read. -/
def arriving (batches : List (List KeyEvent)) : List KeyEvent :=
  batches.flatten.filter KeyEvent.arrives

/-- The events that are or can be read, in order. -/
def script (log : KeyLog) : List KeyEvent :=
  log.events ++ arriving log.batches

theorem events_drained (log : KeyLog) :
    log.drained.events = log.events ++ Keyboard.readable log.batch :=
  (List.append_assoc ..).symm

theorem events_after_flush (log : KeyLog) :
    (log.after .flush).events = log.drained.events := by
  rw [after]
  split
  · exact List.append_nil _
  · rfl

theorem batches_after_flush (log : KeyLog) : (log.after .flush).batches = log.drained.batches := by
  rw [after]
  split
  · rfl
  · rfl

/-- Every action but the look at the wish to quit reads what a drain reads. -/
theorem events_after (log : KeyLog) (action : KeyAction) :
    (log.after action).events =
      if action = .quitRequested then log.events else log.drained.events := by
  cases action with
  | peek => rfl
  | pressed key => rfl
  | flush => exact log.events_after_flush
  | quitRequested => rfl

/-- A batch is read and left over without a loss; only its first failure is used up. -/
theorem readable_append_leftover (batch : List KeyEvent) :
    Keyboard.readable batch ++ arriving (Keyboard.leftover batch) =
      batch.filter KeyEvent.arrives := by
  induction batch with
  | nil => rfl
  | cons event rest ih =>
      cases hFailure : event.failure with
      | none =>
          rw [Keyboard.readable_cons rest hFailure, Keyboard.leftover_cons rest hFailure,
            List.cons_append, ih]
          simp [KeyEvent.arrives, hFailure]
      | some error =>
          rw [Keyboard.readable_cons_failure rest hFailure,
            Keyboard.leftover_cons_failure rest hFailure]
          simp [arriving, KeyEvent.arrives, hFailure]

/-- A drain that does not fail reads the whole batch. -/
theorem drained_of_failure_none {log : KeyLog} (h : log.failure = none) :
    log.drained.events = log.events ++ log.batch ∧ log.drained.batches = log.batches.tail := by
  have hBatch : ∀ event ∈ log.batch, event.failure = none := List.findSome?_eq_none_iff.1 h
  have hReadable := Keyboard.readable_append [] hBatch
  have hLeftover := Keyboard.leftover_append [] hBatch
  rw [List.append_nil] at hReadable hLeftover
  rw [events_drained, drained, hReadable, hLeftover]
  exact ⟨congrArg _ (List.append_nil _), rfl⟩

/-- A drain that fails reads the events in front of the failure and leaves those behind it. -/
theorem drained_of_failure {log : KeyLog} {error : IoError} (h : log.failure = some error) :
    ∃ before event rest, log.batch = before ++ event :: rest ∧
      (∀ e ∈ before, e.failure = none) ∧ event.failure = some error ∧
      log.drained.events = log.events ++ before ∧
      log.drained.batches = rest :: log.batches.tail := by
  obtain ⟨before, event, rest, hBatch, hEvent, hBefore⟩ := List.findSome?_eq_some_iff.1 h
  refine ⟨before, event, rest, hBatch, hBefore, hEvent, ?_, ?_⟩
  · rw [events_drained, hBatch, Keyboard.readable_append _ hBefore,
      Keyboard.readable_cons_failure rest hEvent, List.append_nil]
  · rw [drained, hBatch, Keyboard.leftover_append _ hBefore,
      Keyboard.leftover_cons_failure rest hEvent]
    rfl

theorem script_drained (log : KeyLog) : log.drained.script = log.script := by
  have hLeft : arriving (Keyboard.leftover log.batch ++ log.batches.tail) =
      arriving (Keyboard.leftover log.batch) ++ arriving log.batches.tail := by
    simp [arriving]
  have hBatches : log.batch.filter KeyEvent.arrives ++ arriving log.batches.tail =
      arriving log.batches := by
    rw [batch]
    cases log.batches with
    | nil => rfl
    | cons first later => simp [arriving]
  calc log.drained.script
    _ = log.events ++ Keyboard.readable log.batch ++
          arriving (Keyboard.leftover log.batch ++ log.batches.tail) := by
        rw [script, events_drained]
        rfl
    _ = log.events ++ (Keyboard.readable log.batch ++ arriving (Keyboard.leftover log.batch) ++
          arriving log.batches.tail) := by
        rw [hLeft, List.append_assoc, List.append_assoc]
    _ = log.script := by
        rw [readable_append_leftover, hBatches]
        rfl

/-- No action loses an event, reads one twice or makes one up. -/
theorem script_after (log : KeyLog) (action : KeyAction) :
    (log.after action).script = log.script := by
  cases action with
  | peek => exact log.script_drained
  | pressed key => exact log.script_drained
  | flush =>
      rw [script, events_after_flush, batches_after_flush]
      exact log.script_drained
  | quitRequested => rfl

theorem script_follow (log : KeyLog) (actions : List KeyAction) :
    (log.follow actions).script = log.script := by
  induction actions generalizing log with
  | nil => rfl
  | cons action actions ih => exact (ih _).trans (log.script_after action)

end KeyLog

namespace Keyboard

/-- The keyboard after an action. -/
def act (k : Keyboard) : KeyAction → Keyboard
  | .peek => k.peek.state
  | .pressed key => (k.pressed key).state
  | .flush => k.flush.state
  | .quitRequested => k

/-- The keyboard after actions. -/
def actAll (k : Keyboard) (actions : List KeyAction) : Keyboard :=
  actions.foldl act k

end Keyboard

namespace KeyLog

/-- What a keyboard has to do with the log of its events. -/
structure Tells (log : KeyLog) (k : Keyboard) : Prop where
  batches : k.batches = log.batches
  buffer : k.buffer.toList = log.keys
  quitRequested : k.quitRequested = true ↔ .escape ∈ log.events

namespace Tells

variable {log : KeyLog} {k : Keyboard}

theorem start (refused : List KeyboardCall) (batches : List (List KeyEvent)) :
    Tells { batches } (Keyboard.start refused batches).state := by
  rw [Keyboard.start]
  split
  · exact ⟨rfl, rfl, by simp [events, Reply.failed]⟩
  · exact ⟨rfl, rfl, by simp [events, Reply.value]⟩

theorem drain (h : log.Tells k) : log.drained.Tells k.drain.state := by
  have hBatch : k.batches.headD [] = log.batch := by rw [h.batches, batch]
  rw [Keyboard.drain_eq, hBatch]
  exact {
    batches := by simp [Keyboard.afterReading, drained, h.batches]
    buffer := by simp [Keyboard.afterReading, keys, drained, h.buffer]
    quitRequested := by simp [Keyboard.afterReading, events_drained, h.quitRequested] }

theorem drain_of_failure_none (h : log.Tells k) (hFailure : log.failure = none) :
    k.drain.answer = .value () := by
  rw [Keyboard.drain_eq, h.batches]
  exact congrArg (Option.elim · _ _) hFailure

theorem drain_of_failure {error : IoError} (h : log.Tells k) (hFailure : log.failure = some error) :
    k.drain.answer = .failed error := by
  rw [Keyboard.drain_eq, h.batches]
  exact congrArg (Option.elim · _ _) hFailure

theorem peek (h : log.Tells k) : log.drained.Tells k.peek.state := by
  rcases k.drain_cases with hDrain | ⟨error, hDrain⟩
  · rw [Keyboard.peek_of_value hDrain]
    exact h.drain
  · rw [Keyboard.peek_of_failed hDrain]
    exact h.drain

theorem pressed (h : log.Tells k) (key : UInt8) : log.drained.Tells (k.pressed key).state := by
  rw [Keyboard.state_pressed]
  exact h.drain

/-- A question whose drain goes well is answered by the keys, unless Escape was read. -/
theorem answer_pressed (h : log.Tells k) (hFailure : log.failure = none) (key : UInt8) :
    (k.pressed key).answer =
      if .escape ∈ log.drained.events then .failed .quitRequested
      else .value (decide (key ∈ log.drained.keys)) := by
  have hKeys : k.drain.state.buffer.contains key = decide (key ∈ log.drained.keys) := by
    rw [← h.drain.buffer]
    simp
  rw [Keyboard.pressed_of_value (h.drain_of_failure_none hFailure), hKeys]
  exact if_congr h.drain.quitRequested rfl rfl

/-- A flush parts the events exactly if its drain goes well. -/
theorem flush (h : log.Tells k) : (log.after .flush).Tells k.flush.state := by
  cases hFailure : log.failure with
  | none =>
      have hQuit : k.drain.state.quitRequested = true ↔ .escape ∈ (log.after .flush).events := by
        rw [events_after_flush]
        exact h.drain.quitRequested
      rw [Keyboard.flush_of_value (h.drain_of_failure_none hFailure)]
      rw [after, if_pos hFailure] at hQuit ⊢
      exact ⟨h.drain.batches, rfl, hQuit⟩
  | some error =>
      rw [Keyboard.flush_of_failed (h.drain_of_failure hFailure), after, hFailure, if_neg nofun]
      exact h.drain

/-- An action does to a keyboard what it does to the log. -/
theorem act (h : log.Tells k) (action : KeyAction) : (log.after action).Tells (k.act action) := by
  cases action with
  | peek => exact h.peek
  | pressed key => exact h.pressed key
  | flush => exact h.flush
  | quitRequested => exact h

theorem actAll (h : log.Tells k) (actions : List KeyAction) :
    (log.follow actions).Tells (k.actAll actions) := by
  induction actions generalizing log k with
  | nil => exact h
  | cons action actions ih => exact ih (h.act action)

/-- No action forgets Escape. -/
theorem quitRequested_act (h : log.Tells k) (action : KeyAction) (hQuit : k.quitRequested = true) :
    (k.act action).quitRequested = true := by
  refine (h.act action).quitRequested.2 ?_
  rw [events_after]
  split
  · exact h.quitRequested.1 hQuit
  · rw [events_drained]
    exact List.mem_append_left _ (h.quitRequested.1 hQuit)

end Tells

/-- The next drain of a keyboard breaks off. -/
structure BreaksOff (log : KeyLog) (k : Keyboard) (error : IoError) : Prop where
  /-- The events in front of the failure are read, and those behind it are left. -/
  reads : ∃ before event rest, log.batch = before ++ event :: rest ∧
    (∀ e ∈ before, e.failure = none) ∧ event.failure = some error ∧
    log.drained.events = log.events ++ before ∧ log.drained.batches = rest :: log.batches.tail
  peek : k.peek.answer = .failed error
  pressed : ∀ key, (k.pressed key).answer = .failed error
  flush : k.flush.answer = .failed error
  /-- What is read is kept, also by a flush. -/
  keeps : ∀ action, action ≠ .quitRequested → log.drained.Tells (k.act action)

/-- The next drain of a keyboard reads its batch to the end. -/
structure Finishes (log : KeyLog) (k : Keyboard) : Prop where
  reads : log.drained.events = log.events ++ log.batch ∧ log.drained.batches = log.batches.tail
  /-- A look at the keys answers all of them, also after Escape. -/
  peek : k.peek.answer = .value log.drained.keys.toArray ∧ log.drained.Tells k.peek.state
  /-- A question about a key is interrupted after Escape and only then. -/
  interrupted : ∀ key, .escape ∈ log.drained.events ↔
    ∃ error, (k.pressed key).answer = .failed error ∧ error.kind = .interrupted
  /-- Else it is answered by the keys. -/
  pressed : ∀ key, .escape ∉ log.drained.events →
    (k.pressed key).answer = .value (decide (key ∈ log.drained.keys))
  asked : ∀ key, log.drained.Tells (k.pressed key).state
  /-- A flush forgets the keys and nothing else. -/
  flush : k.flush.answer = .value () ∧ k.flush.state = { k.peek.state with buffer := #[] }

theorem Tells.breaksOff {log : KeyLog} {k : Keyboard} {error : IoError} (h : log.Tells k)
    (hFailure : log.failure = some error) : log.BreaksOff k error where
  reads := drained_of_failure hFailure
  peek := by rw [Keyboard.peek_of_failed (h.drain_of_failure hFailure)]
  pressed key := by rw [Keyboard.pressed_of_failed (h.drain_of_failure hFailure)]
  flush := (k.answer_flush).trans (h.drain_of_failure hFailure)
  keeps action hAction := by
    cases action with
    | peek => exact h.peek
    | pressed key => exact h.pressed key
    | flush =>
        rw [Keyboard.act, Keyboard.flush_of_failed (h.drain_of_failure hFailure)]
        exact h.drain
    | quitRequested => exact absurd rfl hAction

theorem Tells.finishes {log : KeyLog} {k : Keyboard} (h : log.Tells k)
    (hFailure : log.failure = none) : log.Finishes k where
  reads := drained_of_failure_none hFailure
  peek := by
    refine ⟨?_, h.peek⟩
    rw [Keyboard.peek_of_value (h.drain_of_failure_none hFailure), ← h.drain.buffer,
      Array.toArray_toList]
  interrupted key := by
    rw [h.answer_pressed hFailure]
    by_cases hEscape : .escape ∈ log.drained.events
    · rw [if_pos hEscape]
      exact ⟨fun _ => ⟨_, rfl, rfl⟩, fun _ => hEscape⟩
    · rw [if_neg hEscape]
      exact ⟨fun h => absurd h hEscape, nofun⟩
  pressed key hEscape := (h.answer_pressed hFailure key).trans (if_neg hEscape)
  asked := h.pressed
  flush := by
    have hDrain := h.drain_of_failure_none hFailure
    rw [Keyboard.flush_of_value hDrain, Keyboard.peek_of_value hDrain]
    exact ⟨hDrain, rfl⟩

end KeyLog

namespace Keyboard

/-- The keyboard after any actions on any events, with the log of these actions. The events read so
far and those to come are the events given. The keys remembered are the keys of the events read
since the last flush that went well, in order, and Escape is remembered from all events read. What
the next drain comes to is decided by whether its batch has a failure, and no action forgets
Escape. -/
theorem keys_follow_events (refused : List KeyboardCall) (batches : List (List KeyEvent))
    (actions : List KeyAction) :
    let k := (start refused batches).state.actAll actions
    let log := KeyLog.follow { batches } actions
    log.events ++ KeyLog.arriving log.batches = KeyLog.arriving batches ∧
      (k.batches = log.batches ∧ k.buffer.toList = log.keys ∧
        (k.quitRequested = true ↔ .escape ∈ log.events)) ∧
      (∀ error, log.failure = some error → log.BreaksOff k error) ∧
      (log.failure = none → log.Finishes k) ∧
      ∀ action, k.quitRequested = true → (k.act action).quitRequested = true := by
  intro k log
  have hScript : log.script = KeyLog.arriving batches := KeyLog.script_follow _ actions
  have hTells : log.Tells k := (KeyLog.Tells.start refused batches).actAll actions
  exact ⟨hScript, ⟨hTells.batches, hTells.buffer, hTells.quitRequested⟩,
    fun _ hFailure => hTells.breaksOff hFailure, fun hFailure => hTells.finishes hFailure,
    hTells.quitRequested_act⟩

/-- A flush that breaks off, here because the read was interrupted, keeps the key in front of the
failure. The next question about it is interrupted by the Escape behind the failure. -/
theorem keys_follow_events_broken :
    let k := (start [] [[.character '1', .readFails ⟨.interrupted, "signal"⟩, .escape]]).state
    (k.flush.answer = .failed ⟨.interrupted, "signal"⟩ ∧ k.flush.state.buffer.toList = [1]) ∧
      ∃ error, (k.flush.state.pressed 1).answer = .failed error ∧ error.kind = .interrupted := by
  intro k
  let batches : List (List KeyEvent) :=
    [[.character '1', .readFails ⟨.interrupted, "signal"⟩, .escape]]
  obtain ⟨-, -, hBreaksOff, -⟩ := keys_follow_events [] batches []
  obtain ⟨-, ⟨-, hBuffer, -⟩, -, hFinishes, -⟩ := keys_follow_events [] batches [.flush]
  have hEscape : KeyEvent.escape ∈ (KeyLog.follow { batches } [.flush]).drained.events := by
    decide
  exact ⟨⟨(hBreaksOff ⟨.interrupted, "signal"⟩ rfl).flush, hBuffer⟩,
    ((hFinishes rfl).interrupted 1).1 hEscape⟩

end Keyboard

end Chip8
