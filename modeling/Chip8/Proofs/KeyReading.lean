import Mathlib.Tactic
import Chip8.Terminal.Keyboard

/-!
# What a drain reads

A drain reads the events of the current batch up to its end or to a failure, one event after the
other. `Keyboard.consume_eq` says what that loop comes to: the events in front of the first failure
are read, the failure itself is used up, and what is behind it stays for the next drain. What is
proved of drains follows from this equation, and what is asked of a keyboard is a drain and, if that
goes well, an answer (`peek_of_value`, `pressed_of_value`, `flush_of_value`).
-/

namespace Chip8

namespace Reply

variable {σ α β : Type} {r : Reply σ α} (next : σ → α → Reply σ β)

theorem andThen_of_value {a : α} (h : r.answer = .value a) :
    r.andThen next =
      { next r.state a with notices := r.notices ++ (next r.state a).notices } := by
  rw [andThen, h]

theorem andThen_of_failed {error : IoError} (h : r.answer = .failed error) :
    r.andThen next = { state := r.state, answer := .failed error, notices := r.notices } := by
  rw [andThen, h]

end Reply

namespace KeyEvent

/-- How the terminal fails instead of giving an event. -/
def failure : KeyEvent → Option IoError
  | .pollFails error => some error
  | .readFails error => some error
  | _ => none

/-- Whether this is an event that can be read. -/
def arrives (event : KeyEvent) : Bool :=
  event.failure.isNone

/-- The key of a mapped character. -/
def key : KeyEvent → Option UInt8
  | .character c => Keyboard.keymap.lookup c
  | _ => none

/-- What is told of a character without a key. -/
def notice : KeyEvent → Option Notice
  | .character c => if (Keyboard.keymap.lookup c).isNone then some (.unmappedKey c) else none
  | _ => none

end KeyEvent

theorem toArray_append_filterMap {α β : Type} (f : α → Option β) (a : α) (l : List α) :
    (f a).toArray ++ (l.filterMap f).toArray = ((a :: l).filterMap f).toArray := by
  cases h : f a with
  | none => simp [h]
  | some b => simp [h]

namespace Keyboard

/-- The events in front of the first failure of a batch. -/
def readable (batch : List KeyEvent) : List KeyEvent :=
  batch.takeWhile KeyEvent.arrives

/-- The first failure of a batch. -/
def firstFailure (batch : List KeyEvent) : Option IoError :=
  batch.findSome? KeyEvent.failure

/-- What a batch leaves to the next drain: the events behind its first failure, or nothing if it is
read to its end. -/
def leftover (batch : List KeyEvent) : List (List KeyEvent) :=
  (batch.dropWhile KeyEvent.arrives).tail?.toList

/-- The keyboard after an event that can be read. -/
def read (k : Keyboard) (event : KeyEvent) : Keyboard :=
  { k with
    buffer := k.buffer ++ event.key.toArray
    quitRequested := k.quitRequested || event = .escape }

/-- The keyboard after the readable events of a batch. -/
def afterReading (k : Keyboard) (batch : List KeyEvent) : Keyboard :=
  { k with
    batches := leftover batch ++ k.batches.tail
    buffer := k.buffer ++ ((readable batch).filterMap KeyEvent.key).toArray
    quitRequested := k.quitRequested || .escape ∈ readable batch }

section Cons

variable {event : KeyEvent} {error : IoError} (rest : List KeyEvent)

theorem readable_cons (h : event.failure = none) :
    readable (event :: rest) = event :: readable rest := by
  simp [readable, KeyEvent.arrives, h]

theorem readable_cons_failure (h : event.failure = some error) : readable (event :: rest) = [] := by
  simp [readable, KeyEvent.arrives, h]

theorem leftover_cons (h : event.failure = none) : leftover (event :: rest) = leftover rest := by
  simp [leftover, KeyEvent.arrives, h]

theorem leftover_cons_failure (h : event.failure = some error) :
    leftover (event :: rest) = [rest] := by
  simp [leftover, KeyEvent.arrives, h]

theorem firstFailure_cons (h : event.failure = none) :
    firstFailure (event :: rest) = firstFailure rest := by
  simp [firstFailure, h]

theorem firstFailure_cons_failure (h : event.failure = some error) :
    firstFailure (event :: rest) = some error := by
  simp [firstFailure, h]

variable {before : List KeyEvent}

theorem readable_append (h : ∀ e ∈ before, e.failure = none) :
    readable (before ++ rest) = before ++ readable rest :=
  List.takeWhile_append_of_pos fun e he => Option.isNone_iff_eq_none.2 (h e he)

theorem leftover_append (h : ∀ e ∈ before, e.failure = none) :
    leftover (before ++ rest) = leftover rest := by
  have hArrives : ∀ e ∈ before, e.arrives = true := fun e he =>
    Option.isNone_iff_eq_none.2 (h e he)
  rw [leftover, List.dropWhile_append_of_pos hArrives, leftover]

/-- One turn of the loop. -/
theorem consume_cons (k : Keyboard) (notices : Array Notice) (h : event.failure = none) :
    k.consume notices (event :: rest) =
      (k.read event).consume (notices ++ event.notice.toArray) rest := by
  cases event with
  | character c =>
      rw [consume]
      cases hKey : keymap.lookup c with
      | some key => simp [read, KeyEvent.key, KeyEvent.notice, hKey]
      | none => simp [read, KeyEvent.key, KeyEvent.notice, hKey]
  | escape => simp [consume, read, KeyEvent.key, KeyEvent.notice]
  | otherKey => simp [consume, read, KeyEvent.key, KeyEvent.notice]
  | notKey => simp [consume, read, KeyEvent.key, KeyEvent.notice]
  | pollFails error => cases h
  | readFails error => cases h

theorem consume_cons_failure (k : Keyboard) (notices : Array Notice)
    (h : event.failure = some error) :
    k.consume notices (event :: rest) = k.breakOff rest error notices := by
  cases event with
  | pollFails error => exact Option.some.inj h ▸ rfl
  | readFails error => exact Option.some.inj h ▸ rfl
  | character c => cases h
  | escape => cases h
  | otherKey => cases h
  | notKey => cases h

end Cons

/-- What reading a batch answers, and what it tells. -/
theorem consume_eq (k : Keyboard) (notices : Array Notice) (batch : List KeyEvent) :
    k.consume notices batch =
      { state := k.afterReading batch
        answer := (firstFailure batch).elim (.value ()) .failed
        notices := notices ++ ((readable batch).filterMap KeyEvent.notice).toArray } := by
  induction batch generalizing k notices with
  | nil => simp [consume, afterReading, readable, firstFailure, leftover]
  | cons event rest ih =>
      cases hFailure : event.failure with
      | none =>
          rw [consume_cons rest k notices hFailure, ih]
          simp only [afterReading, read, readable_cons rest hFailure, leftover_cons rest hFailure,
            firstFailure_cons rest hFailure, Array.append_assoc, toArray_append_filterMap]
          simp [Bool.or_assoc, eq_comm]
      | some error =>
          rw [consume_cons_failure rest k notices hFailure]
          simp [breakOff, afterReading, readable_cons_failure rest hFailure,
            leftover_cons_failure rest hFailure, firstFailure_cons_failure rest hFailure]

/-- A drain reads the current batch. -/
theorem drain_eq (k : Keyboard) :
    k.drain =
      { state := { k.afterReading (k.batches.headD []) with calls := k.calls.push .drain }
        answer := (firstFailure (k.batches.headD [])).elim (.value ()) .failed
        notices := ((readable (k.batches.headD [])).filterMap KeyEvent.notice).toArray } := by
  rw [drain, consume_eq, Array.empty_append]
  rfl

theorem calls_drain (k : Keyboard) : k.drain.state.calls = k.calls.push .drain := by
  rw [drain_eq]

theorem quitRequested_drain {k : Keyboard} (h : k.quitRequested = true) :
    k.drain.state.quitRequested = true := by
  rw [drain_eq]
  exact Bool.or_eq_true_iff.2 (Or.inl h)

theorem drain_cases (k : Keyboard) :
    k.drain.answer = .value () ∨ ∃ error, k.drain.answer = .failed error := by
  rw [drain_eq]
  cases firstFailure (k.batches.headD []) with
  | none => exact Or.inl rfl
  | some error => exact Or.inr ⟨error, rfl⟩

section Asking

variable {k : Keyboard} {error : IoError}

theorem peek_of_value (h : k.drain.answer = .value ()) :
    k.peek = { k.drain with answer := .value k.drain.state.buffer } := by
  simp only [peek, Reply.andThen_of_value _ h, Reply.value, Array.append_empty]

theorem peek_of_failed (h : k.drain.answer = .failed error) :
    k.peek = { k.drain with answer := .failed error } :=
  Reply.andThen_of_failed _ h

theorem pressed_of_value (h : k.drain.answer = .value ()) (key : UInt8) :
    k.pressed key =
      { k.drain with
        answer :=
          if k.drain.state.quitRequested then .failed .quitRequested
          else .value (k.drain.state.buffer.contains key) } := by
  rw [pressed, Reply.andThen_of_value _ h]
  split
  · simp only [Reply.failed, Array.append_empty]
  · simp only [Reply.value, Array.append_empty]

theorem pressed_of_failed (h : k.drain.answer = .failed error) (key : UInt8) :
    k.pressed key = { k.drain with answer := .failed error } :=
  Reply.andThen_of_failed _ h

theorem flush_of_value (h : k.drain.answer = .value ()) :
    k.flush = { k.drain with state := { k.drain.state with buffer := #[] } } := by
  simp only [flush, Reply.andThen_of_value _ h, Reply.value, Array.append_empty, h]

theorem flush_of_failed (h : k.drain.answer = .failed error) : k.flush = k.drain := by
  rw [flush, Reply.andThen_of_failed _ h, ← h]

end Asking

end Keyboard

end Chip8
