import Mathlib.Tactic
import Chip8.Device.Scripted
import Chip8.Proofs.Embedding

/-!
# The questions that a machine puts to its device

A recorder is a device with a record of all questions that it was asked, in order. A machine with a
recorder does what it does without one (`answers_recorded`), so the record tells what the machine
asks: `Machine.asks` for all that a host does with it.
-/

namespace Chip8

/-- A device with a record of the questions that it was asked. -/
structure Recorder (σ : Type) where
  device : σ
  calls : List DeviceCall := []

namespace Recorder

variable {σ : Type}

/-- The recorder after one more question. -/
def asked (r : Recorder σ) (call : DeviceCall) (device : σ) : Recorder σ :=
  ⟨device, r.calls ++ [call]⟩

variable [Device σ]

instance : Device (Recorder σ) where
  clear r := (Device.clear r.device).mapState (r.asked .clear)
  toggle r x y := (Device.toggle r.device x y).mapState (r.asked (.toggle x y))
  pressed r key := (Device.pressed r.device key).mapState (r.asked (.pressed key))
  pollInterval r := Device.pollInterval r.device

/-- The device without the record. -/
def forget : Device.Hom (Recorder σ) σ where
  map := device
  clear _ := rfl
  toggle _ _ _ := rfl
  pressed _ _ := rfl
  pollInterval _ := rfl

/-- The same record after earlier questions. -/
def precede (earlier : List DeviceCall) : Device.Hom (Recorder σ) (Recorder σ) where
  map r := ⟨r.device, earlier ++ r.calls⟩
  clear r := by
    simp only [Device.clear, Reply.mapState, asked, List.append_assoc]
  toggle r x y := by
    simp only [Device.toggle, Reply.mapState, asked, List.append_assoc]
  pressed r key := by
    simp only [Device.pressed, Reply.mapState, asked, List.append_assoc]
  pollInterval _ := rfl

end Recorder

namespace Embedding

variable {σ : Type} [Device σ]

/-- The machine without the record of its device. -/
def forgetting : Embedding (Recorder σ) σ :=
  { device := Recorder.forget }

theorem machine_forgetting (r : Machine (Recorder σ)) :
    forgetting.machine r = { r with device := r.device.device } := by
  change { r with ram := r.ram.extend #[], device := r.device.device } = _
  rw [Ram.extend_empty]

/-- The machine with earlier questions in the record of its device. -/
def preceding (earlier : List DeviceCall) : Embedding (Recorder σ) (Recorder σ) :=
  { device := Recorder.precede earlier }

/-! Where there is no more memory, every move is the move embedded. -/

variable {τ : Type} [Device τ] {e : Embedding σ τ}

theorem keeps_of_above (hAbove : e.above = #[]) {α : Type} (o : Outcome σ α) : e.Keeps o :=
  fun _ => hAbove

theorem move_embed (hAbove : e.above = #[]) (m : Machine σ) (mv : Move) :
    (e.machine m).move mv = e.outcome (m.move mv) := by
  cases mv with
  | load program => exact e.load_embed (keeps_of_above hAbove _)
  | step patience =>
      have hStep := e.step_embed (keeps_of_above hAbove (m.step patience))
      exact congrArg (Outcome.map fun _ => ()) hStep
  | reset => rfl
  | tick => rfl
  | poke registers => rfl

theorem runMoves_embed (hAbove : e.above = #[]) (patience slept steps : Nat) (m : Machine σ) :
    Machine.runMoves patience slept steps (e.machine m) =
      Machine.runMoves patience slept steps m := by
  induction steps generalizing slept m with
  | zero => rfl
  | succ steps ih =>
      have hStep := e.step_embed (keeps_of_above hAbove (m.step (patience - slept)))
      rw [Machine.runMoves, Machine.runMoves, hStep]
      cases hResult : (m.step (patience - slept)).result with
      | error cause => simp only [outcome, hResult]
      | ok state =>
          cases state with
          | halted => simp only [outcome, hResult]
          | running =>
              simp only [outcome, hResult]
              rw [ih]

/-- The embedded machine makes the same moves. -/
theorem moves_embed (hAbove : e.above = #[]) (m : Machine σ) (patience : Nat)
    (actions : List Action) :
    (e.machine m).moves patience actions = m.moves patience actions := by
  induction actions generalizing m with
  | nil => rfl
  | cons a rest ih =>
      have hOf : (e.machine m).movesOf patience a = m.movesOf patience a := by
        cases a with
        | run steps => exact runMoves_embed hAbove patience 0 steps m
        | _ => rfl
      have hPerform := congrArg Outcome.machine
        (e.answer_embed (keeps_of_above hAbove (m.answer patience a)))
      rw [Machine.machine_answer] at hPerform
      rw [Machine.moves, Machine.moves, hOf, hPerform]
      show _ ++ (e.machine (m.answer patience a).machine).moves patience rest = _
      rw [ih, Machine.machine_answer]

end Embedding

namespace Machine

section Record

variable {σ : Type}

/-- The machine with an empty record of questions. -/
def recorded (m : Machine σ) : Machine (Recorder σ) :=
  { m with device := ⟨m.device, []⟩ }

end Record

variable {σ : Type} [Device σ]

theorem forgetting_recorded (m : Machine σ) : Embedding.forgetting.machine m.recorded = m := by
  rw [Embedding.machine_forgetting]
  rfl

/-- A record is an empty record after the questions that it holds. -/
theorem preceding_recorded (r : Machine (Recorder σ)) :
    (Embedding.preceding r.device.calls).machine (Embedding.forgetting.machine r).recorded = r := by
  change { r with
    ram := (r.ram.extend #[]).extend #[]
    device := ⟨r.device.device, r.device.calls ++ []⟩ } = r
  rw [Ram.extend_empty, Ram.extend_empty, List.append_nil]

/-- The questions that a sequence of actions puts to the device, in order. -/
def asks (m : Machine σ) (patience : Nat) (actions : List Action) : List DeviceCall :=
  (m.recorded.performAll patience actions).device.calls

theorem asks_step (m : Machine σ) (patience : Nat) :
    m.asks patience [.step] = (m.recorded.step patience).machine.device.calls := rfl

theorem asks_run (m : Machine σ) (patience steps : Nat) :
    m.asks patience [.run steps] = (m.recorded.run patience steps).machine.device.calls := rfl

/-- The questions that a sequence of moves puts to the device, in order. -/
def asked (m : Machine σ) (moves : List Move) : List DeviceCall :=
  (m.recorded.replay moves).device.calls

theorem asked_moves (m : Machine σ) (patience : Nat) (actions : List Action) :
    m.asked (m.moves patience actions) = m.asks patience actions := by
  have hMoves : (Embedding.forgetting.machine m.recorded).moves patience actions = _ :=
    Embedding.moves_embed rfl m.recorded patience actions
  rw [forgetting_recorded] at hMoves
  rw [asked, asks, hMoves, replay_moves]

/-- Recording changes nothing: without the record, everything is as it is for the machine. -/
theorem answers_recorded (m : Machine σ) (patience : Nat) (actions : List Action) :
    m.answers patience actions =
      (m.recorded.answers patience actions).map Embedding.forgetting.outcome := by
  have hAnswers : (Embedding.forgetting.machine m.recorded).answers patience actions = _ :=
    Embedding.answers_embed _ fun _ _ _ => rfl
  rw [forgetting_recorded] at hAnswers
  exact hAnswers

theorem run_recorded (m : Machine σ) (patience steps : Nat) :
    m.run patience steps = Embedding.forgetting.outcome (m.recorded.run patience steps) := by
  have hRun : (Embedding.forgetting.machine m.recorded).run patience steps = _ :=
    Embedding.runFrom_embed _ fun _ => rfl
  rw [forgetting_recorded] at hRun
  exact hRun

/-- A run puts its questions behind the ones in the record. -/
theorem calls_run (r : Machine (Recorder σ)) (patience steps : Nat) :
    (r.run patience steps).machine.device.calls =
      r.device.calls ++ (Embedding.forgetting.machine r).asks patience [.run steps] := by
  have hRun : ((Embedding.preceding r.device.calls).machine
      (Embedding.forgetting.machine r).recorded).run patience steps = _ :=
    Embedding.runFrom_embed _ fun _ => rfl
  rw [preceding_recorded] at hRun
  rw [hRun]
  rfl

end Machine

end Chip8
