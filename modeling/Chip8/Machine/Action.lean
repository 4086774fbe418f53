import Chip8.Machine.Load
import Chip8.Machine.Run

/-!
# What a host does with a machine

A host loads programs, resets, steps, runs, counts the timers down and writes registers, in any
order. `Machine.perform` is one such action. A run executes many instructions, so a sequence of
actions is also broken down into *moves*, none of which executes more than one: `replay_moves` says
that the moves of a sequence of actions lead to the same machine.
-/

namespace Chip8

/-- What a host can do. -/
inductive Action where
  | load (program : List UInt8)
  | loadFrom (source : ByteSource)
  | reset
  | step
  | run (steps : Nat)
  | tick
  /-- Writes the registers, all of them and without any check. -/
  | poke (registers : Registers)
  deriving Repr

/-- What a host can do that executes at most one instruction. -/
inductive Move where
  | load (program : List UInt8)
  | reset
  | step (patience : Nat)
  | tick
  | poke (registers : Registers)
  deriving DecidableEq, Repr

namespace Machine

variable {σ : Type} [Device σ]

/-- One action. Its key waits share the patience. -/
def perform (m : Machine σ) (patience : Nat) : Action → Outcome σ Unit
  | .load program => m.load program
  | .loadFrom source => m.loadFrom source
  | .reset => m.reset
  | .step => (m.step patience).map fun _ => ()
  | .run steps => (m.run patience steps).map fun _ => ()
  | .tick => m.tick.done
  | .poke registers => (m.withRegisters registers).done

/-- The machine after a sequence of actions. What an action comes to does not keep the host from the
next one. -/
def performAll (m : Machine σ) (patience : Nat) (actions : List Action) : Machine σ :=
  actions.foldl (fun m a => (m.perform patience a).machine) m

/-- What the actions of a sequence come to, one after the other. -/
def outcomes (m : Machine σ) (patience : Nat) : List Action → List (Outcome σ Unit)
  | [] => []
  | a :: rest =>
    let o := m.perform patience a
    o :: o.machine.outcomes patience rest

/-- What a host gets back from one action: steps and runs answer the run state. -/
def answer (m : Machine σ) (patience : Nat) : Action → Outcome σ (Option RunState)
  | .step => (m.step patience).map some
  | .run steps => (m.run patience steps).map some
  | a => (m.perform patience a).map fun () => none

/-- What a host gets back from a sequence of actions, one after the other. -/
def answers (m : Machine σ) (patience : Nat) :
    List Action → List (Outcome σ (Option RunState))
  | [] => []
  | a :: rest =>
    let o := m.answer patience a
    o :: o.machine.answers patience rest

/-- One move. -/
def move (m : Machine σ) : Move → Outcome σ Unit
  | .load program => m.load program
  | .reset => m.reset
  | .step patience => (m.step patience).map fun _ => ()
  | .tick => m.tick.done
  | .poke registers => (m.withRegisters registers).done

/-- The machine after a sequence of moves. -/
def replay (m : Machine σ) (moves : List Move) : Machine σ :=
  moves.foldl (fun m mv => (m.move mv).machine) m

/-- The steps of a run that has slept `slept` times before. -/
def runMoves (patience : Nat) : Nat → Nat → Machine σ → List Move
  | _, 0, _ => []
  | slept, steps + 1, m =>
    let o := m.step (patience - slept)
    .step (patience - slept) ::
      match o.result with
      | .ok .running => runMoves patience (slept + o.effects.pauses.size) steps o.machine
      | _ => []

/-- The moves of an action. -/
def movesOf (m : Machine σ) (patience : Nat) : Action → List Move
  | .load program => [.load program]
  | .loadFrom source =>
    match source.contents with
    | .ok program => [.load program]
    | .error _ => []
  | .reset => [.reset]
  | .step => [.step patience]
  | .run steps => runMoves patience 0 steps m
  | .tick => [.tick]
  | .poke registers => [.poke registers]

/-- The moves of a sequence of actions. -/
def moves (m : Machine σ) (patience : Nat) : List Action → List Move
  | [] => []
  | a :: rest => m.movesOf patience a ++ (m.perform patience a).machine.moves patience rest

theorem machine_answer (m : Machine σ) (patience : Nat) (a : Action) :
    (m.answer patience a).machine = (m.perform patience a).machine := by
  cases a <;> rfl

theorem replay_append (m : Machine σ) (first second : List Move) :
    m.replay (first ++ second) = (m.replay first).replay second :=
  List.foldl_append

/-- A run is its steps. -/
theorem replay_runMoves (patience : Nat) (earlier : Effects) (steps : Nat) (m : Machine σ) :
    m.replay (runMoves patience earlier.pauses.size steps m) =
      (runFrom patience earlier steps m).machine := by
  induction steps generalizing earlier m with
  | zero => rfl
  | succ steps ih =>
      rw [runMoves, runFrom]
      have hSlept : (earlier ++ (m.step (patience - earlier.pauses.size)).effects).pauses.size =
          earlier.pauses.size + (m.step (patience - earlier.pauses.size)).effects.pauses.size := by
        rw [Effects.pauses_append, Array.size_append]
      rw [← hSlept]
      change replay (m.step (patience - earlier.pauses.size)).machine _ = _
      cases hResult : (m.step (patience - earlier.pauses.size)).result with
      | error cause => rfl
      | ok state =>
          cases state with
          | halted => rfl
          | running => exact ih _ _

theorem replay_movesOf (m : Machine σ) (patience : Nat) (a : Action) :
    m.replay (m.movesOf patience a) = (m.perform patience a).machine := by
  cases a with
  | loadFrom source =>
      simp only [movesOf, perform, loadFrom]
      cases source.contents with
      | error error => rfl
      | ok program => rfl
  | run steps => exact replay_runMoves patience {} steps m
  | load program => rfl
  | reset => rfl
  | step => rfl
  | tick => rfl
  | poke registers => rfl

/-- Actions lead where their moves lead. -/
theorem replay_moves (m : Machine σ) (patience : Nat) (actions : List Action) :
    m.replay (m.moves patience actions) = m.performAll patience actions := by
  induction actions generalizing m with
  | nil => rfl
  | cons a rest ih =>
      rw [moves, replay_append, replay_movesOf, ih]
      rfl

end Machine

end Chip8
