import Chip8.Machine.Execute

/-!
# Steps and runs

A step fetches the word at the program counter, moves the counter past it, decodes the word and
executes it. A machine whose next word would reach past the end of its program halts instead. A run
is a number of steps; it ends early when the machine halts or a step stops. The patience of a run is
shared by all its key waits.
-/

namespace Chip8.Machine

variable {σ : Type} [Device σ]

/-- Fetches, decodes and executes one instruction. -/
def step (m : Machine σ) (patience : Nat) : Outcome σ RunState :=
  match m.state with
  | .halted => { machine := m, result := .ok .halted }
  | .running =>
    let pc := m.registers.pc
    match Checked.addSize pc.toNat 2 with
    | .error cause => { machine := m, result := .error (.abort cause) }
    | .ok wordEnd =>
      if m.registers.programEnd < wordEnd then
        { machine := { m with state := .halted }, effects := .notice (.pastEnd pc)
          result := .ok .halted }
      else match m.ram.readWord pc.toNat with
        | .error fault => { machine := m, result := .error (.fault fault) }
        | .ok bits =>
          let word : Word := ⟨bits⟩
          let m := m.withPc (nextAddress pc)
          match instructionSet.decode word with
          | none =>
            { machine := m, effects := .notice (.unknownInstruction word pc)
              result := .ok .running }
          | some entry =>
            ((m.execute patience entry.value word).map fun () => .running).after
              (.notice (.executing pc word entry.mnemonic))

/-- At most `steps` steps after the effects `earlier`. -/
def runFrom (patience : Nat) (earlier : Effects) : Nat → Machine σ → Outcome σ RunState
  | 0, m => { machine := m, effects := earlier, result := .ok m.state }
  | steps + 1, m =>
    let o := m.step (patience - earlier.pauses.size)
    let effects := earlier ++ o.effects
    match o.result with
    | .ok .running => runFrom patience effects steps o.machine
    | _ => { o with effects }

/-- At most `steps` steps. -/
def run (m : Machine σ) (patience steps : Nat) : Outcome σ RunState :=
  runFrom patience {} steps m

theorem runFrom_succ_of_running {m : Machine σ} {patience : Nat} {earlier : Effects}
    (h : (m.step (patience - earlier.pauses.size)).result = .ok .running) (steps : Nat) :
    runFrom patience earlier (steps + 1) m =
      runFrom patience (earlier ++ (m.step (patience - earlier.pauses.size)).effects) steps
        (m.step (patience - earlier.pauses.size)).machine := by
  simp only [runFrom, h]

/-- A halt and a failure end a run. -/
theorem runFrom_succ_of_stopped {m : Machine σ} {patience : Nat} {earlier : Effects}
    (h : (m.step (patience - earlier.pauses.size)).result ≠ .ok .running) (steps : Nat) :
    runFrom patience earlier (steps + 1) m =
      (m.step (patience - earlier.pauses.size)).after earlier := by
  rw [runFrom]
  split
  · rename_i hRunning
    exact absurd hRunning h
  · rfl

/-- Earlier effects only stand in front; what they use up of the patience is all that matters. -/
theorem runFrom_append (patience : Nat) (first second : Effects) (steps : Nat) (m : Machine σ) :
    runFrom patience (first ++ second) steps m =
      (runFrom (patience - first.pauses.size) second steps m).after first := by
  induction steps generalizing second m with
  | zero => rfl
  | succ steps ih =>
    have hLeft : patience - (first ++ second).pauses.size =
        patience - first.pauses.size - second.pauses.size := by
      rw [Effects.pauses_append, Array.size_append]
      omega
    simp only [runFrom, hLeft, Effects.append_assoc]
    split
    · exact ih _ _
    · rfl

end Chip8.Machine
