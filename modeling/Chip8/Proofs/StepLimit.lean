import Mathlib.Tactic
import Chip8.Proofs.SessionStart

/-!
# The limit of a session

A limit on the instructions of a session is checked after an instruction. So a positive limit is
kept, and a limit of zero lets one instruction through.
-/

namespace Chip8

namespace Session

variable {s t : Session} {patience : Nat}

/-- The instructions that a session executes in at most `fuel` small steps, the one that ends it
included. -/
def executed (patience : Nat) : Nat → Session → Nat
  | 0, _ => 0
  | fuel + 1, s =>
    (if s.left = 0 then 0 else 1) +
      match s.advance patience with
      | .going t => executed patience fuel t
      | _ => 0

theorem executed_succ_of_going (h : s.advance patience = .going t) (fuel : Nat) :
    s.executed patience (fuel + 1) =
      (if s.left = 0 then 0 else 1) + t.executed patience fuel := by
  rw [executed, h]

theorem executed_succ_of_stopped (h : ∀ t, s.advance patience ≠ .going t) (fuel : Nat) :
    s.executed patience (fuel + 1) = if s.left = 0 then 0 else 1 := by
  cases hAdvance : s.advance patience with
  | going t => exact absurd hAdvance (h t)
  | waiting t => simp only [executed, hAdvance, Nat.add_zero]
  | ended t result => simp only [executed, hAdvance, Nat.add_zero]

/-- A session that is short of its limit does not execute more than it is short of. -/
theorem executed_le {limit : Nat} (hSound : s.Sound) (hLimit : s.limit = some limit)
    (hShort : s.steps < max 1 limit) (fuel : Nat) :
    s.executed patience fuel + s.steps ≤ max 1 limit := by
  induction fuel generalizing s with
  | zero =>
      rw [executed, Nat.zero_add]
      exact hShort.le
  | succ fuel ih =>
      by_cases hGoes : ∃ t, s.advance patience = .going t
      · obtain ⟨t, hGoing⟩ := hGoes
        rw [executed_succ_of_going hGoing]
        have hSound' := hSound.advance hGoing
        rcases going_cases hSound hGoing with ⟨left, notices, hLeft, -, hBelow, rfl⟩ |
          ⟨notices, hLeft, -, -, rfl⟩
        · have hRest := ih hSound' hLimit (lt_max_of_lt_right (hBelow limit hLimit))
          rw [if_neg (by omega)]
          simp only at hRest
          omega
        · have hRest := ih hSound' hLimit hShort
          rw [if_pos hLeft, Nat.zero_add]
          exact hRest
      · rw [executed_succ_of_stopped (not_exists.1 hGoes)]
        split
        · omega
        · omega

/-- A session with a positive limit of `m` executes at most `m` instructions. With a limit of zero
it executes one. -/
theorem executed_le_limit {o : Options} {e : Environment} {s₀ : Session} {m : Nat}
    (hStart : start o e = .ok s₀) (hLimit : o.maxSteps = some m) (patience fuel : Nat) :
    (0 < m → s₀.executed patience fuel ≤ m) ∧
    (m = 0 → 0 < fuel → s₀.executed patience fuel = 1) := by
  have hSound := sound_of_start hStart
  obtain ⟨hZero, hSame, hLeft⟩ : s₀.steps = 0 ∧ s₀.limit = some m ∧ 0 < s₀.left := by
    obtain ⟨program, notices, -, -, rfl⟩ := eq_of_start hStart
    exact ⟨rfl, hLimit, Nat.lt_of_lt_of_le Nat.zero_lt_one (Nat.le_max_left _ _)⟩
  have hBound : s₀.executed patience fuel + s₀.steps ≤ max 1 m :=
    executed_le hSound hSame (by omega) fuel
  refine ⟨fun hPos => by omega, fun hNone hFuel => ?_⟩
  obtain ⟨fuel, rfl⟩ : ∃ rest, fuel = rest + 1 := ⟨fuel - 1, by omega⟩
  have hFirst : 1 ≤ s₀.executed patience (fuel + 1) := by
    rw [executed, if_neg hLeft.ne']
    exact Nat.le_add_right 1 _
  omega

/-- A loop that is left in the middle of a frame, on a terminal that refuses to draw. -/
theorem executed_le_limit_loop :
    ∃ (o : Options) (e : Environment) (s₀ : Session) (r : Report),
      start o e = .ok s₀ ∧ o.maxSteps = some 3 ∧ s₀.executed 0 9 ≤ 3 ∧
      s₀.run 0 9 = some r ∧ .stepLimitReached 3 ∈ r.notices.toList := by
  let o : Options := { program := "loop.ch8", hz := 120, maxSteps := some 3 }
  let e : Environment := { program := some [0x12, 0x00], canvasRefuses := [.draw] }
  have hRun : ((reached? o e 0 0).bind fun s => (s.run 0 9).map fun r =>
      decide (.stepLimitReached 3 ∈ r.notices.toList)) = some true := by
    decide +kernel
  obtain ⟨s₀, hReached, hRun⟩ := Option.bind_eq_some_iff.1 hRun
  obtain ⟨r, hRun, hTold⟩ := Option.map_eq_some_iff.1 hRun
  obtain ⟨s, hStart, hAfter, -⟩ := exists_of_reached? hReached
  obtain rfl : s = s₀ := Option.some.inj hAfter
  obtain ⟨hLe, -⟩ := executed_le_limit hStart rfl 0 9
  exact ⟨o, e, s, r, hStart, rfl, hLe (by decide), hRun, of_decide_eq_true hTold⟩

/-- With a limit of zero, a session sets a register and tells that it stops after one
instruction. -/
theorem not_executed_le_limit :
    ∃ (o : Options) (e : Environment) (s₀ : Session) (r : Report),
      e.program = some [0x60, 0x01] ∧ start o e = .ok s₀ ∧ o.maxSteps = some 0 ∧
      s₀.run 0 1 = some r ∧ r.result = .ok () ∧ .stepLimitReached 1 ∈ r.notices.toList ∧
      ¬ s₀.executed 0 1 ≤ 0 := by
  let o : Options := { program := "set.ch8", maxSteps := some 0, seed := some 1 }
  let e : Environment := { program := some [0x60, 0x01] }
  have hRun : ((reached? o e 0 0).bind fun s => (s.run 0 1).map fun r =>
      (r.result.toOption, decide (.stepLimitReached 1 ∈ r.notices.toList), s.executed 0 1)) =
      some (some (), true, 1) := by
    decide +kernel
  obtain ⟨s₀, hReached, hRun⟩ := Option.bind_eq_some_iff.1 hRun
  obtain ⟨r, hRun, hFields⟩ := Option.map_eq_some_iff.1 hRun
  obtain ⟨s, hStart, hAfter, -⟩ := exists_of_reached? hReached
  obtain rfl : s = s₀ := Option.some.inj hAfter
  obtain ⟨hOk, hTold, hOne⟩ : r.result.toOption = some () ∧
      .stepLimitReached 1 ∈ r.notices.toList ∧ s.executed 0 1 = 1 := by
    simpa using hFields
  exact ⟨o, e, s, r, rfl, hStart, rfl, hRun, eq_ok_of_toOption hOk, hTold, by omega⟩

end Session

end Chip8
