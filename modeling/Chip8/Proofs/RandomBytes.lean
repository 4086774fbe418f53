import Mathlib.Tactic
import Chip8.Device.Keypad
import Chip8.Machine.Action
import Chip8.Proofs.Starting
import Chip8.Proofs.Stepping

/-!
# Where a machine is in its random stream

Only the instructions CXNN draw from the random stream, each one byte, and nothing rewinds it. So
the position of a machine in the stream of its seed is the number of these instructions that it has
executed since power on, whatever its host did in between.
-/

namespace Chip8

namespace RandomStream

theorem drop_add (r : RandomStream) (a b : Nat) : r.drop (a + b) = (r.drop a).drop b := by
  induction a generalizing r with
  | zero => rw [Nat.zero_add, drop]
  | succ a ih =>
      rw [Nat.succ_add]
      exact ih r.advance

theorem advance_drop (r : RandomStream) (n : Nat) : (r.drop n).advance = r.drop (n + 1) :=
  (r.drop_add n 1).symm

end RandomStream

/-- The words of the family C draw a random byte, and no others. -/
theorem Operation.ofDigits?_eq_random_iff {d : Digits} :
    ofDigits? d = some .random ↔ d.family = 0xC := by
  obtain ⟨family, x, y, n⟩ := d
  constructor
  · intro h
    unfold ofDigits? at h
    split at h
    case h_23 hFamily => exact hFamily
    all_goals cases h
  · rintro rfl
    rfl

namespace Machine

variable {σ : Type} [Device σ]

/-- No other operation touches the random stream. -/
theorem random_execute (m : Machine σ) (patience : Nat) {op : Operation} (hRandom : op ≠ .random)
    (w : Word) : (m.execute patience op w).machine.random = m.random := by
  cases op
  case random => exact absurd rfl hRandom
  case register op =>
      rw [execute]
      unfold combine
      split
      · rfl
      · rfl
  case jumpOffset => rw [execute_jumpOffset]; rfl
  case loadGlyph => rw [execute_loadGlyph]; rfl
  case skipEqualConstant | skipUnequalConstant | skipEqualRegister | skipUnequalRegister =>
      simp only [execute, skipIf_eq]
      rfl
  case clearScreen =>
      change m.clearScreen.machine.random = m.random
      rw [clearScreen_machine]
  case ret =>
      rw [execute_ret]
      cases m.stack.pop m.ram with
      | error cause => rfl
      | ok popped => rfl
  case call =>
      rw [execute_call]
      split
      · rfl
      · split
        · rfl
        · rfl
  case draw =>
      obtain ⟨v, device, hDraw⟩ := m.drawSprite_frame _ _ _
      change (m.drawSprite _ _ _).machine.random = m.random
      rw [hDraw]
  case skipPressed | skipReleased =>
      obtain ⟨pc, device, hSkip, -⟩ := m.skipIfPressed_frame _ _
      change (m.skipIfPressed _ _).machine.random = m.random
      rw [hSkip]
      rfl
  case storeDecimal =>
      rw [execute_storeDecimal]
      split
      · rfl
      · rfl
  case storeRegisters =>
      rw [execute_storeRegisters]
      split
      · rfl
      · rfl
  case loadRegisters =>
      rw [execute_loadRegisters]
      split
      · rfl
      · rfl
  all_goals rfl

/-- CXNN goes through: it puts the next byte of the stream under its mask into its register. -/
theorem step_random {m : Machine σ} {w : Word} (hWord : m.nextWord? = some w)
    (hFamily : w.digits.family = 0xC) (patience : Nat) :
    (m.step patience).result = .ok .running ∧
      (m.step patience).machine =
        { m with
          registers := { m.registers with
            pc := nextAddress m.registers.pc
            v := m.registers.v.set w.digits.x
              (m.random.next.1 &&& UInt8.ofNat w.digits.constant) }
          random := m.random.advance } := by
  simp only [← w.x_eq, ← w.toNat_constant, UInt8.ofNat_toNat]
  have hOp : m.nextOperation? = some .random :=
    nextOperation?_eq_some_iff.2 ⟨w, hWord, Operation.ofDigits?_eq_random_iff.2 hFamily⟩
  obtain ⟨w', hWord', -, hMachine, hResult⟩ := step_of_nextOperation hOp patience
  cases hWord.symm.trans hWord'
  exact ⟨hResult, hMachine⟩

/-- Whether a move executes CXNN. -/
def draws (m : Machine σ) : Move → Bool
  | .step _ => m.nextWord?.any fun w => w.digits.family == 0xC
  | _ => false

/-- How many of the moves execute CXNN. -/
def drawn (m : Machine σ) : List Move → Nat
  | [] => 0
  | mv :: rest => (m.draws mv).toNat + (m.move mv).machine.drawn rest

/-- What does not execute CXNN does not touch the random stream. -/
theorem random_move {m : Machine σ} {mv : Move} (h : m.draws mv = false) :
    (m.move mv).machine.random = m.random := by
  cases mv with
  | load program =>
      rcases m.load_cases program with ⟨-, hLoad⟩ | ⟨-, hMachine, -⟩
      · rw [move, hLoad]
      · rw [move, hMachine]
  | reset => rfl
  | step patience =>
      change (m.step patience).machine.random = m.random
      cases hOp : m.nextOperation? with
      | none =>
          obtain ⟨registers, state, hMachine⟩ := step_of_no_operation hOp patience
          rw [hMachine]
      | some op =>
          obtain ⟨w, hWord, hDecode, hMachine, -⟩ := step_of_nextOperation hOp patience
          rw [hMachine]
          refine m.advanced.random_execute patience ?_ w
          rintro rfl
          have hFamily := Operation.ofDigits?_eq_random_iff.1 hDecode
          simp only [draws, hWord, Option.any_some, hFamily, beq_self_eq_true] at h
          cases h
  | tick => rfl
  | poke registers => rfl

/-- A move goes as far in the stream as it draws from it. -/
theorem random_move_eq_drop (m : Machine σ) (mv : Move) :
    (m.move mv).machine.random = m.random.drop (m.draws mv).toNat := by
  cases hDraws : m.draws mv with
  | false => exact random_move hDraws
  | true =>
      cases mv with
      | step patience =>
          obtain ⟨w, hWord, hFamily⟩ := Option.any_eq_true _ _ |>.1 hDraws
          have hMachine := (step_random hWord (eq_of_beq hFamily) patience).2
          change (m.step patience).machine.random = m.random.advance
          rw [hMachine]
      | _ => cases hDraws

/-- The position in the stream is the number of draws. -/
theorem random_replay (m : Machine σ) (moves : List Move) :
    (m.replay moves).random = m.random.drop (m.drawn moves) := by
  induction moves generalizing m with
  | nil => rfl
  | cons mv rest ih =>
      rw [drawn, RandomStream.drop_add, ← random_move_eq_drop]
      exact ih (m.move mv).machine

/-- From power on with a seed, through all that a host can do: after `k` executions of CXNN the
machine is at position `k` of the stream of the seed, the next CXNN puts the byte there under its
mask into its register and changes nothing else but the program counter, and whatever is no CXNN
leaves the stream where it is. -/
theorem random_bytes_in_order {ram : Ram} {device : σ} {seed : UInt64} {m₀ : Machine σ}
    {notices : Array Notice}
    (hPowerOn : powerOn ram device (.ofSeed seed) = .ok (m₀, notices)) (patience : Nat)
    (actions : List Action) :
    m₀.replay (m₀.moves patience actions) = m₀.performAll patience actions ∧
    ∀ before later, m₀.moves patience actions = before ++ later →
      let m := m₀.replay before
      let k := m₀.drawn before
      m.random = (RandomStream.ofSeed seed).drop k ∧
      (∀ w, m.nextWord? = some w → w.digits.family = 0xC → ∀ patience',
        (m.step patience').result = .ok .running ∧
        ∃ pc, pc.toNat = min (m.registers.pc.toNat + 2) 0xFFFF ∧
          (m.step patience').machine =
            { m with
              registers := { m.registers with
                pc
                v := m.registers.v.set w.digits.x
                  ((RandomStream.ofSeed seed).byteAt k &&& UInt8.ofNat w.digits.constant) }
              random := (RandomStream.ofSeed seed).drop (k + 1) }) ∧
      ∀ mv, m.draws mv = false → (m.move mv).machine.random = m.random := by
  refine ⟨replay_moves _ _ _, ?_⟩
  intro before later _ m k
  obtain ⟨-, rfl⟩ := eq_of_powerOn hPowerOn
  have hPosition : m.random = (RandomStream.ofSeed seed).drop k := random_replay _ before
  refine ⟨hPosition, fun w hWord hFamily patience' => ?_, fun mv => random_move⟩
  obtain ⟨hResult, hMachine⟩ := step_random hWord hFamily patience'
  rw [hPosition, RandomStream.advance_drop] at hMachine
  exact ⟨hResult, _, toNat_nextAddress _, hMachine⟩

/-- A draw under the mask 0, a return that fails and a second load, then a draw of the byte at
position 1. -/
theorem random_bytes_in_order_reload :
    ∃ (ram : Ram) (m₀ : Machine (Board DrawCounter Keypad)) (notices : Array Notice)
      (actions : List Action) (before later : List Move),
      powerOn ram (Board.ofParts {} {}) (.ofSeed 7) = .ok (m₀, notices) ∧
      m₀.moves 0 actions = before ++ later ∧
      m₀.drawn before = 1 ∧
      (m₀.replay before).nextWord? = some ⟨0xC2FF⟩ ∧
      ((m₀.replay before).step 0).machine.registers.reg 2 = (RandomStream.ofSeed 7).byteAt 1 ∧
      ((m₀.replay before).step 0).machine.random = (RandomStream.ofSeed 7).drop 2 := by
  let m₀ : Machine (Board DrawCounter Keypad) :=
    fresh 0x300 (Board.ofParts {} {}) (.ofSeed 7)
  let actions : List Action :=
    [.load [0xC1, 0x00, 0x00, 0xEE], .run 2, .tick, .load [0xC2, 0xFF], .step]
  let before : List Move :=
    [.load [0xC1, 0x00, 0x00, 0xEE], .step 0, .step 0, .tick, .load [0xC2, 0xFF]]
  have hPowerOn := powerOn_zeroed (by decide : Layout.programStart < 0x300)
    (Board.ofParts {} {} : Board DrawCounter Keypad) (.ofSeed 7)
  obtain ⟨hMoves, hDrawn, hWord⟩ :
      m₀.moves 0 actions = before ++ [.step 0] ∧ m₀.drawn before = 1 ∧
      (m₀.replay before).nextWord? = some ⟨0xC2FF⟩ := by
    decide +kernel
  obtain ⟨-, hAll⟩ := random_bytes_in_order hPowerOn 0 actions
  obtain ⟨-, hNext, -⟩ := hAll before [.step 0] hMoves
  obtain ⟨-, pc, -, hMachine⟩ := hNext _ hWord (by decide) 0
  rw [hDrawn] at hMachine
  refine ⟨_, _, _, _, _, _, hPowerOn, hMoves, hDrawn, hWord, ?_, ?_⟩
  · have hMask : (RandomStream.ofSeed 7).byteAt 1 &&&
        UInt8.ofNat (Word.digits ⟨0xC2FF⟩).constant = (RandomStream.ofSeed 7).byteAt 1 := by
      decide +kernel
    rw [hMachine, hMask]
    exact Vector.getElem_set_self _
  · rw [hMachine]

end Machine

end Chip8
