import Mathlib.Tactic
import Chip8.Machine.Execute

/-!
# Waiting for a key

A wait asks the device about one key again and again. All that can happen is decided by the sequence
of answers: the first answer that is not a plain no ends the wait, however patient it is, and a wait
whose patience is used up before has seen nothing but no.
-/

namespace Chip8

namespace Device

variable {σ : Type} [Device σ]

/-- The device after `n` questions about a key. -/
def afterQueries (key : UInt8) : Nat → σ → σ
  | 0, d => d
  | n + 1, d => afterQueries key n (pressed d key).state

/-- The answer to question number `n` about a key, counted from 0. -/
def answerAt (key : UInt8) (n : Nat) (d : σ) : Answer Bool :=
  (pressed (afterQueries key n d) key).answer

/-- The first `n` answers are that the key is not down. -/
def Silent (key : UInt8) (n : Nat) (d : σ) : Prop :=
  ∀ k, k < n → answerAt key k d = .value false

/-- Answer number `n` is the first one that is not that the key is not down. -/
structure Decides (key : UInt8) (n : Nat) (d : σ) : Prop where
  silent : Silent key n d
  speaks : answerAt key n d ≠ .value false

theorem silent_zero (key : UInt8) (d : σ) : Silent key 0 d :=
  fun _ h => absurd h (Nat.not_lt_zero _)

theorem silent_succ_iff {key : UInt8} {n : Nat} {d : σ} :
    Silent key (n + 1) d ↔
      (pressed d key).answer = .value false ∧ Silent key n (pressed d key).state := by
  constructor
  · intro h
    exact ⟨h 0 (Nat.succ_pos n), fun k hk => h (k + 1) (Nat.succ_lt_succ hk)⟩
  · rintro ⟨hFirst, hRest⟩ k hk
    cases k with
    | zero => exact hFirst
    | succ k => exact hRest k (Nat.lt_of_succ_lt_succ hk)

theorem decides_succ_iff {key : UInt8} {n : Nat} {d : σ} :
    Decides key (n + 1) d ↔
      (pressed d key).answer = .value false ∧ Decides key n (pressed d key).state := by
  constructor
  · rintro ⟨hSilent, hSpeaks⟩
    obtain ⟨hFirst, hRest⟩ := silent_succ_iff.1 hSilent
    exact ⟨hFirst, hRest, hSpeaks⟩
  · rintro ⟨hFirst, hSilent, hSpeaks⟩
    exact ⟨silent_succ_iff.2 ⟨hFirst, hSilent⟩, hSpeaks⟩

/-- The place of the deciding answer is unique. -/
theorem Decides.unique {key : UInt8} {n k : Nat} {d : σ} (hn : Decides key n d)
    (hk : Decides key k d) : n = k := by
  rcases Nat.lt_trichotomy n k with h | h | h
  · exact absurd (hk.silent n h) hn.speaks
  · exact h
  · exact absurd (hn.silent k h) hk.speaks

/-- Within any patience either an answer decides or every answer is no. -/
theorem decides_or_silent (key : UInt8) (patience : Nat) (d : σ) :
    (∃ n, n < patience ∧ Decides key n d) ∨ Silent key patience d := by
  induction patience generalizing d with
  | zero => exact Or.inr (silent_zero key d)
  | succ patience ih =>
      by_cases hFirst : (pressed d key).answer = .value false
      · rcases ih (pressed d key).state with ⟨n, hn, hDecides⟩ | hSilent
        · exact Or.inl ⟨n + 1, Nat.succ_lt_succ hn, decides_succ_iff.2 ⟨hFirst, hDecides⟩⟩
        · exact Or.inr (silent_succ_iff.2 ⟨hFirst, hSilent⟩)
      · exact Or.inl ⟨0, Nat.succ_pos _, silent_zero key d, hFirst⟩

end Device

namespace KeyWait

open Device

variable {σ : Type} [Device σ]

/-- A wait that meets its deciding answer ends there: further patience is not used. -/
theorem await_of_decides {key : UInt8} {n patience : Nat} {d : σ} (h : Decides key n d)
    (hPatience : n < patience) (effects : Effects) :
    (await key patience d effects).device = afterQueries key (n + 1) d ∧
      (await key patience d effects).result =
        (answerAt key n d).toExcept.map (fun _ => ()) ∧
      (await key patience d effects).effects.pauses.size = effects.pauses.size + n ∧
      await key patience d effects = await key (n + 1) d effects := by
  induction n generalizing patience d effects with
  | zero =>
      obtain ⟨more, rfl⟩ := Nat.exists_eq_succ_of_ne_zero (Nat.ne_of_gt hPatience)
      have hSpeaks : (pressed d key).answer ≠ .value false := h.speaks
      simp only [await, afterQueries, answerAt, Effects.withNotices]
      cases hAnswer : (pressed d key).answer with
      | value answer =>
          cases answer with
          | true => exact ⟨rfl, rfl, rfl, rfl⟩
          | false => exact absurd hAnswer hSpeaks
      | failed error => exact ⟨rfl, rfl, rfl, rfl⟩
      | aborted cause => exact ⟨rfl, rfl, rfl, rfl⟩
  | succ n ih =>
      have hPositive : 0 < patience := Nat.zero_lt_of_lt hPatience
      obtain ⟨more, rfl⟩ := Nat.exists_eq_succ_of_ne_zero (Nat.ne_of_gt hPositive)
      obtain ⟨hFirst, hRest⟩ := decides_succ_iff.1 h
      obtain ⟨hDevice, hResult, hPauses, hSame⟩ := ih hRest (Nat.lt_of_succ_lt_succ hPatience)
        ((effects.withNotices (pressed d key).notices).withPause
          (pollInterval (pressed d key).state))
      rw [await, await]
      simp only [hFirst]
      refine ⟨hDevice, hResult, ?_, hSame⟩
      rw [hPauses]
      simp only [Effects.withPause, Effects.withNotices, Array.size_push]
      omega

/-- A wait that hears nothing but no uses up its patience. -/
theorem await_of_silent {key : UInt8} {patience : Nat} {d : σ} (h : Silent key patience d)
    (effects : Effects) :
    (await key patience d effects).device = afterQueries key patience d ∧
      (await key patience d effects).result = .error .unanswered := by
  induction patience generalizing d effects with
  | zero => exact ⟨rfl, rfl⟩
  | succ patience ih =>
      obtain ⟨hFirst, hRest⟩ := silent_succ_iff.1 h
      rw [await]
      simp only [hFirst]
      exact ih hRest _

/-- More patience than a wait needed is not used. -/
theorem await_of_le {key : UInt8} {patience more : Nat} {d : σ} {effects : Effects}
    (hAnswered : (await key patience d effects).result ≠ .error .unanswered)
    (hMore : patience ≤ more) : await key more d effects = await key patience d effects := by
  rcases decides_or_silent key patience d with ⟨n, hPatience, hDecides⟩ | hSilent
  · have hLess := (await_of_decides hDecides hPatience effects).2.2.2
    have hEnough := (await_of_decides hDecides (hPatience.trans_le hMore) effects).2.2.2
    exact hEnough.trans hLess.symm
  · exact absurd (await_of_silent hSilent effects).2 hAnswered

end KeyWait

end Chip8
