import Mathlib.Tactic
import Chip8.Device.Keypad
import Chip8.Proofs.Reachable
import Chip8.Proofs.Recording

/-!
# More memory changes nothing

Two machines that differ only in how much memory they have do the same, as long as the smaller one
does not fail for want of memory: they answer alike, ask their devices the same questions and stay
alike, and the larger one never writes the memory that the smaller one does not have.
-/

namespace Chip8

/-- A memory that agrees with a smaller one is that one with more bytes above. -/
theorem Ram.eq_extend {r r' : Ram} (hLarger : r.capacity ≤ r'.capacity)
    (hCells : ∀ a, a < r.capacity → r'.cell a = r.cell a) :
    r' = r.extend (r'.bytes.extract r.capacity r'.capacity) := by
  obtain ⟨bytes⟩ := r
  obtain ⟨bytes'⟩ := r'
  have hSizes : bytes.size ≤ bytes'.size := hLarger
  refine congrArg Ram.mk (Array.ext_getElem? fun a => ?_)
  change bytes'[a]? = (bytes ++ bytes'.extract bytes.size bytes'.size)[a]?
  rw [Array.getElem?_append]
  split
  · rename_i hInside
    have hCell := hCells a hInside
    rw [cell_of_lt (hInside.trans_le hSizes), cell_of_lt hInside] at hCell
    rw [Array.getElem?_eq_getElem (hInside.trans_le hSizes), Array.getElem?_eq_getElem hInside,
      hCell]
  · rename_i hAbove
    rw [Array.getElem?_extract, Nat.add_sub_cancel' (Nat.le_of_not_lt hAbove), Nat.min_self]
    split
    · rfl
    · exact Array.getElem?_eq_none (by omega)

/-- The machines agree in everything but the memory from `capacity` on. -/
structure Machine.AlikeBelow {σ : Type} (capacity : Nat) (m m' : Machine σ) : Prop where
  cells : ∀ a, a < capacity → m'.ram.cell a = m.ram.cell a
  registers : m'.registers = m.registers
  depth : m'.depth = m.depth
  state : m'.state = m.state
  random : m'.random = m.random
  device : m'.device = m.device

/-- The outcomes agree in everything but the memory from `capacity` on. -/
structure Outcome.AlikeBelow {σ α : Type} (capacity : Nat) (o o' : Outcome σ α) : Prop where
  machine : o.machine.AlikeBelow capacity o'.machine
  effects : o'.effects = o.effects
  result : o'.result = o.result

variable {σ : Type} [Device σ]

namespace Embedding

/-- The embedding that only adds memory. -/
def enlarging (above : Array UInt8) : Embedding σ σ :=
  { device := .id σ, above }

theorem alikeBelow_enlarging (above : Array UInt8) (m : Machine σ) :
    m.AlikeBelow m.ram.capacity ((enlarging above).machine m) where
  cells _ hInside := Ram.cell_extend hInside above
  registers := rfl
  depth := rfl
  state := rfl
  random := rfl
  device := rfl

end Embedding

namespace Machine

/-- A larger machine that is alike is an enlarged one. -/
theorem AlikeBelow.eq_enlarging {m m' : Machine σ} (h : m.AlikeBelow m.ram.capacity m')
    (hLarger : m.ram.capacity ≤ m'.ram.capacity) :
    ∃ above, m' = (Embedding.enlarging above).machine m := by
  refine ⟨m'.ram.bytes.extract m.ram.capacity m'.ram.capacity, ?_⟩
  obtain ⟨ram, registers, depth, state, random, device⟩ := m'
  obtain ⟨hCells, rfl, rfl, rfl, rfl, rfl⟩ := h
  exact congrArg (fun ram => { m with ram }) (Ram.eq_extend hLarger hCells)

theorem capacity_of_mem_answers {m : Machine σ} {patience : Nat} {actions : List Action}
    {o : Outcome σ (Option RunState)} (h : o ∈ m.answers patience actions) :
    o.machine.ram.capacity = m.ram.capacity := by
  induction actions generalizing m with
  | nil => exact absurd h List.not_mem_nil
  | cons a rest ih =>
      have hFirst : (m.answer patience a).machine.ram.capacity = m.ram.capacity := by
        rw [machine_answer, capacity_perform]
      rcases List.mem_cons.1 h with rfl | hLater
      · exact hFirst
      · exact (ih hLater).trans hFirst

/-- The questions of an enlarged machine are those of the machine. -/
theorem asks_enlarging {m : Machine σ} {patience : Nat} {actions : List Action}
    (hEnough : ∀ o ∈ m.answers patience actions, o.lacksMemory = false) (above : Array UInt8) :
    ((Embedding.enlarging above).machine m).asks patience actions = m.asks patience actions := by
  have hKeeps : ∀ o ∈ m.recorded.answers patience actions,
      (Embedding.enlarging above).Keeps o := by
    intro o ho hLacks
    have hForgot : o.lacksMemory = false := by
      refine hEnough (Embedding.forgetting.outcome o) ?_
      rw [answers_recorded]
      exact List.mem_map_of_mem ho
    rw [hForgot] at hLacks
    cases hLacks
  change (((Embedding.enlarging above).machine m.recorded).performAll patience
    actions).device.calls = _
  rw [Embedding.performAll_embed _ hKeeps]
  rfl

/-- As long as no action fails for want of memory, a machine with more memory above does the same
as the machine: every action has the same effects and the same result, the machines stay alike and
ask the same questions in the same order, and the memory above stays as it was. -/
theorem more_memory_changes_nothing {m m' : Machine σ}
    (hLarger : m.ram.capacity ≤ m'.ram.capacity) (hAlike : m.AlikeBelow m.ram.capacity m')
    (patience : Nat) (actions : List Action)
    (hEnough : ∀ o ∈ m.answers patience actions, o.lacksMemory = false) :
    List.Forall₂
      (fun o o' => o.AlikeBelow m.ram.capacity o' ∧
        ∀ a, m.ram.capacity ≤ a → o'.machine.ram.cell a = m'.ram.cell a)
      (m.answers patience actions) (m'.answers patience actions) ∧
    m'.asks patience actions = m.asks patience actions := by
  obtain ⟨above, rfl⟩ := hAlike.eq_enlarging hLarger
  have hAnswers : ((Embedding.enlarging above).machine m).answers patience actions = _ :=
    Embedding.answers_embed _ fun o ho hLacks => nomatch (hEnough o ho).symm.trans hLacks
  refine ⟨?_, asks_enlarging hEnough above⟩
  rw [hAnswers, List.forall₂_map_right_iff, List.forall₂_same]
  intro o ho
  have hCapacity := capacity_of_mem_answers ho
  have hOutcome := Embedding.alikeBelow_enlarging above o.machine
  rw [hCapacity] at hOutcome
  refine ⟨⟨hOutcome, rfl, rfl⟩, fun a hAbove => ?_⟩
  have hAbove' : o.machine.ram.capacity ≤ a := hCapacity ▸ hAbove
  change (o.machine.ram.extend above).cell a = (m.ram.extend above).cell a
  rw [Ram.cell_extend_above hAbove', Ram.cell_extend_above hAbove, hCapacity]

/-- A question about a key, a store and a return from no call, with three bytes more and without
them. -/
theorem more_memory_changes_nothing_underflow :
    ∃ (m m' : Machine (Board DrawCounter Keypad)) (actions : List Action),
      m.ram.capacity = 0x300 ∧ m'.ram.capacity = 0x303 ∧
      m.AlikeBelow m.ram.capacity m' ∧
      (∀ o ∈ m.answers 0 actions, o.lacksMemory = false) ∧
      (m.answers 0 actions).map Outcome.result =
        [.ok none, .ok (some .running), .error (.fault .stackUnderflow)] ∧
      List.Forall₂
        (fun o o' => o.AlikeBelow m.ram.capacity o' ∧
          ∀ a, m.ram.capacity ≤ a → o'.machine.ram.cell a = m'.ram.cell a)
        (m.answers 0 actions) (m'.answers 0 actions) ∧
      m'.asks 0 actions = [.pressed 0] := by
  let m : Machine (Board DrawCounter Keypad) := fresh 0x300 (Board.ofParts {} {}) default
  let m' := (Embedding.enlarging #[1, 2, 3]).machine m
  let actions : List Action :=
    [.load [0xE0, 0x9E, 0xA2, 0xFD, 0xF2, 0x55, 0x00, 0xEE], .step, .run 4]
  have hCapacity : m.ram.capacity = 0x300 := capacity_fresh _ _ _
  have hCapacity' : m'.ram.capacity = 0x303 := by
    refine (Ram.capacity_extend _ _).trans ?_
    rw [hCapacity]
    rfl
  have hLarger : m.ram.capacity ≤ m'.ram.capacity := by
    rw [hCapacity, hCapacity']
    decide
  have hAlike : m.AlikeBelow m.ram.capacity m' := Embedding.alikeBelow_enlarging _ m
  have hEnough : ∀ o ∈ m.answers 0 actions, o.lacksMemory = false := by decide +kernel
  obtain ⟨hAnswers, hAsks⟩ := more_memory_changes_nothing hLarger hAlike 0 actions hEnough
  refine ⟨m, m', actions, hCapacity, hCapacity', hAlike, hEnough, by decide +kernel, hAnswers, ?_⟩
  rw [hAsks]
  decide +kernel

end Machine

end Chip8
