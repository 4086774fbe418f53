import Mathlib.Tactic
import Chip8.Proofs.WordStack

/-!
# A stack in memory is a bounded list

`StackBounds.perform` is a stack of words as a list, the newest first, with the bounds that its
window has: a number of slots, the last 16-bit address and the end of memory. A stack in memory
answers every sequence of actions as that list does (`stack_is_bounded_list`), wherever its window
lies, as long as nobody else writes into its live words.
-/

namespace Chip8

/-- What can be done with a stack and with the memory that it lies in. -/
inductive StackAction where
  | push (value : UInt16)
  | pop
  | clear
  /-- A write to the memory that does not go through the stack. -/
  | write (addr : Nat) (data : List UInt8)

namespace StackAction

variable {State Answer : Type}

/-- The state after actions performed one after the other. -/
def after (perform : State → StackAction → Answer × State) (s : State)
    (actions : List StackAction) : State :=
  actions.foldl (fun s a => (perform s a).2) s

@[simp]
theorem after_cons (perform : State → StackAction → Answer × State) (s : State) (a : StackAction)
    (rest : List StackAction) : after perform s (a :: rest) = after perform (perform s a).2 rest :=
  rfl

/-- The answers to actions performed one after the other. -/
def answers (perform : State → StackAction → Answer × State) (s : State) :
    List StackAction → List Answer
  | [] => []
  | a :: rest => (perform s a).1 :: answers perform (perform s a).2 rest

end StackAction

/-- A stack together with the memory that it lies in. -/
structure StackInRam where
  stack : CallStack
  ram : Ram

namespace StackInRam

open StackAction

/-- A stack of which no word is live. -/
def empty (base : UInt16) (slots : Nat) (ram : Ram) : StackInRam :=
  ⟨{ base, slots }, ram⟩

/-- Performs an action; a pop answers with its word. -/
def perform (s : StackInRam) : StackAction → Except Stop (Option UInt16) × StackInRam
  | .push value =>
    match s.stack.push s.ram value with
    | .ok (stack, ram) => (.ok none, ⟨stack, ram⟩)
    | .error cause => (.error cause, s)
  | .pop =>
    match s.stack.pop s.ram with
    | .ok (value, stack) => (.ok (some value), { s with stack })
    | .error cause => (.error cause, s)
  | .clear => (.ok none, { s with stack := s.stack.clear })
  | .write addr data =>
    match s.ram.write addr data with
    | .ok ram => (.ok none, { s with ram })
    | .error fault => (.error (.fault fault), s)

/-- An action that fails changes nothing. -/
theorem perform_of_error {s : StackInRam} {a : StackAction} {cause : Stop}
    (h : (s.perform a).1 = .error cause) : (s.perform a).2 = s := by
  cases a with
  | push value =>
      simp only [perform] at h ⊢
      split at h
      · cases h
      · rfl
  | pop =>
      simp only [perform] at h ⊢
      split at h
      · cases h
      · rfl
  | clear => cases h
  | write addr data =>
      simp only [perform] at h ⊢
      split at h
      · cases h
      · rfl

/-- An action writes to no live word, other than through the stack. -/
def Spares (s : StackInRam) : StackAction → Prop
  | .write addr data =>
    addr + data.length ≤ s.ram.capacity → ∀ a, addr ≤ a → a < addr + data.length →
      a < s.stack.base.toNat ∨ s.stack.base.toNat + 2 * s.stack.depth ≤ a
  | _ => True

/-- So does every action of a sequence, when its turn comes. -/
def WritesSpare (s : StackInRam) : List StackAction → Prop
  | [] => True
  | a :: rest => s.Spares a ∧ (s.perform a).2.WritesSpare rest

theorem writesSpare_of_forall {actions : List StackAction}
    (h : ∀ a ∈ actions, ∀ s : StackInRam, s.Spares a) (s : StackInRam) : s.WritesSpare actions := by
  induction actions generalizing s with
  | nil => trivial
  | cons a rest ih =>
      exact ⟨h a List.mem_cons_self s, ih (fun a' ha' => h a' (List.mem_cons_of_mem a ha')) _⟩

theorem writesSpare_pushes (values : List UInt16) (s : StackInRam) :
    s.WritesSpare (values.map .push) := by
  apply writesSpare_of_forall
  intro a ha s
  obtain ⟨value, -, rfl⟩ := List.mem_map.1 ha
  trivial

theorem writesSpare_pops (n : Nat) (s : StackInRam) :
    s.WritesSpare (List.replicate n .pop) := by
  apply writesSpare_of_forall
  intro a ha s
  rw [List.eq_of_mem_replicate ha]
  trivial

end StackInRam

/-- What bounds a stack: where its window starts, its slots and the size of the memory. -/
structure StackBounds where
  base : Nat
  slots : Nat
  capacity : Nat

namespace StackBounds

/-- Where the word above `xs` goes. -/
def next (b : StackBounds) (xs : List UInt16) : Nat :=
  b.base + 2 * xs.length

/-- A stack of words as a list, the newest first. -/
def perform (b : StackBounds) (xs : List UInt16) :
    StackAction → Except Fault (Option UInt16) × List UInt16
  | .push value =>
    if b.slots ≤ xs.length then (.error (.stackOverflow b.slots), xs)
    else if 0xFFFF < b.next xs then (.error (.addressOutOfRange (b.next xs) 2 0x10000), xs)
    else if b.capacity < b.next xs + 2 then
      (.error (.addressOutOfRange (b.next xs) 2 b.capacity), xs)
    else (.ok none, value :: xs)
  | .pop =>
    match xs with
    | [] => (.error .stackUnderflow, [])
    | x :: older => (.ok (some x), older)
  | .clear => (.ok none, [])
  | .write addr data =>
    if addr + data.length ≤ b.capacity then (.ok none, xs)
    else (.error (.addressOutOfRange addr data.length b.capacity), xs)

open StackAction

theorem perform_push_of_ok {b : StackBounds} {xs : List UInt16} {value : UInt16}
    (h : (b.perform xs (.push value)).1 = .ok none) :
    (b.perform xs (.push value)).2 = value :: xs := by
  simp only [perform] at h ⊢
  split_ifs at h ⊢
  rfl

/-- Words that were all pushed lie above the older ones, the last of them on top. -/
theorem after_pushes {b : StackBounds} {xs values : List UInt16}
    (h : ∀ answer ∈ answers b.perform xs (values.map .push), answer = .ok none) :
    after b.perform xs (values.map .push) = values.reverse ++ xs := by
  induction values generalizing xs with
  | nil => rfl
  | cons value rest ih =>
      have hPushed := perform_push_of_ok (h _ List.mem_cons_self)
      have hRest := ih fun answer hAnswer => h answer (List.mem_cons_of_mem _ hAnswer)
      rw [List.map_cons, after_cons, hRest, hPushed, List.reverse_cons, List.append_assoc]
      rfl

/-- Pops give back what lies on top. -/
theorem answers_pops (b : StackBounds) (top xs : List UInt16) :
    answers b.perform (top ++ xs) (List.replicate top.length .pop) =
      top.map fun value => .ok (some value) := by
  induction top with
  | nil => rfl
  | cons value rest ih => exact congrArg (.ok (some value) :: ·) ih

end StackBounds

open StackAction

/-- A stack holds the words `xs`, the newest first. -/
structure StackInRam.Represents (s : StackInRam) (b : StackBounds) (xs : List UInt16) : Prop where
  base : s.stack.base.toNat = b.base
  slots : s.stack.slots = b.slots
  capacity : s.ram.capacity = b.capacity
  depth : s.stack.depth = xs.length
  addressed : ∀ slot < xs.length, b.base + 2 * slot < 0x10000
  words : s.ram.HoldsWords b.base xs

namespace StackInRam.Represents

variable {s : StackInRam} {b : StackBounds} {xs : List UInt16}

theorem wordStart (h : s.Represents b xs) (slot : Nat) :
    s.stack.wordStart slot = b.base + 2 * slot := by
  rw [CallStack.wordStart, h.base]
  rfl

theorem wordStart_depth (h : s.Represents b xs) :
    s.stack.wordStart s.stack.depth = b.next xs := by
  rw [h.wordStart, h.depth, StackBounds.next]

/-- The live words have 16-bit addresses, so the slot above them can be counted. -/
theorem next_lt (h : s.Represents b xs) : b.next xs < Checked.sizeLimit := by
  have hLimit : 0x10002 < Checked.sizeLimit := by decide
  have hBase := s.stack.base.toNat_lt
  rw [h.base] at hBase
  rw [StackBounds.next]
  cases xs with
  | nil => exact Nat.lt_trans hBase (by omega)
  | cons x older =>
      have hTop := h.addressed older.length (Nat.lt_succ_self _)
      rw [List.length_cons]
      omega

/-- What a push comes to. -/
theorem push_eq (h : s.Represents b xs) (value : UInt16) :
    s.stack.push s.ram value =
      if b.slots ≤ xs.length then .error (.fault (.stackOverflow b.slots))
      else if 0xFFFF < b.next xs then
        .error (.fault (.addressOutOfRange (b.next xs) 2 0x10000))
      else if b.capacity < b.next xs + 2 then
        .error (.fault (.addressOutOfRange (b.next xs) 2 b.capacity))
      else .ok ({ s.stack with depth := xs.length + 1 },
        ⟨Ram.store s.ram.bytes (b.next xs) (Ram.wordBytes value)⟩) := by
  have hStart := h.wordStart_depth
  have hPush := CallStack.push_eq (hStart ▸ h.next_lt) s.ram value
  rw [hStart, h.depth, h.slots, Ram.outOfRange, h.capacity] at hPush
  rw [hPush]
  by_cases hFull : b.slots ≤ xs.length
  · rw [if_pos hFull, if_pos hFull]
  rw [if_neg hFull, if_neg hFull]
  refine if_congr Iff.rfl rfl ?_
  by_cases hFits : b.next xs + 2 ≤ b.capacity
  · rw [if_pos hFits, if_neg (Nat.not_lt.2 hFits)]
    simp only [h.slots]
  · rw [if_neg hFits, if_pos (Nat.lt_of_not_le hFits)]

theorem pop_nil (h : s.Represents b []) : s.stack.pop s.ram = .error (.fault .stackUnderflow) :=
  CallStack.pop_empty h.depth s.ram

/-- What a pop comes to, unless the stack is empty. -/
theorem pop_cons {x : UInt16} {older : List UInt16} (h : s.Represents b (x :: older)) :
    s.stack.pop s.ram = .ok (x, { s.stack with depth := older.length }) := by
  have hStart := h.wordStart older.length
  apply CallStack.pop_eq h.depth
  · rw [hStart]
    exact h.addressed older.length (Nat.lt_succ_self _)
  · rw [hStart]
    exact h.words.1

theorem pending (h : s.Represents b xs) : s.stack.pending s.ram = .ok xs.reverse := by
  apply CallStack.pending_eq h.depth
  · intro slot hSlot
    rw [h.wordStart]
    exact h.addressed slot hSlot
  · rw [h.base]
    exact h.words

/-- The stack with a word more, after a push for which there is room. -/
theorem pushed (h : s.Represents b xs) (hSmall : b.next xs < 0x10000)
    (hFits : b.next xs + 2 ≤ b.capacity) (value : UInt16) :
    Represents ⟨{ s.stack with depth := xs.length + 1 },
      ⟨Ram.store s.ram.bytes (b.next xs) (Ram.wordBytes value)⟩⟩ b (value :: xs) where
  base := h.base
  slots := h.slots
  capacity := (Ram.capacity_store _ _ _).trans h.capacity
  depth := rfl
  addressed slot hSlot := by
    rw [StackBounds.next] at hSmall
    rw [List.length_cons] at hSlot
    omega
  words := h.words.store (hFits.trans_eq h.capacity.symm) value

/-- Writes that spare the live words are not noticed. -/
theorem written (h : s.Represents b xs) {addr : Nat} {data : List UInt8}
    (hFits : addr + data.length ≤ s.ram.capacity) (hSpared : s.Spares (.write addr data)) :
    Represents ⟨s.stack, ⟨Ram.store s.ram.bytes addr data⟩⟩ b xs where
  base := h.base
  slots := h.slots
  capacity := (Ram.capacity_store _ _ _).trans h.capacity
  depth := h.depth
  addressed := h.addressed
  words := by
    refine h.words.congr (Ram.capacity_store _ _ _) ?_
    intro a hFrom hTo
    rw [Ram.cell_store _ hFits, if_neg]
    rintro ⟨hLow, hHigh⟩
    have hOutside := hSpared hFits a hLow hHigh
    rw [h.base, h.depth] at hOutside
    omega

/-- One action: the stack answers as the list does and goes on holding the list. -/
theorem perform (h : s.Represents b xs) {a : StackAction} (hSpared : s.Spares a) :
    (s.perform a).1 = (b.perform xs a).1.mapError .fault ∧
      (s.perform a).2.Represents b (b.perform xs a).2 := by
  cases a with
  | push value =>
      simp only [StackInRam.perform, StackBounds.perform, h.push_eq value]
      by_cases hFull : b.slots ≤ xs.length
      · simp only [if_pos hFull]
        exact ⟨rfl, h⟩
      by_cases hLarge : 0xFFFF < b.next xs
      · simp only [if_neg hFull, if_pos hLarge]
        exact ⟨rfl, h⟩
      by_cases hShort : b.capacity < b.next xs + 2
      · simp only [if_neg hFull, if_neg hLarge, if_pos hShort]
        exact ⟨rfl, h⟩
      · simp only [if_neg hFull, if_neg hLarge, if_neg hShort]
        exact ⟨rfl, h.pushed (Nat.lt_succ_of_le (Nat.not_lt.1 hLarge)) (Nat.not_lt.1 hShort) value⟩
  | pop =>
      cases xs with
      | nil =>
          simp only [StackInRam.perform, h.pop_nil]
          exact ⟨rfl, h⟩
      | cons x older =>
          simp only [StackInRam.perform, h.pop_cons]
          refine ⟨rfl, h.base, h.slots, h.capacity, rfl, ?_, h.words.2⟩
          exact fun slot hSlot => h.addressed slot (Nat.lt_succ_of_lt hSlot)
  | clear => exact ⟨rfl, h.base, h.slots, h.capacity, rfl, (fun _ hSlot => nomatch hSlot), trivial⟩
  | write addr data =>
      simp only [StackInRam.perform, StackBounds.perform, Ram.write, ← h.capacity]
      by_cases hFits : addr + data.length ≤ s.ram.capacity
      · simp only [if_pos hFits]
        exact ⟨rfl, h.written hFits hSpared⟩
      · simp only [if_neg hFits]
        exact ⟨rfl, h⟩

/-- So it does through every sequence of actions. -/
theorem follow (h : s.Represents b xs) {actions : List StackAction}
    (hSpared : s.WritesSpare actions) :
    answers StackInRam.perform s actions =
        (answers b.perform xs actions).map (Except.mapError Stop.fault) ∧
      (after StackInRam.perform s actions).Represents b (after b.perform xs actions) := by
  -- Each action moves the stack and the list, so both vary in the induction.
  induction actions generalizing s xs with
  | nil => exact ⟨rfl, h⟩
  | cons a rest ih =>
      obtain ⟨hAnswer, hNext⟩ := h.perform hSpared.1
      obtain ⟨hAnswers, hAfter⟩ := ih hNext hSpared.2
      refine ⟨?_, hAfter⟩
      rw [answers, answers, List.map_cons, hAnswer, hAnswers]

theorem empty (base : UInt16) (slots : Nat) (ram : Ram) :
    (StackInRam.empty base slots ram).Represents ⟨base.toNat, slots, ram.capacity⟩ [] where
  base := rfl
  slots := rfl
  capacity := rfl
  depth := rfl
  addressed := fun _ hSlot => nomatch hSlot
  words := trivial

theorem push_overflow_iff (h : s.Represents b xs) (value : UInt16) :
    (∃ slots, s.stack.push s.ram value = .error (.fault (.stackOverflow slots))) ↔
      b.slots ≤ xs.length := by
  rw [h.push_eq]
  split_ifs with hFull hLarge hShort
  · exact iff_of_true ⟨_, rfl⟩ hFull
  · exact iff_of_false (fun ⟨_, hPush⟩ => nomatch hPush) hFull
  · exact iff_of_false (fun ⟨_, hPush⟩ => nomatch hPush) hFull
  · exact iff_of_false (fun ⟨_, hPush⟩ => nomatch hPush) hFull

theorem push_outOfRange_iff (h : s.Represents b xs) (value : UInt16) :
    (∃ addr len capacity,
        s.stack.push s.ram value = .error (.fault (.addressOutOfRange addr len capacity))) ↔
      xs.length < b.slots ∧ (0xFFFF < b.next xs ∨ b.capacity < b.next xs + 2) := by
  rw [h.push_eq]
  split_ifs with hFull hLarge hShort
  · exact iff_of_false (fun ⟨_, _, _, hPush⟩ => nomatch hPush) fun hRoom => by omega
  · exact iff_of_true ⟨_, _, _, rfl⟩ ⟨Nat.lt_of_not_le hFull, Or.inl hLarge⟩
  · exact iff_of_true ⟨_, _, _, rfl⟩ ⟨Nat.lt_of_not_le hFull, Or.inr hShort⟩
  · exact iff_of_false (fun ⟨_, _, _, hPush⟩ => nomatch hPush) fun hRefused => by omega

/-- A push succeeds where there is room; then it writes its own two bytes. -/
theorem push_of_room (h : s.Represents b xs) (hRoom : xs.length < b.slots)
    (hSmall : b.next xs ≤ 0xFFFF) (hFits : b.next xs + 2 ≤ b.capacity) (value : UInt16) :
    ∃ stack ram, s.stack.push s.ram value = .ok (stack, ram) ∧
      Represents ⟨stack, ram⟩ b (value :: xs) ∧
      ∀ a, a < b.next xs ∨ b.next xs + 2 ≤ a → ram.cell a = s.ram.cell a := by
  refine ⟨_, _, ?_, h.pushed (Nat.lt_succ_of_le hSmall) hFits value, ?_⟩
  · rw [h.push_eq, if_neg (Nat.not_le.2 hRoom), if_neg (Nat.not_lt.2 hSmall),
      if_neg (Nat.not_lt.2 hFits)]
  · intro a hOutside
    have hLength : (Ram.wordBytes value).length = 2 := rfl
    rw [Ram.cell_store _ (hFits.trans_eq h.capacity.symm), if_neg]
    omega

/-- Words that were all pushed come back in reverse order. -/
theorem pops_of_pushes (h : s.Represents b xs) {values : List UInt16}
    (hPushed : ∀ answer ∈ answers StackInRam.perform s (values.map .push), answer = .ok none) :
    answers StackInRam.perform (after StackInRam.perform s (values.map .push))
        (List.replicate values.length .pop) =
      values.reverse.map fun value => .ok (some value) := by
  obtain ⟨hAnswers, hAfter⟩ := h.follow (writesSpare_pushes values s)
  have hList : ∀ answer ∈ answers b.perform xs (values.map .push), answer = .ok none := by
    intro answer hAnswer
    have hOk := hPushed _ (hAnswers ▸ List.mem_map_of_mem hAnswer)
    cases answer with
    | error fault => cases hOk
    | ok value => exact congrArg Except.ok (Except.ok.inj hOk)
  -- From here on only the list matters: the pushes left the values reversed on top.
  rw [StackBounds.after_pushes hList] at hAfter
  have hPops := (hAfter.follow (writesSpare_pops values.length _)).1
  have hTop := b.answers_pops values.reverse xs
  rw [List.length_reverse] at hTop
  rw [hPops, hTop, List.map_map]
  rfl

end StackInRam.Represents

/-- A stack in memory is a list of words. From an empty stack, whose window may lie anywhere and run
off the end of memory or of the 16-bit addresses, through all actions that write into no live word
other than through the stack: it answers as the list does, and holds it. A push fails for want of a
slot, or else for want of an address or of memory, or else it grows the list and changes its own two
bytes only; a pop fails for want of a word, or else it takes the newest one. What fails changes
nothing, and words that were pushed come back in reverse order. -/
theorem stack_is_bounded_list (base : UInt16) (slots : Nat) (ram : Ram)
    (actions : List StackAction)
    (hSpared : (StackInRam.empty base slots ram).WritesSpare actions) :
    let b : StackBounds := ⟨base.toNat, slots, ram.capacity⟩
    let s := after StackInRam.perform (.empty base slots ram) actions
    let xs := after b.perform [] actions
    answers StackInRam.perform (.empty base slots ram) actions =
      (answers b.perform [] actions).map (Except.mapError Stop.fault) ∧
    s.stack.depth = xs.length ∧
    s.stack.pending s.ram = .ok xs.reverse ∧
    (∀ value,
      ((∃ n, s.stack.push s.ram value = .error (.fault (.stackOverflow n))) ↔
        slots ≤ xs.length) ∧
      ((∃ addr len capacity,
          s.stack.push s.ram value = .error (.fault (.addressOutOfRange addr len capacity))) ↔
        xs.length < slots ∧
          (0xFFFF < base.toNat + 2 * xs.length ∨ ram.capacity < base.toNat + 2 * xs.length + 2)) ∧
      (xs.length < slots → base.toNat + 2 * xs.length ≤ 0xFFFF →
        base.toNat + 2 * xs.length + 2 ≤ ram.capacity →
        ∃ stack' ram', s.stack.push s.ram value = .ok (stack', ram') ∧
          stack'.depth = xs.length + 1 ∧
          stack'.pending ram' = .ok (xs.reverse ++ [value]) ∧
          ram'.capacity = ram.capacity ∧
          ∀ a, a < base.toNat + 2 * xs.length ∨ base.toNat + 2 * xs.length + 2 ≤ a →
            ram'.cell a = s.ram.cell a)) ∧
    (s.stack.pop s.ram = .error (.fault .stackUnderflow) ↔ xs = []) ∧
    (∀ x older, xs = x :: older →
      s.stack.pop s.ram = .ok (x, { s.stack with depth := older.length })) ∧
    (s.perform .clear).2.stack.pending (s.perform .clear).2.ram = .ok [] ∧
    (s.perform .clear).2.ram = s.ram ∧
    (∀ a cause, (s.perform a).1 = .error cause → (s.perform a).2 = s) ∧
    (∀ values : List UInt16,
      (∀ answer ∈ answers StackInRam.perform s (values.map .push), answer = .ok none) →
      answers StackInRam.perform (after StackInRam.perform s (values.map .push))
          (List.replicate values.length .pop) =
        values.reverse.map fun value => .ok (some value)) := by
  intro b s xs
  obtain ⟨hAnswers, hHolds⟩ := (StackInRam.Represents.empty base slots ram).follow hSpared
  have h : s.Represents b xs := hHolds
  refine ⟨hAnswers, h.depth, h.pending, ?_, ?_, ?_, rfl, rfl, ?_, ?_⟩
  · intro value
    refine ⟨h.push_overflow_iff value, h.push_outOfRange_iff value, ?_⟩
    intro hRoom hSmall hFits
    obtain ⟨stack', ram', hPush, hGrown, hCells⟩ := h.push_of_room hRoom hSmall hFits value
    exact ⟨stack', ram', hPush, hGrown.depth, hGrown.pending.trans (by rw [List.reverse_cons]),
      hGrown.capacity, hCells⟩
  · constructor
    · intro hPop
      cases hList : xs with
      | nil => rfl
      | cons x older =>
          rw [hList] at h
          rw [h.pop_cons] at hPop
          cases hPop
    · intro hList
      rw [hList] at h
      exact h.pop_nil
  · intro x older hList
    rw [hList] at h
    exact h.pop_cons
  · exact fun a cause hFails => StackInRam.perform_of_error hFails
  · exact fun values hPushed => h.pops_of_pushes hPushed

/-- A window of odd base whose second slot lies past the end of memory; a write behind the live word
and one past the end of memory come between. -/
theorem stack_is_bounded_list_odd :
    ∃ actions : List StackAction,
      (StackInRam.empty 3 4 (Ram.zeroed 6)).WritesSpare actions ∧
      answers StackInRam.perform (.empty 3 4 (Ram.zeroed 6)) actions =
        [.ok none, .ok none, .error (.fault (.addressOutOfRange 5 2 6)),
          .error (.fault (.addressOutOfRange 5 2 6)), .ok (some 0xABCD),
          .error (.fault .stackUnderflow)] := by
  let actions : List StackAction :=
    [.push 0xABCD, .write 5 [0xFF], .write 5 [1, 2], .push 7, .pop, .pop]
  have hSpared : (StackInRam.empty 3 4 (Ram.zeroed 6)).WritesSpare actions := by
    refine ⟨trivial, ?_, ?_, trivial, trivial, trivial, trivial⟩
    · exact fun _ a hFrom _ => Or.inr hFrom
    · exact fun hFits => absurd hFits (by decide)
  obtain ⟨hAnswers, -⟩ := stack_is_bounded_list 3 4 (Ram.zeroed 6) actions hSpared
  exact ⟨actions, hSpared, hAnswers⟩

end Chip8
