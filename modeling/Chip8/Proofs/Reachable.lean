import Mathlib.Tactic
import Chip8.Machine.Action
import Chip8.Proofs.Starting
import Chip8.Proofs.Stepping

/-!
# What a machine becomes when nobody writes its registers

A host that loads programs, resets, steps, runs and counts the timers down leads a machine only to
some states. In all of them the loaded program ends inside memory, whose size never changes: only a
load and a reset move the end of the program, and both put it where memory is.
-/

namespace Chip8

/-- Whether an action writes the registers from outside. -/
def Action.isPoke : Action → Bool
  | .poke _ => true
  | _ => false

/-- Whether a move writes the registers from outside. -/
def Move.isPoke : Move → Bool
  | .poke _ => true
  | _ => false

namespace Machine

variable {σ : Type}

/-- Memory of one size, and a program with one end. -/
structure SameBounds (m m' : Machine σ) : Prop where
  capacity : m'.ram.capacity = m.ram.capacity
  programEnd : m'.registers.programEnd = m.registers.programEnd

namespace SameBounds

variable {m m' m'' : Machine σ}

theorem refl (m : Machine σ) : m.SameBounds m :=
  ⟨rfl, rfl⟩

theorem trans (h : m.SameBounds m') (h' : m'.SameBounds m'') : m.SameBounds m'' :=
  ⟨h'.capacity.trans h.capacity, h'.programEnd.trans h.programEnd⟩

end SameBounds

theorem sameBounds_ticks (m : Machine σ) (n : Nat) : m.SameBounds (m.ticks n) := by
  induction n generalizing m with
  | zero => exact .refl m
  | succ n ih =>
      have hTick : m.SameBounds m.tick := ⟨rfl, rfl⟩
      exact hTick.trans (ih m.tick)

/-- A computation that may stop moves no bounds if its result does not. -/
theorem sameBounds_update {ε α : Type} {m : Machine σ} {cause : ε → Stop} {computed : Except ε α}
    {write : α → Machine σ} (h : ∀ value, computed = .ok value → m.SameBounds (write value)) :
    m.SameBounds (m.update cause computed write).machine := by
  cases computed with
  | error e => exact .refl m
  | ok value => exact h value rfl

/-- A memory of `capacity` bytes with room for a program, in which the loaded program ends. -/
structure EndsInside (capacity : Nat) (m : Machine σ) : Prop where
  room : Layout.programStart < capacity
  size : m.ram.capacity = capacity
  programEnd : m.registers.programEnd ≤ capacity

namespace EndsInside

variable {capacity : Nat} {m m' m₀ : Machine σ}

theorem of_sameBounds (h : m.EndsInside capacity) (hSame : m.SameBounds m') :
    m'.EndsInside capacity where
  room := h.room
  size := hSame.capacity.trans h.size
  programEnd := hSame.programEnd ▸ h.programEnd

theorem of_powerOn {ram : Ram} {device : σ} {random : RandomStream} {notices : Array Notice}
    (hPowerOn : powerOn ram device random = .ok (m₀, notices)) : m₀.EndsInside ram.capacity := by
  obtain ⟨hRoom, rfl⟩ := eq_of_powerOn hPowerOn
  exact ⟨hRoom, Ram.capacity_store _ _ _, Nat.le_of_lt hRoom⟩

end EndsInside

variable [Device σ]

/-- No operation moves the end of the program or resizes memory. -/
theorem sameBounds_execute (m : Machine σ) (patience : Nat) (op : Operation) (w : Word) :
    m.SameBounds (m.execute patience op w).machine := by
  cases hInternal : op.isInternal with
  | true =>
      obtain ⟨registers, random, effects, hExecute, hEnd, -⟩ :=
        m.execute_internal patience hInternal w
      rw [hExecute]
      exact ⟨rfl, hEnd⟩
  | false =>
      cases op
      case clearScreen =>
          change m.SameBounds m.clearScreen.machine
          rw [clearScreen_machine]
          exact ⟨rfl, rfl⟩
      case ret =>
          rw [execute_ret]
          exact sameBounds_update fun _ _ => ⟨rfl, rfl⟩
      case call =>
          rw [execute_call]
          split
          · exact .refl m
          · split
            · exact ⟨Ram.capacity_store _ _ _, rfl⟩
            · exact .refl m
      case draw =>
          obtain ⟨v, device, hDraw⟩ := m.drawSprite_frame _ _ _
          change m.SameBounds (m.drawSprite _ _ _).machine
          rw [hDraw]
          exact ⟨rfl, rfl⟩
      case skipPressed | skipReleased =>
          obtain ⟨pc, device, hSkip, -⟩ := m.skipIfPressed_frame _ _
          change m.SameBounds (m.skipIfPressed _ _).machine
          rw [hSkip]
          exact ⟨rfl, rfl⟩
      case awaitKey => exact ⟨rfl, rfl⟩
      case storeDecimal =>
          rw [execute_storeDecimal]
          split
          · exact ⟨Ram.capacity_store _ _ _, rfl⟩
          · exact .refl m
      case storeRegisters =>
          rw [execute_storeRegisters]
          split
          · exact ⟨Ram.capacity_store _ _ _, rfl⟩
          · exact .refl m
      case loadRegisters =>
          rw [execute_loadRegisters]
          split
          · obtain ⟨v, hRestored⟩ := m.registers.exists_restore _
            rw [hRestored]
            exact ⟨rfl, rfl⟩
          · exact .refl m
      all_goals cases hInternal

theorem sameBounds_step (m : Machine σ) (patience : Nat) :
    m.SameBounds (m.step patience).machine := by
  rcases m.step_cases with ⟨-, hStep⟩ | ⟨-, -, hStep⟩ | ⟨-, -, -, hStep⟩ | ⟨w, -, -, hStep⟩ |
    ⟨w, op, mnemonic, -, -, hStep⟩
  · rw [hStep]
    exact .refl m
  · rw [hStep]
    exact ⟨rfl, rfl⟩
  · rw [hStep]
    exact .refl m
  · rw [hStep]
    exact ⟨rfl, rfl⟩
  · rw [hStep]
    have hAdvanced : m.SameBounds m.advanced := ⟨rfl, rfl⟩
    exact hAdvanced.trans (m.advanced.sameBounds_execute patience op w)

/-- Nothing that a host does resizes memory. -/
theorem capacity_move (m : Machine σ) (mv : Move) :
    (m.move mv).machine.ram.capacity = m.ram.capacity := by
  cases mv with
  | load program =>
      rcases m.load_cases program with ⟨-, hLoad⟩ | ⟨-, hMachine, -⟩
      · rw [move, hLoad]
      · rw [move, hMachine, Ram.capacity_store]
  | reset => rfl
  | step patience => exact (m.sameBounds_step patience).capacity
  | tick => rfl
  | poke registers => rfl

theorem capacity_replay (m : Machine σ) (moves : List Move) :
    (m.replay moves).ram.capacity = m.ram.capacity := by
  induction moves generalizing m with
  | nil => rfl
  | cons mv rest ih => exact (ih (m.move mv).machine).trans (m.capacity_move mv)

theorem capacity_perform (m : Machine σ) (patience : Nat) (a : Action) :
    (m.perform patience a).machine.ram.capacity = m.ram.capacity := by
  rw [← replay_movesOf, capacity_replay]

/-- `P` holds of every move of a sequence, in the machine that makes it. -/
def Along (P : Machine σ → Move → Prop) (m : Machine σ) : List Move → Prop
  | [] => True
  | mv :: rest => P m mv ∧ (m.move mv).machine.Along P rest

instance decidableAlong {P : Machine σ → Move → Prop} [∀ m mv, Decidable (P m mv)] :
    (m : Machine σ) → (moves : List Move) → Decidable (m.Along P moves)
  | _, [] => .isTrue trivial
  | m, mv :: rest =>
    have : Decidable ((m.move mv).machine.Along P rest) := decidableAlong _ rest
    inferInstanceAs (Decidable (P m mv ∧ (m.move mv).machine.Along P rest))

theorem Along.mono {P Q : Machine σ → Move → Prop} (hImp : ∀ m mv, P m mv → Q m mv)
    {m : Machine σ} {moves : List Move} (h : m.Along P moves) : m.Along Q moves := by
  induction moves generalizing m with
  | nil => trivial
  | cons mv rest ih => exact ⟨hImp m mv h.1, ih h.2⟩

theorem along_append_iff {P : Machine σ → Move → Prop} {m : Machine σ} {first second : List Move} :
    m.Along P (first ++ second) ↔ m.Along P first ∧ (m.replay first).Along P second := by
  induction first generalizing m with
  | nil => simp [Along, replay]
  | cons mv rest ih => simp only [List.cons_append, Along, ih, and_assoc, replay, List.foldl_cons]

/-- The machines that the actions of a host lead to as long as it writes no registers. Every action
has a patience of its own. -/
inductive Reaches (m₀ : Machine σ) : Machine σ → Prop where
  | start : m₀.Reaches m₀
  | act {m : Machine σ} (hReaches : m₀.Reaches m) (patience : Nat) {a : Action}
      (hPoke : a.isPoke = false) : m₀.Reaches (m.perform patience a).machine

theorem isPoke_of_mem_runMoves {patience slept steps : Nat} {m : Machine σ} {mv : Move}
    (h : mv ∈ runMoves patience slept steps m) : mv.isPoke = false := by
  induction steps generalizing slept m with
  | zero => exact absurd h List.not_mem_nil
  | succ steps ih =>
      rw [runMoves] at h
      rcases List.mem_cons.1 h with rfl | h
      · rfl
      · split at h
        · exact ih h
        · exact absurd h List.not_mem_nil

/-- An action that writes no registers has no move that does. -/
theorem isPoke_of_mem_movesOf {m : Machine σ} {patience : Nat} {a : Action}
    (hPoke : a.isPoke = false) {mv : Move} (h : mv ∈ m.movesOf patience a) :
    mv.isPoke = false := by
  cases a with
  | load program => exact List.mem_singleton.1 h ▸ rfl
  | loadFrom source =>
      rw [movesOf] at h
      split at h
      · exact List.mem_singleton.1 h ▸ rfl
      · exact absurd h List.not_mem_nil
  | reset => exact List.mem_singleton.1 h ▸ rfl
  | step => exact List.mem_singleton.1 h ▸ rfl
  | run steps => exact isPoke_of_mem_runMoves h
  | tick => exact List.mem_singleton.1 h ▸ rfl
  | poke registers => cases hPoke

/-- What every move but a write of registers keeps, moves without such a write keep. -/
theorem replay_keeps {P : Machine σ → Prop}
    (hMove : ∀ m mv, mv.isPoke = false → P m → P (m.move mv).machine) {moves : List Move}
    (hMoves : ∀ mv ∈ moves, mv.isPoke = false) {m : Machine σ} (h : P m) :
    P (m.replay moves) := by
  induction moves generalizing m with
  | nil => exact h
  | cons mv rest ih =>
      have hFirst := hMove m mv (hMoves mv List.mem_cons_self) h
      exact ih (fun mv' h' => hMoves mv' (List.mem_cons_of_mem mv h')) hFirst

/-- So it holds of every machine that is reached. -/
theorem Reaches.keeps {P : Machine σ → Prop} {m₀ m : Machine σ} (h : m₀.Reaches m)
    (hMove : ∀ m mv, mv.isPoke = false → P m → P (m.move mv).machine) (hStart : P m₀) : P m := by
  induction h with
  | start => exact hStart
  | @act m hReaches patience a hPoke ih =>
      rw [← replay_movesOf]
      exact replay_keeps hMove (fun _ => isPoke_of_mem_movesOf hPoke) ih

/-- Loads and resets set the end of the program anew, to an address inside memory; no other move
touches it. -/
theorem EndsInside.move {capacity : Nat} {m : Machine σ} (h : m.EndsInside capacity) {mv : Move}
    (hPoke : mv.isPoke = false) : (m.move mv).machine.EndsInside capacity := by
  cases mv with
  | load program =>
      rcases m.load_cases program with ⟨-, hLoad⟩ | ⟨hFits, hMachine, -⟩
      · rw [Machine.move, hLoad]
        exact h
      · rw [Machine.move, hMachine]
        exact ⟨h.room, (Ram.capacity_store _ _ _).trans h.size, h.size ▸ hFits⟩
  | reset => exact ⟨h.room, h.size, Nat.le_of_lt h.room⟩
  | step patience => exact h.of_sameBounds (m.sameBounds_step patience)
  | tick => exact h.of_sameBounds ⟨rfl, rfl⟩
  | poke registers => cases hPoke

/-- The loaded program ends inside memory, in every state that is reached without a write of
registers. -/
theorem Reaches.endsInside {ram : Ram} {device : σ} {random : RandomStream} {m₀ m : Machine σ}
    {notices : Array Notice} (h : m₀.Reaches m)
    (hPowerOn : powerOn ram device random = .ok (m₀, notices)) : m.EndsInside ram.capacity :=
  h.keeps (fun _ _ hPoke hInside => hInside.move hPoke) (.of_powerOn hPowerOn)

end Machine

end Chip8
