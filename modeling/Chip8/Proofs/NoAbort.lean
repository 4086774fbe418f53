import Mathlib.Tactic
import Chip8.Machine.Action
import Chip8.Proofs.SafeDevices
import Chip8.Proofs.Starting
import Chip8.Proofs.Stepping

/-!
# No program aborts a machine

A machine is sound if its memory has room for a program, its call stack is not deeper than its
window and its device is in a safe state. Every action keeps this, whatever the registers and the
memory hold, and none comes to an abort. The only other way not to end is a wait for a key that is
not answered in time; where keys always answer, enough patience rules it out as well, and more
patience changes nothing.
-/

namespace Chip8

namespace Outcome

variable {σ α β : Type}

/-- The operation comes to an answer or to a fault. -/
def Ends (o : Outcome σ α) : Prop :=
  (∃ answer, o.result = .ok answer) ∨ ∃ f, o.result = .error (.fault f)

/-- The operation does not come to an abort. -/
def Unaborted (o : Outcome σ α) : Prop :=
  ∀ cause, o.result ≠ .error (.abort cause)

/-- With enough patience an operation ends, and what it comes to depends on the patience no more. -/
def Settles (f : Nat → Outcome σ α) : Prop :=
  ∃ enough, (f enough).Ends ∧ ∀ patience, enough ≤ patience → f patience = f enough

theorem Ends.unaborted {o : Outcome σ α} (h : o.Ends) : o.Unaborted := by
  intro cause hAbort
  rcases h with ⟨answer, hAnswer⟩ | ⟨f, hFault⟩
  · rw [hAnswer] at hAbort
    cases hAbort
  · rw [hFault] at hAbort
    cases hAbort

theorem Ends.map {o : Outcome σ α} (h : o.Ends) (g : α → β) : (o.map g).Ends := by
  rcases h with ⟨answer, hAnswer⟩ | ⟨f, hFault⟩
  · exact Or.inl ⟨g answer, by rw [Outcome.map, hAnswer]; rfl⟩
  · exact Or.inr ⟨f, by rw [Outcome.map, hFault]; rfl⟩

theorem Unaborted.map {o : Outcome σ α} (h : o.Unaborted) (g : α → β) : (o.map g).Unaborted := by
  intro cause hAbort
  cases hResult : o.result with
  | ok answer =>
      rw [Outcome.map, hResult] at hAbort
      cases hAbort
  | error stop =>
      rw [Outcome.map, hResult] at hAbort
      obtain rfl : stop = .abort cause := Except.error.inj hAbort
      exact h cause hResult

theorem settles_of_ends {o : Outcome σ α} (h : o.Ends) : Settles fun _ => o :=
  ⟨0, h, fun _ _ => rfl⟩

theorem Settles.map {f : Nat → Outcome σ α} (h : Settles f) (g : α → β) :
    Settles fun patience => (f patience).map g := by
  obtain ⟨enough, hEnds, hSame⟩ := h
  exact ⟨enough, hEnds.map g, fun patience hPatience => congrArg _ (hSame patience hPatience)⟩

theorem Settles.after {f : Nat → Outcome σ α} (h : Settles f) (earlier : Effects) :
    Settles fun patience => (f patience).after earlier := by
  obtain ⟨enough, hEnds, hSame⟩ := h
  exact ⟨enough, hEnds, fun patience hPatience => congrArg _ (hSame patience hPatience)⟩

/-- To settle it is enough to do in the end what another operation does that settles. -/
theorem Settles.congr {f g : Nat → Outcome σ α} (h : Settles g) {start : Nat}
    (hSame : ∀ patience, start ≤ patience → f patience = g patience) : Settles f := by
  obtain ⟨enough, hEnds, hSettled⟩ := h
  have hStart := Nat.le_max_left start enough
  have hEnough := Nat.le_max_right start enough
  refine ⟨max start enough, ?_, ?_⟩
  · rw [hSame _ hStart, hSettled _ hEnough]
    exact hEnds
  · intro patience hPatience
    rw [hSame _ hStart, hSame _ (hStart.trans hPatience), hSettled _ hEnough,
      hSettled _ (hEnough.trans hPatience)]

end Outcome

namespace Machine

variable {σ : Type}

/-- What keeps a machine from aborting; `P` are the safe states of its device. -/
structure Sound (P : σ → Prop) (m : Machine σ) : Prop where
  capacity : Layout.programStart < m.ram.capacity
  depth : m.depth ≤ Layout.stackSlots
  device : P m.device

/-- The machine of an outcome is sound, and the outcome is no abort. -/
def StaysSound (P : σ → Prop) {α : Type} (o : Outcome σ α) : Prop :=
  o.machine.Sound P ∧ o.Unaborted

/-- The machine of an outcome is sound, and the outcome is an answer or a fault. -/
def EndsSound (P : σ → Prop) {α : Type} (o : Outcome σ α) : Prop :=
  o.machine.Sound P ∧ o.Ends

variable {P : σ → Prop} {m : Machine σ}

theorem Sound.store (h : m.Sound P) (addr : Nat) (data : List UInt8) :
    Sound P { m with ram := ⟨Ram.store m.ram.bytes addr data⟩ } where
  capacity := (Ram.capacity_store _ _ _).symm ▸ h.capacity
  depth := h.depth
  device := h.device

theorem Sound.advanced (h : m.Sound P) : m.advanced.Sound P :=
  ⟨h.capacity, h.depth, h.device⟩

theorem EndsSound.staysSound {α : Type} {o : Outcome σ α} (h : EndsSound P o) : StaysSound P o :=
  ⟨h.1, h.2.unaborted⟩

theorem endsSound_done (h : m.Sound P) : EndsSound P m.done :=
  ⟨h, Or.inl ⟨(), rfl⟩⟩

theorem endsSound_stop (h : m.Sound P) (f : Fault) : EndsSound P (m.stop (.fault f)) :=
  ⟨h, Or.inr ⟨f, rfl⟩⟩

theorem endsSound_ite {p : Prop} [Decidable p] {α : Type} {o o' : Outcome σ α}
    (ho : EndsSound P o) (ho' : EndsSound P o') : EndsSound P (if p then o else o') := by
  split
  · exact ho
  · exact ho'

theorem endsSound_load (h : m.Sound P) (program : List UInt8) : EndsSound P (m.load program) := by
  rcases m.load_cases program with ⟨-, hLoad⟩ | ⟨-, hMachine, hResult⟩
  · rw [hLoad]
    exact ⟨h, Or.inr ⟨_, rfl⟩⟩
  · refine ⟨?_, Or.inl ⟨(), hResult⟩⟩
    rw [hMachine]
    exact ⟨(h.store _ _).capacity, Nat.zero_le _, h.device⟩

theorem endsSound_loadFrom (h : m.Sound P) (source : ByteSource) :
    EndsSound P (m.loadFrom source) := by
  unfold loadFrom
  cases source.contents with
  | error error => exact ⟨h, Or.inr ⟨_, rfl⟩⟩
  | ok program => exact endsSound_load h program

theorem endsSound_reset (h : m.Sound P) : EndsSound P m.reset :=
  ⟨⟨h.capacity, Nat.zero_le _, h.device⟩, Or.inl ⟨(), rfl⟩⟩

theorem endsSound_tick (h : m.Sound P) : EndsSound P m.tick.done :=
  endsSound_done ⟨h.capacity, h.depth, h.device⟩

theorem endsSound_withRegisters (h : m.Sound P) (registers : Registers) :
    EndsSound P (m.withRegisters registers).done :=
  endsSound_done ⟨h.capacity, h.depth, h.device⟩

variable [Device σ]

theorem endsSound_ret (h : m.Sound P) (patience : Nat) (w : Word) :
    EndsSound P (m.execute patience .ret w) := by
  cases hLive : m.depth with
  | zero =>
      rw [execute_ret_empty hLive]
      exact endsSound_stop h _
  | succ below =>
      have hSlot : below < Layout.stackSlots := by
        have hDepth := h.depth
        rw [hLive] at hDepth
        exact hDepth
      obtain ⟨pc, hExecute⟩ := execute_ret_pending h.capacity hSlot hLive patience w
      rw [hExecute]
      exact endsSound_done ⟨h.capacity, Nat.le_of_lt hSlot, h.device⟩

theorem endsSound_call (h : m.Sound P) (patience : Nat) (w : Word) :
    EndsSound P (m.execute patience .call w) := by
  rw [execute_call]
  split
  · exact endsSound_stop h _
  · rename_i hRoom
    refine endsSound_ite (endsSound_done ?_) (endsSound_stop h _)
    exact ⟨(h.store _ _).capacity, Nat.lt_of_not_le hRoom, h.device⟩

/-- The pixels of a sprite have coordinates that can be counted. -/
theorem sprite_fits {r : Ram} {addr : Nat} {x y height : UInt8} {rows : Array UInt8}
    (hRead : r.read addr height.toNat = .ok rows) (cell : Nat × Nat)
    (hCell : cell ∈ Sprite.cells rows.toList) :
    x.toNat + cell.1 < Checked.sizeLimit ∧ y.toNat + cell.2 < Checked.sizeLimit := by
  obtain ⟨-, hRows⟩ := Ram.read_eq_ok_iff.1 hRead
  obtain ⟨hColumn, -, bits, hBits, -⟩ := Sprite.mem_cellsFrom.1 hCell
  have hRow : cell.2 < height.toNat := by
    obtain ⟨hInside, -⟩ := List.getElem?_eq_some_iff.1 hBits
    rw [hRows, List.length_map, List.length_range] at hInside
    exact hInside
  have hX := x.toNat_lt
  have hY := y.toNat_lt
  have hHeight := height.toNat_lt
  have hWidth : cell.1 < 8 := hColumn
  have hLimit : 2 ^ 16 < Checked.sizeLimit := by decide
  omega

theorem endsSound_draw (hSafe : Device.Safe P) (h : m.Sound P) (x y height : UInt8) :
    EndsSound P (m.drawSprite x y height) := by
  cases hRead : m.ram.read m.registers.i.toNat height.toNat with
  | error fault =>
      rw [drawSprite_outOfRange (Ram.read_eq_error_iff.1 hRead).1]
      exact endsSound_stop h _
  | ok rows =>
      obtain ⟨hDevice, hPainted⟩ := hSafe.paint (x := x.toNat) (y := y.toNat)
        (Sprite.cells rows.toList) (sprite_fits hRead) (p := { device := m.device }) h.device
      cases hPaint : Painting.paint x.toNat y.toNat { device := m.device }
          (Sprite.cells rows.toList) with
      | mk p painted =>
          rw [hPaint] at hDevice hPainted
          obtain rfl : painted = .ok () := hPainted
          obtain ⟨hMachine, hResult⟩ := drawSprite_painted hRead hPaint
          refine ⟨?_, Or.inl ⟨(), hResult⟩⟩
          rw [hMachine]
          exact ⟨h.capacity, h.depth, hDevice⟩

theorem endsSound_pressed (hSafe : Device.Safe P) (h : m.Sound P) (key : UInt8)
    (expected : Bool) : EndsSound P (m.skipIfPressed key expected) := by
  obtain ⟨hDevice, hAborted⟩ := hSafe.pressed m.device key h.device
  have hAsked : Sound P { m with device := (Device.pressed m.device key).state } :=
    ⟨h.capacity, h.depth, hDevice⟩
  cases hAnswer : (Device.pressed m.device key).answer with
  | value answer =>
      rw [skipIfPressed_value hAnswer]
      obtain ⟨registers, hSkip⟩ := skipIf_frame
        { m with device := (Device.pressed m.device key).state } (answer == expected)
      rw [hSkip]
      exact ⟨⟨hAsked.capacity, hAsked.depth, hAsked.device⟩, Or.inl ⟨(), rfl⟩⟩
  | failed error =>
      rw [skipIfPressed_stopped (by rw [hAnswer]; rfl)]
      exact ⟨hAsked, Or.inr ⟨_, rfl⟩⟩
  | aborted cause => exact absurd hAnswer (hAborted cause)

theorem endsSound_clearScreen (hSafe : Device.Safe P) (h : m.Sound P) :
    EndsSound P m.clearScreen := by
  obtain ⟨hDevice, hAborted⟩ := hSafe.clear m.device h.device
  rcases m.clearScreen_result with hResult | ⟨cause, hAnswer, -⟩
  · refine ⟨?_, Or.inl ⟨(), hResult⟩⟩
    rw [clearScreen_machine]
    exact ⟨h.capacity, h.depth, hDevice⟩
  · exact absurd hAnswer (hAborted cause)

/-- Whatever registers and memory hold, an operation other than a key wait ends. -/
theorem endsSound_execute (hSafe : Device.Safe P) (h : m.Sound P) (patience : Nat)
    {op : Operation} (hOp : op ≠ .awaitKey) (w : Word) :
    EndsSound P (m.execute patience op w) := by
  cases hInternal : op.isInternal with
  | true =>
      obtain ⟨registers, random, effects, hExecute, -, -⟩ :=
        m.execute_internal patience hInternal w
      rw [hExecute]
      exact ⟨⟨h.capacity, h.depth, h.device⟩, Or.inl ⟨(), rfl⟩⟩
  | false =>
      cases op
      case clearScreen => exact endsSound_clearScreen hSafe h
      case ret => exact endsSound_ret h patience w
      case call => exact endsSound_call h patience w
      case draw => exact endsSound_draw hSafe h _ _ _
      case skipPressed | skipReleased => exact endsSound_pressed hSafe h _ _
      case awaitKey => exact absurd rfl hOp
      case storeDecimal =>
          rw [execute_storeDecimal]
          exact endsSound_ite (endsSound_done (h.store _ _)) (endsSound_stop h _)
      case storeRegisters =>
          rw [execute_storeRegisters]
          exact endsSound_ite (endsSound_done (h.store _ _)) (endsSound_stop h _)
      case loadRegisters =>
          rw [execute_loadRegisters]
          exact endsSound_ite (endsSound_withRegisters h _) (endsSound_stop h _)
      all_goals cases hInternal

/-- A wait that is decided within the patience ends, and more patience changes nothing. -/
theorem awaitKey_of_decides (hSafe : Device.Safe P) (h : m.Sound P) {key : UInt8} {n patience : Nat}
    (hDecides : Device.Decides key n m.device) (hPatience : n < patience) :
    EndsSound P (m.awaitKey patience key) ∧
      m.awaitKey patience key = m.awaitKey (n + 1) key := by
  obtain ⟨hDevice, hResult, -, hSame⟩ :=
    KeyWait.await_of_decides hDecides hPatience (.notice (.waitingForKey key))
  refine ⟨⟨⟨h.capacity, h.depth, ?_⟩, ?_⟩, ?_⟩
  · change P (KeyWait.await key patience m.device _).device
    rw [hDevice]
    exact hSafe.afterQueries key (n + 1) h.device
  · have hOutcome : (m.awaitKey patience key).result =
        (Device.answerAt key n m.device).toExcept.map fun _ => () := hResult
    unfold Outcome.Ends
    rw [hOutcome]
    cases hAnswer : Device.answerAt key n m.device with
    | value answer => exact Or.inl ⟨(), rfl⟩
    | failed error => exact Or.inr ⟨_, rfl⟩
    | aborted cause => exact absurd hAnswer (hSafe.answerAt key n h.device cause)
  · unfold awaitKey
    rw [hSame]

theorem staysSound_awaitKey (hSafe : Device.Safe P) (h : m.Sound P) (patience : Nat)
    (key : UInt8) : StaysSound P (m.awaitKey patience key) := by
  rcases Device.decides_or_silent key patience m.device with ⟨n, hPatience, hDecides⟩ | hSilent
  · exact (awaitKey_of_decides hSafe h hDecides hPatience).1.staysSound
  · obtain ⟨hDevice, hResult⟩ :=
      KeyWait.await_of_silent hSilent (.notice (.waitingForKey key))
    refine ⟨⟨h.capacity, h.depth, ?_⟩, ?_⟩
    · change P (KeyWait.await key patience m.device _).device
      rw [hDevice]
      exact hSafe.afterQueries key patience h.device
    · intro cause hAbort
      change (KeyWait.await key patience m.device _).result = _ at hAbort
      rw [hResult] at hAbort
      cases hAbort

theorem staysSound_execute (hSafe : Device.Safe P) (h : m.Sound P) (patience : Nat)
    (op : Operation) (w : Word) : StaysSound P (m.execute patience op w) := by
  by_cases hOp : op = .awaitKey
  · subst hOp
    exact staysSound_awaitKey hSafe h patience _
  · exact (endsSound_execute hSafe h patience hOp w).staysSound

theorem settles_execute (hSafe : Device.Safe P) (hAnswers : Device.Answers P) (h : m.Sound P)
    (op : Operation) (w : Word) :
    Outcome.Settles fun patience => m.execute patience op w := by
  by_cases hOp : op = .awaitKey
  · subst hOp
    have hKey : (keyOf (m.registers.reg w.x)).toNat < 16 := by
      rw [keyOf, toNat_and_nibble]
      exact Nat.mod_lt _ (by decide)
    obtain ⟨n, hDecides⟩ := hAnswers m.device h.device _ hKey
    refine ⟨n + 1, ?_, ?_⟩
    · exact (awaitKey_of_decides hSafe h hDecides (Nat.lt_succ_self n)).1.2
    · intro patience hPatience
      exact (awaitKey_of_decides hSafe h hDecides hPatience).2
  · exact ⟨0, (endsSound_execute hSafe h 0 hOp w).2, fun patience _ => execute_patience hOp w _ _⟩

/-- A step either ends whatever the patience is, or executes an operation. -/
theorem step_ends_or_executes (h : m.Sound P) :
    (∃ o, EndsSound P o ∧ ∀ patience, m.step patience = o) ∨
    ∃ op w earlier, ∀ patience, m.step patience =
      ((m.advanced.execute patience op w).map fun () => .running).after earlier := by
  rcases m.step_cases with ⟨-, hStep⟩ | ⟨-, -, hStep⟩ | ⟨-, -, -, hStep⟩ | ⟨w, -, -, hStep⟩ |
    ⟨w, op, mnemonic, -, -, hStep⟩
  · exact Or.inl ⟨_, ⟨h, Or.inl ⟨_, rfl⟩⟩, hStep⟩
  · exact Or.inl ⟨_, ⟨⟨h.capacity, h.depth, h.device⟩, Or.inl ⟨_, rfl⟩⟩, hStep⟩
  · exact Or.inl ⟨_, ⟨h, Or.inr ⟨_, rfl⟩⟩, hStep⟩
  · exact Or.inl ⟨_, ⟨h.advanced, Or.inl ⟨_, rfl⟩⟩, hStep⟩
  · exact Or.inr ⟨op, w, _, hStep⟩

theorem staysSound_step (hSafe : Device.Safe P) (h : m.Sound P) (patience : Nat) :
    StaysSound P (m.step patience) := by
  rcases step_ends_or_executes h with ⟨o, hEnds, hStep⟩ | ⟨op, w, earlier, hStep⟩
  · rw [hStep]
    exact hEnds.staysSound
  · obtain ⟨hSound, hUnaborted⟩ := staysSound_execute hSafe h.advanced patience op w
    rw [hStep]
    exact ⟨hSound, hUnaborted.map _⟩

theorem settles_step (hSafe : Device.Safe P) (hAnswers : Device.Answers P) (h : m.Sound P) :
    Outcome.Settles m.step := by
  rcases step_ends_or_executes h with ⟨o, hEnds, hStep⟩ | ⟨op, w, earlier, hStep⟩
  · rw [funext hStep]
    exact Outcome.settles_of_ends hEnds.2
  · rw [funext hStep]
    exact ((settles_execute hSafe hAnswers h.advanced op w).map _).after earlier

/-- A run stays sound: each of its steps does. -/
theorem staysSound_runFrom (hSafe : Device.Safe P) (h : m.Sound P) (patience : Nat)
    (earlier : Effects) (steps : Nat) : StaysSound P (runFrom patience earlier steps m) := by
  induction steps generalizing earlier m with
  | zero => exact EndsSound.staysSound ⟨h, Or.inl ⟨_, rfl⟩⟩
  | succ steps ih =>
      have hStep := staysSound_step hSafe h (patience - earlier.pauses.size)
      simp only [runFrom]
      split
      · exact ih hStep.1 _
      · exact hStep

/-- A run settles. Its patience has to be enough for its first step after the earlier sleeps, and
for the rest of the run after that step. -/
theorem settles_runFrom (hSafe : Device.Safe P) (hAnswers : Device.Answers P) (h : m.Sound P)
    (earlier : Effects) (steps : Nat) :
    Outcome.Settles fun patience => runFrom patience earlier steps m := by
  induction steps generalizing earlier m with
  | zero => exact Outcome.settles_of_ends (Or.inl ⟨_, rfl⟩)
  | succ steps ih =>
      obtain ⟨first, hEnds, hSame⟩ := settles_step hSafe hAnswers h
      have hFirst : ∀ patience, earlier.pauses.size + first ≤ patience →
          m.step (patience - earlier.pauses.size) = m.step first :=
        fun patience hPatience => hSame _ (by omega)
      by_cases hRunning : (m.step first).result = .ok .running
      · have hRest := ih (staysSound_step hSafe h first).1 (earlier ++ (m.step first).effects)
        refine hRest.congr fun patience (hPatience : earlier.pauses.size + first ≤ patience) => ?_
        simp only [runFrom, hFirst patience hPatience, hRunning]
      · have hLast : ((m.step first).after earlier).Ends := hEnds
        refine (Outcome.settles_of_ends hLast).congr
          fun patience (hPatience : earlier.pauses.size + first ≤ patience) => ?_
        simp only [runFrom, hFirst patience hPatience]
        rfl

/-- Every action keeps a machine sound and comes to no abort. -/
theorem staysSound_perform (hSafe : Device.Safe P) (h : m.Sound P) (patience : Nat) (a : Action) :
    StaysSound P (m.perform patience a) := by
  cases a with
  | load program => exact (endsSound_load h program).staysSound
  | loadFrom source => exact (endsSound_loadFrom h source).staysSound
  | reset => exact (endsSound_reset h).staysSound
  | step =>
      obtain ⟨hSound, hUnaborted⟩ := staysSound_step hSafe h patience
      exact ⟨hSound, hUnaborted.map _⟩
  | run steps =>
      obtain ⟨hSound, hUnaborted⟩ := staysSound_runFrom hSafe h patience {} steps
      exact ⟨hSound, hUnaborted.map _⟩
  | tick => exact (endsSound_tick h).staysSound
  | poke registers => exact (endsSound_withRegisters h registers).staysSound

theorem settles_perform (hSafe : Device.Safe P) (hAnswers : Device.Answers P) (h : m.Sound P)
    (a : Action) : Outcome.Settles fun patience => m.perform patience a := by
  cases a with
  | load program => exact Outcome.settles_of_ends (endsSound_load h program).2
  | loadFrom source => exact Outcome.settles_of_ends (endsSound_loadFrom h source).2
  | reset => exact Outcome.settles_of_ends (endsSound_reset h).2
  | step => exact (settles_step hSafe hAnswers h).map _
  | run steps => exact (settles_runFrom hSafe hAnswers h {} steps).map _
  | tick => exact Outcome.settles_of_ends (endsSound_tick h).2
  | poke registers => exact Outcome.settles_of_ends (endsSound_withRegisters h registers).2

theorem staysSound_outcomes (hSafe : Device.Safe P) (h : m.Sound P) (patience : Nat)
    (actions : List Action) : ∀ o ∈ m.outcomes patience actions, StaysSound P o := by
  induction actions generalizing m with
  | nil => exact fun o ho => absurd ho List.not_mem_nil
  | cons a rest ih =>
      have hFirst := staysSound_perform hSafe h patience a
      intro o ho
      rcases List.mem_cons.1 ho with rfl | ho
      · exact hFirst
      · exact ih hFirst.1 o ho

/-- With enough patience every action of a sequence ends. -/
theorem outcomes_end (hSafe : Device.Safe P) (hAnswers : Device.Answers P) (h : m.Sound P)
    (actions : List Action) :
    ∃ enough, ∀ patience, enough ≤ patience → ∀ o ∈ m.outcomes patience actions, o.Ends := by
  induction actions generalizing m with
  | nil => exact ⟨0, fun _ _ o ho => absurd ho List.not_mem_nil⟩
  | cons a rest ih =>
      obtain ⟨first, hEnds, hSame⟩ := settles_perform hSafe hAnswers h a
      obtain ⟨later, hLater⟩ := ih (staysSound_perform hSafe h first a).1
      refine ⟨max first later, ?_⟩
      intro patience hPatience o ho
      have hFirst : m.perform patience a = m.perform first a :=
        hSame patience ((Nat.le_max_left _ _).trans hPatience)
      rcases List.mem_cons.1 ho with rfl | ho
      · rw [hFirst]
        exact hEnds
      · rw [hFirst] at ho
        exact hLater patience ((Nat.le_max_right _ _).trans hPatience) o ho

/-- A machine on a memory of any accepted size, with any contents, and on a board with any keys that
do not abort: no sequence of actions makes it abort, and if the keys always answer, then with enough
patience each action ends in an answer or in a fault. -/
theorem no_action_aborts {δ κ : Type} [KeySource κ] {ram blank : Ram}
    (hAccepted : Ram.ofCapacity ram.capacity = .ok blank) (display : δ) {keys : κ}
    (hKeys : KeySource.NeverAborts keys) (random : RandomStream) :
    ∃ (m : Machine (Board δ κ)) (notices : Array Notice),
      powerOn ram (Board.ofParts display keys) random = .ok (m, notices) ∧
      ∀ actions : List Action,
        (∀ patience, ∀ o ∈ m.outcomes patience actions, o.Unaborted) ∧
        (KeySource.AlwaysAnswers keys →
          ∃ enough, ∀ patience, enough ≤ patience →
            ∀ o ∈ m.outcomes patience actions, o.Ends) := by
  obtain ⟨⟨hCapacity, -⟩, -⟩ := Ram.ofCapacity_eq_ok_iff.1 hAccepted
  refine ⟨_, _, powerOn_of_capacity hCapacity _ random, ?_⟩
  intro actions
  have hSafe : Device.Safe (Board.From keys : Board δ κ → Prop) := Board.safe hKeys
  have hSound : Sound (Board.From keys)
      { ram := ⟨Ram.store ram.bytes Layout.fontStart Layout.font⟩
        registers := .initial
        depth := 0
        state := .running
        random
        device := Board.ofParts display keys } := by
    refine ⟨?_, Nat.zero_le _, Board.from_ofParts display keys⟩
    rw [Ram.capacity_store]
    exact hCapacity
  constructor
  · intro patience o ho
    exact (staysSound_outcomes hSafe hSound patience actions o ho).2
  · intro hAnswers
    exact outcomes_end hSafe (Board.answers hAnswers) hSound actions

/-- A wait for a key that is down, then a return from no call. -/
theorem no_action_aborts_return :
    ∃ (m : Machine (Board DrawCounter Keypad)) (notices : Array Notice),
      powerOn (Ram.zeroed 0x300) (Board.ofParts {} ⟨(List.range 16).map UInt8.ofNat⟩) default =
        .ok (m, notices) ∧
      (∀ patience, ∀ o ∈ m.outcomes patience [.load [0xF0, 0x0A, 0x00, 0xEE], .run 2],
        o.Unaborted) ∧
      ∃ enough, ∀ patience, enough ≤ patience →
        ∀ o ∈ m.outcomes patience [.load [0xF0, 0x0A, 0x00, 0xEE], .run 2], o.Ends := by
  have hAccepted : Ram.ofCapacity (Ram.zeroed 0x300).capacity = .ok (Ram.zeroed 0x300) :=
    Ram.ofCapacity_zeroed (by decide) (by decide)
  have hHeld : ∀ key : UInt8, key.toNat < 16 →
      Keypad.isPressed ⟨(List.range 16).map UInt8.ofNat⟩ key = true := by
    intro key hKey
    refine List.contains_iff_mem.2 (List.mem_map.2 ⟨key.toNat, List.mem_range.2 hKey, ?_⟩)
    exact UInt8.ofNat_toNat
  obtain ⟨m, notices, hPowerOn, hAll⟩ :=
    no_action_aborts hAccepted ({} : DrawCounter)
      (Keypad.neverAborts ⟨(List.range 16).map UInt8.ofNat⟩) default
  obtain ⟨hUnaborted, hEnds⟩ := hAll [.load [0xF0, 0x0A, 0x00, 0xEE], .run 2]
  exact ⟨m, notices, hPowerOn, hUnaborted, hEnds (Keypad.alwaysAnswers hHeld)⟩

end Machine

end Chip8
