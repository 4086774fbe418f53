import Mathlib.Tactic
import Chip8.Device.Keypad
import Chip8.Proofs.Reachable
import Chip8.Proofs.Recording

/-!
# What depends on the timers

Three operations know the timers: FX07 reads the delay timer, FX15 and FX18 write one of them. All
others commute with any change of the timers (`execute_mapTimers`), counting down among them. So two
machines that differ only in their sound timers do the same for ever, two that differ in both timers
do the same until an FX07, and a tick may be moved over any step that is none of the three.
-/

namespace Chip8

/-- The registers with each timer changed by a function. -/
def Registers.mapTimers (r : Registers) (delay sound : UInt8 → UInt8) : Registers :=
  { r with delayTimer := delay r.delayTimer, soundTimer := sound r.soundTimer }

/-- Whether an operation reads or writes a timer. -/
def Operation.usesTimers : Operation → Bool
  | .readDelay | .setDelay | .setSound => true
  | _ => false

/-- Which timers of two machines may differ. -/
inductive TimerSet where
  | sound
  | both
  deriving DecidableEq, Repr

/-- A timer one tick later. -/
def countDown (timer : UInt8) : UInt8 :=
  UInt8.ofNat (timer.toNat - 1)

theorem toNat_countDown (timer : UInt8) : (countDown timer).toNat = timer.toNat - 1 := by
  have hTimer := timer.toNat_lt
  rw [countDown, UInt8.toNat_ofNat']
  omega

section Timers

variable {σ α β : Type}

/-- The machine with each timer changed by a function. -/
def Machine.mapTimers (m : Machine σ) (delay sound : UInt8 → UInt8) : Machine σ :=
  m.withRegisters (m.registers.mapTimers delay sound)

/-- The machine with other timers. -/
def Machine.withTimers (m : Machine σ) (delay sound : UInt8) : Machine σ :=
  { m with registers := { m.registers with delayTimer := delay, soundTimer := sound } }

/-- The machines differ in nothing but the given timers. -/
def Machine.SameBut (timers : TimerSet) (m m' : Machine σ) : Prop :=
  match timers with
  | .sound => ∃ sound, m' = m.withTimers m.registers.delayTimer sound
  | .both => ∃ delay sound, m' = m.withTimers delay sound

/-- The outcome with each timer of its machine changed by a function. -/
def Outcome.mapTimers (o : Outcome σ α) (delay sound : UInt8 → UInt8) : Outcome σ α :=
  { o with machine := o.machine.mapTimers delay sound }

/-- The outcomes have the same effects and results, and machines that differ in nothing but the
given timers. -/
structure Outcome.SameBut (timers : TimerSet) (o o' : Outcome σ α) : Prop where
  machine : o.machine.SameBut timers o'.machine
  effects : o'.effects = o.effects
  result : o'.result = o.result

theorem Outcome.SameBut.map {timers : TimerSet} {o o' : Outcome σ α} (h : o.SameBut timers o')
    (f : α → β) : (o.map f).SameBut timers (o'.map f) where
  machine := h.machine
  effects := h.effects
  result := congrArg (Except.map f) h.result

theorem Outcome.SameBut.after {timers : TimerSet} {o o' : Outcome σ α} (h : o.SameBut timers o')
    (earlier : Effects) : (o.after earlier).SameBut timers (o'.after earlier) where
  machine := h.machine
  effects := congrArg (earlier ++ ·) h.effects
  result := h.result

end Timers

namespace Machine

section Timers

variable {σ : Type}

theorem tick_eq_mapTimers (m : Machine σ) : m.tick = m.mapTimers countDown countDown := rfl

theorem SameBut.refl (timers : TimerSet) (m : Machine σ) : m.SameBut timers m := by
  cases timers with
  | sound => exact ⟨m.registers.soundTimer, rfl⟩
  | both => exact ⟨m.registers.delayTimer, m.registers.soundTimer, rfl⟩

theorem sameBut_mapTimers {timers : TimerSet} {delay : UInt8 → UInt8}
    (hDelay : timers = .sound → delay = id) (m : Machine σ) (sound : UInt8 → UInt8) :
    m.SameBut timers (m.mapTimers delay sound) := by
  cases timers with
  | sound =>
      rw [hDelay rfl]
      exact ⟨sound m.registers.soundTimer, rfl⟩
  | both => exact ⟨delay m.registers.delayTimer, sound m.registers.soundTimer, rfl⟩

/-- Machines that differ in their timers as a change of the timers. -/
theorem SameBut.exists_mapTimers {timers : TimerSet} {m m' : Machine σ}
    (h : m.SameBut timers m') :
    ∃ delay sound, m' = m.mapTimers delay sound ∧ (timers = .sound → delay = id) := by
  cases timers with
  | sound =>
      obtain ⟨sound, rfl⟩ := h
      exact ⟨id, fun _ => sound, rfl, fun _ => rfl⟩
  | both =>
      obtain ⟨delay, sound, rfl⟩ := h
      exact ⟨fun _ => delay, fun _ => sound, rfl, nofun⟩

theorem SameBut.tick {timers : TimerSet} {m m' : Machine σ} (h : m.SameBut timers m') :
    m.tick.SameBut timers m'.tick := by
  cases timers with
  | sound =>
      obtain ⟨sound, rfl⟩ := h
      exact ⟨countDown sound, rfl⟩
  | both =>
      obtain ⟨delay, sound, rfl⟩ := h
      exact ⟨countDown delay, countDown sound, rfl⟩

/-- A load makes the timers equal, or fails and leaves them as they are. -/
theorem SameBut.load {timers : TimerSet} {m m' : Machine σ} (h : m.SameBut timers m')
    (program : List UInt8) : (m.load program).SameBut timers (m'.load program) := by
  obtain ⟨delay, sound, rfl, -⟩ := h.exists_mapTimers
  have hRam : (m.mapTimers delay sound).ram = m.ram := rfl
  rw [Machine.load, Machine.load, hRam]
  cases m.ram.loadProgram program with
  | error fault => exact ⟨h, rfl, rfl⟩
  | ok loaded => exact ⟨.refl timers _, rfl, rfl⟩

/-- After `n` ticks each timer is lower by `n`, or at zero, and nothing else has changed. -/
theorem ticks_eq_withTimers (m : Machine σ) (n : Nat) :
    ∃ delay sound, m.ticks n = m.withTimers delay sound ∧
      delay.toNat = m.registers.delayTimer.toNat - n ∧
      sound.toNat = m.registers.soundTimer.toNat - n := by
  induction n generalizing m with
  | zero => exact ⟨_, _, rfl, rfl, rfl⟩
  | succ n ih =>
      obtain ⟨delay, sound, hTicks, hDelay, hSound⟩ := ih m.tick
      have hDelayOnce : m.tick.registers.delayTimer.toNat = m.registers.delayTimer.toNat - 1 :=
        toNat_countDown _
      have hSoundOnce : m.tick.registers.soundTimer.toNat = m.registers.soundTimer.toNat - 1 :=
        toNat_countDown _
      exact ⟨delay, sound, hTicks, by omega, by omega⟩

theorem combine_mapTimers (m : Machine σ) (delay sound : UInt8 → UInt8) (op : RegisterOp)
    (x y : Fin 16) :
    (m.mapTimers delay sound).combine op x y = (m.combine op x y).mapTimers delay sound := by
  have hApply : op.apply ((m.mapTimers delay sound).registers.reg x)
      ((m.mapTimers delay sound).registers.reg y) =
      op.apply (m.registers.reg x) (m.registers.reg y) := rfl
  rw [combine, combine, hApply]
  split
  · rfl
  · rfl

end Timers

variable {σ : Type} [Device σ]

theorem drawSprite_mapTimers (m : Machine σ) (delay sound : UInt8 → UInt8) (x y height : UInt8) :
    (m.mapTimers delay sound).drawSprite x y height =
      (m.drawSprite x y height).mapTimers delay sound := by
  have hRead : (m.mapTimers delay sound).ram.read
      (m.mapTimers delay sound).registers.i.toNat height.toNat =
      m.ram.read m.registers.i.toNat height.toNat := rfl
  rw [drawSprite, drawSprite, hRead]
  cases m.ram.read m.registers.i.toNat height.toNat with
  | error fault => rfl
  | ok rows =>
      have hDevice : (m.mapTimers delay sound).device = m.device := rfl
      simp only [hDevice]
      cases Painting.paint x.toNat y.toNat { device := m.device } (Sprite.cells rows.toList) with
      | mk p painted =>
          cases painted with
          | error cause => rfl
          | ok done => rfl

theorem skipIfPressed_mapTimers (m : Machine σ) (delay sound : UInt8 → UInt8) (key : UInt8)
    (expected : Bool) :
    (m.mapTimers delay sound).skipIfPressed key expected =
      (m.skipIfPressed key expected).mapTimers delay sound := by
  have hDevice : (m.mapTimers delay sound).device = m.device := rfl
  simp only [skipIfPressed, hDevice, skipIf_eq]
  cases (Device.pressed m.device key).answer.toExcept with
  | ok answer => rfl
  | error cause => rfl

/-- All but the three operations commute with a change of the timers. -/
theorem execute_mapTimers (m : Machine σ) (delay sound : UInt8 → UInt8) (patience : Nat)
    {op : Operation} (hOp : op.usesTimers = false) (w : Word) :
    (m.mapTimers delay sound).execute patience op w =
      (m.execute patience op w).mapTimers delay sound := by
  have hRam : (m.mapTimers delay sound).ram = m.ram := rfl
  cases op
  case readDelay | setDelay | setSound => cases hOp
  case clearScreen =>
      show (m.mapTimers delay sound).clearScreen = m.clearScreen.mapTimers delay sound
      have hDevice : (m.mapTimers delay sound).device = m.device := rfl
      rw [clearScreen, clearScreen, hDevice]
      cases (Device.clear m.device).answer with
      | value answer => rfl
      | failed error => rfl
      | aborted cause => rfl
  case ret =>
      have hPop : (m.mapTimers delay sound).stack.pop (m.mapTimers delay sound).ram =
          m.stack.pop m.ram := rfl
      rw [execute_ret, execute_ret, hPop]
      cases m.stack.pop m.ram with
      | error cause => rfl
      | ok popped => rfl
  case call =>
      have hDepth : (m.mapTimers delay sound).depth = m.depth := rfl
      rw [execute_call, execute_call, hDepth, hRam]
      split
      · rfl
      · split
        · rfl
        · rfl
  case skipEqualConstant | skipUnequalConstant | skipEqualRegister | skipUnequalRegister =>
      simp only [execute, skipIf_eq]
      rfl
  case register op =>
      simp only [execute, combine_mapTimers]
      rfl
  case jumpOffset =>
      rw [execute_jumpOffset, execute_jumpOffset]
      rfl
  case loadGlyph =>
      rw [execute_loadGlyph, execute_loadGlyph]
      rfl
  case draw => exact m.drawSprite_mapTimers delay sound _ _ _
  case skipPressed | skipReleased => exact m.skipIfPressed_mapTimers delay sound _ _
  case storeDecimal =>
      have hIndex : (m.mapTimers delay sound).registers.i = m.registers.i := rfl
      rw [execute_storeDecimal, execute_storeDecimal, hRam, hIndex]
      split
      · rfl
      · rfl
  case storeRegisters =>
      have hIndex : (m.mapTimers delay sound).registers.i = m.registers.i := rfl
      rw [execute_storeRegisters, execute_storeRegisters, hRam, hIndex]
      split
      · rfl
      · rfl
  case loadRegisters =>
      have hIndex : (m.mapTimers delay sound).registers.i = m.registers.i := rfl
      rw [execute_loadRegisters, execute_loadRegisters, hRam, hIndex]
      split
      · rfl
      · rfl
  all_goals rfl

/-- A change of the timers does not change what a step executes: the step without an operation
commutes with it, and the step of an operation is that of the changed machine. -/
theorem step_mapTimers_cases (m : Machine σ) (delay sound : UInt8 → UInt8) (patience : Nat) :
    (m.nextOperation? = none ∧
      (m.mapTimers delay sound).step patience = (m.step patience).mapTimers delay sound) ∨
    ∃ op w notice, m.nextOperation? = some op ∧
      m.step patience =
        ((m.advanced.execute patience op w).map fun () => .running).after notice ∧
      (m.mapTimers delay sound).step patience =
        (((m.advanced.mapTimers delay sound).execute patience op w).map
          fun () => .running).after notice := by
  have hState : (m.mapTimers delay sound).state = m.state := rfl
  have hRam : (m.mapTimers delay sound).ram = m.ram := rfl
  have hPc : (m.mapTimers delay sound).registers.pc = m.registers.pc := rfl
  have hEnd : (m.mapTimers delay sound).registers.programEnd = m.registers.programEnd := rfl
  cases hRunning : m.state with
  | halted =>
      refine Or.inl ⟨by simp [nextOperation?, nextWord?, hRunning], ?_⟩
      rw [step, step, hState, hRunning]
      rfl
  | running =>
      have hSum : Checked.addSize m.registers.pc.toNat 2 = .ok (m.registers.pc.toNat + 2) :=
        Checked.addSize_of_lt (by have := m.registers.pc.toNat_lt; unfold Checked.sizeLimit; omega)
      by_cases hPast : m.registers.programEnd < m.registers.pc.toNat + 2
      · refine Or.inl ⟨by simp [nextOperation?, nextWord?, hRunning, hPast], ?_⟩
        simp only [step, hState, hPc, hEnd, hRunning, hSum, if_pos hPast]
        rfl
      · cases hFetch : m.ram.readWord m.registers.pc.toNat with
        | error fault =>
            refine Or.inl ⟨by simp [nextOperation?, nextWord?, hFetch, Except.toOption], ?_⟩
            simp only [step, hState, hRam, hPc, hEnd, hRunning, hSum, if_neg hPast, hFetch]
            rfl
        | ok bits =>
            have hWord : m.nextWord? = some ⟨bits⟩ :=
              nextWord?_eq_some_iff.2 ⟨hRunning, Nat.not_lt.1 hPast, hFetch⟩
            have hValue := decode_value ⟨bits⟩
            cases hDecode : instructionSet.decode ⟨bits⟩ with
            | none =>
                rw [hDecode] at hValue
                refine Or.inl ⟨by simp [nextOperation?, hWord, ← hValue], ?_⟩
                simp only [step, hState, hRam, hPc, hEnd, hRunning, hSum, if_neg hPast, hFetch,
                  hDecode]
                rfl
            | some entry =>
                rw [hDecode] at hValue
                have hOp : m.nextOperation? = some entry.value :=
                  nextOperation?_eq_some_iff.2 ⟨_, hWord, hValue.symm⟩
                refine Or.inr ⟨_, ⟨bits⟩, .notice (.executing m.registers.pc ⟨bits⟩ entry.mnemonic),
                  hOp, ?_, ?_⟩
                · simp only [step, hRunning, hSum, if_neg hPast, hFetch, hDecode]
                  rfl
                · simp only [step, hState, hRam, hPc, hEnd, hRunning, hSum, if_neg hPast, hFetch,
                    hDecode]
                  rfl

/-- So does a step whose operation does not know the timers. -/
theorem step_mapTimers {m : Machine σ} (hOp : ∀ op, m.nextOperation? = some op →
    op.usesTimers = false) (delay sound : UInt8 → UInt8) (patience : Nat) :
    (m.mapTimers delay sound).step patience = (m.step patience).mapTimers delay sound := by
  rcases m.step_mapTimers_cases delay sound patience with ⟨-, hSame⟩ |
    ⟨op, w, notice, hNext, hStep, hChanged⟩
  · exact hSame
  · rw [hChanged, hStep, execute_mapTimers _ _ _ _ (hOp op hNext)]
    rfl

/-- Operations keep machines alike, unless they read a timer that differs. -/
theorem SameBut.execute {timers : TimerSet} {m m' : Machine σ} (h : m.SameBut timers m')
    {op : Operation} (hOp : timers = .both → op ≠ .readDelay) (patience : Nat) (w : Word) :
    (m.execute patience op w).SameBut timers (m'.execute patience op w) := by
  obtain ⟨delay, sound, rfl, hDelay⟩ := h.exists_mapTimers
  cases hUses : op.usesTimers with
  | false =>
      rw [execute_mapTimers m delay sound patience hUses w]
      exact ⟨sameBut_mapTimers hDelay _ _, rfl, rfl⟩
  | true =>
      cases op
      case readDelay =>
          cases timers with
          | both => exact absurd rfl (hOp rfl)
          | sound =>
              rw [hDelay rfl]
              exact ⟨sameBut_mapTimers (fun _ => rfl) _ sound, rfl, rfl⟩
      case setDelay =>
          exact ⟨sameBut_mapTimers (fun _ => rfl) (m.execute patience .setDelay w).machine sound,
            rfl, rfl⟩
      case setSound =>
          exact ⟨sameBut_mapTimers hDelay (m.execute patience .setSound w).machine id, rfl, rfl⟩
      all_goals cases hUses

/-- Steps keep machines alike, unless they read a timer that differs. -/
theorem SameBut.step {timers : TimerSet} {m m' : Machine σ} (h : m.SameBut timers m')
    (hOp : timers = .both → m.nextOperation? ≠ some .readDelay) (patience : Nat) :
    (m.step patience).SameBut timers (m'.step patience) := by
  obtain ⟨delay, sound, rfl, hDelay⟩ := h.exists_mapTimers
  rcases m.step_mapTimers_cases delay sound patience with ⟨-, hSame⟩ |
    ⟨op, w, notice, hNext, hStep, hChanged⟩
  · rw [hSame]
    exact ⟨sameBut_mapTimers hDelay _ _, rfl, rfl⟩
  · rw [hStep, hChanged]
    have hAdvanced := sameBut_mapTimers hDelay m.advanced sound
    have hQuiet : timers = .both → op ≠ .readDelay := fun hBoth hRead => hOp hBoth (hRead ▸ hNext)
    exact ((hAdvanced.execute hQuiet patience w).map _).after notice

/-- Whether a move executes FX07. -/
def readsDelay (m : Machine σ) : Move → Bool
  | .step _ => m.nextOperation? == some .readDelay
  | _ => false

/-- None of the moves executes FX07. -/
def NeverReadsDelay (m : Machine σ) (moves : List Move) : Prop :=
  m.Along (fun m mv => m.readsDelay mv = false) moves

theorem neverReadsDelay_movesOf_append_iff {m : Machine σ} {patience : Nat} {a : Action}
    {later : List Move} :
    m.NeverReadsDelay (m.movesOf patience a ++ later) ↔
      m.NeverReadsDelay (m.movesOf patience a) ∧
        (m.perform patience a).machine.NeverReadsDelay later := by
  rw [NeverReadsDelay, along_append_iff, replay_movesOf]
  rfl

theorem SameBut.move {timers : TimerSet} {m m' : Machine σ} (h : m.SameBut timers m') {mv : Move}
    (hQuiet : timers = .both → m.readsDelay mv = false) :
    (m.move mv).SameBut timers (m'.move mv) := by
  cases mv with
  | load program => exact h.load program
  | step patience =>
      exact (h.step (fun hBoth => by simpa [readsDelay] using hQuiet hBoth) patience).map _
  | tick => exact ⟨h.tick, rfl, rfl⟩
  | reset =>
      obtain ⟨delay, sound, rfl, -⟩ := h.exists_mapTimers
      exact ⟨.refl timers _, rfl, rfl⟩
  | poke registers =>
      obtain ⟨delay, sound, rfl, -⟩ := h.exists_mapTimers
      exact ⟨.refl timers _, rfl, rfl⟩

theorem SameBut.replay {timers : TimerSet} {m m' : Machine σ} (h : m.SameBut timers m')
    {moves : List Move} (hQuiet : timers = .both → m.NeverReadsDelay moves) :
    (m.replay moves).SameBut timers (m'.replay moves) := by
  induction moves generalizing m m' with
  | nil => exact h
  | cons mv rest ih =>
      exact ih (h.move fun hBoth => (hQuiet hBoth).1).machine fun hBoth => (hQuiet hBoth).2

theorem SameBut.runFrom {timers : TimerSet} {m m' : Machine σ} (h : m.SameBut timers m')
    {patience steps : Nat} {earlier : Effects}
    (hQuiet : timers = .both →
      m.NeverReadsDelay (runMoves patience earlier.pauses.size steps m)) :
    (runFrom patience earlier steps m).SameBut timers (runFrom patience earlier steps m') := by
  induction steps generalizing m m' earlier with
  | zero =>
      obtain ⟨delay, sound, rfl, -⟩ := h.exists_mapTimers
      exact ⟨h, rfl, rfl⟩
  | succ steps ih =>
      have hStep := h.step (fun hBoth => by simpa [readsDelay] using (hQuiet hBoth).1)
        (patience - earlier.pauses.size)
      by_cases hRunning : (m.step (patience - earlier.pauses.size)).result = .ok .running
      · have hRunning' : (m'.step (patience - earlier.pauses.size)).result = .ok .running :=
          hStep.result.trans hRunning
        rw [runFrom_succ_of_running hRunning, runFrom_succ_of_running hRunning', hStep.effects]
        refine ih hStep.machine fun hBoth => ?_
        have hRest := (hQuiet hBoth).2
        rw [hRunning, ← Array.size_append] at hRest
        exact hRest
      · have hRunning' : (m'.step (patience - earlier.pauses.size)).result ≠ .ok .running := by
          rw [hStep.result]
          exact hRunning
        rw [runFrom_succ_of_stopped hRunning, runFrom_succ_of_stopped hRunning']
        exact hStep.after earlier

/-- What an action comes to for machines that are alike. -/
theorem SameBut.answer {timers : TimerSet} {m m' : Machine σ} (h : m.SameBut timers m')
    {patience : Nat} {a : Action}
    (hQuiet : timers = .both → m.NeverReadsDelay (m.movesOf patience a)) :
    (m.answer patience a).SameBut timers (m'.answer patience a) := by
  cases a with
  | load program => exact (h.load program).map _
  | loadFrom source =>
      show ((m.loadFrom source).map _).SameBut timers ((m'.loadFrom source).map _)
      rw [loadFrom, loadFrom]
      cases source.contents with
      | error error => exact ⟨h, rfl, rfl⟩
      | ok program => exact (h.load program).map _
  | step =>
      have hStep := h.step (fun hBoth => by simpa [readsDelay] using (hQuiet hBoth).1) patience
      exact hStep.map some
  | run steps =>
      have hRun : (m.run patience steps).SameBut timers (m'.run patience steps) :=
        h.runFrom hQuiet
      exact hRun.map some
  | tick => exact ⟨h.tick, rfl, rfl⟩
  | reset =>
      have hMove : (m.move .reset).SameBut timers (m'.move .reset) := h.move fun _ => rfl
      exact hMove.map _
  | poke registers =>
      have hMove : (m.move (.poke registers)).SameBut timers (m'.move (.poke registers)) :=
        h.move fun _ => rfl
      exact hMove.map _

/-- The machine after an action for machines that are alike. -/
theorem SameBut.perform {timers : TimerSet} {m m' : Machine σ} (h : m.SameBut timers m')
    {patience : Nat} {a : Action}
    (hQuiet : timers = .both → m.NeverReadsDelay (m.movesOf patience a)) :
    (m.perform patience a).machine.SameBut timers (m'.perform patience a).machine := by
  rw [← machine_answer, ← machine_answer]
  exact (h.answer hQuiet).machine

theorem SameBut.answers {timers : TimerSet} {m m' : Machine σ} (h : m.SameBut timers m')
    {patience : Nat} {actions : List Action}
    (hQuiet : timers = .both → m.NeverReadsDelay (m.moves patience actions)) :
    List.Forall₂ (Outcome.SameBut timers) (m.answers patience actions)
      (m'.answers patience actions) := by
  induction actions generalizing m m' with
  | nil => exact .nil
  | cons a rest ih =>
      have hSplit := fun hBoth => neverReadsDelay_movesOf_append_iff.1 (hQuiet hBoth)
      have hFirst := h.answer fun hBoth => (hSplit hBoth).1
      refine .cons hFirst (ih hFirst.machine fun hBoth => ?_)
      rw [machine_answer]
      exact (hSplit hBoth).2

/-- Runs of machines that are alike make the same moves up to where a timer that differs is
read. -/
theorem SameBut.runMoves {timers : TimerSet} {m m' : Machine σ} (h : m.SameBut timers m')
    {patience slept steps : Nat} {before later : List Move}
    (hMoves : runMoves patience slept steps m = before ++ later)
    (hQuiet : timers = .both → m.NeverReadsDelay before) :
    ∃ later', Machine.runMoves patience slept steps m' = before ++ later' ∧
      (later = [] → later' = []) := by
  induction steps generalizing m m' slept before with
  | zero => exact ⟨later, hMoves, id⟩
  | succ steps ih =>
      cases before with
      | nil =>
          refine ⟨_, rfl, fun hNone => ?_⟩
          rw [hNone] at hMoves
          cases hMoves
      | cons mv before =>
          obtain ⟨rfl, hRest⟩ := List.cons.inj hMoves
          have hStep := h.step (fun hBoth => by simpa [readsDelay] using (hQuiet hBoth).1)
            (patience - slept)
          simp only [Machine.runMoves, hStep.result, hStep.effects, List.cons_append,
            List.cons.injEq, true_and]
          split at hRest
          · exact ih hStep.machine hRest fun hBoth => (hQuiet hBoth).2
          · exact ⟨later, hRest, id⟩

theorem SameBut.movesOf {timers : TimerSet} {m m' : Machine σ} (h : m.SameBut timers m')
    {patience : Nat} {a : Action} {before later : List Move}
    (hMoves : m.movesOf patience a = before ++ later)
    (hQuiet : timers = .both → m.NeverReadsDelay before) :
    ∃ later', m'.movesOf patience a = before ++ later' ∧ (later = [] → later' = []) := by
  cases a with
  | run steps => exact h.runMoves hMoves hQuiet
  | _ => exact ⟨later, hMoves, id⟩

theorem SameBut.movesOf_eq {timers : TimerSet} {m m' : Machine σ} (h : m.SameBut timers m')
    {patience : Nat} {a : Action}
    (hQuiet : timers = .both → m.NeverReadsDelay (m.movesOf patience a)) :
    m'.movesOf patience a = m.movesOf patience a := by
  obtain ⟨later, hMoves, hNone⟩ := h.movesOf (List.append_nil _).symm hQuiet
  rw [hMoves, hNone rfl, List.append_nil]

theorem SameBut.moves_eq {timers : TimerSet} {m m' : Machine σ} (h : m.SameBut timers m')
    {patience : Nat} {actions : List Action}
    (hQuiet : timers = .both → m.NeverReadsDelay (m.moves patience actions)) :
    m'.moves patience actions = m.moves patience actions := by
  induction actions generalizing m m' with
  | nil => rfl
  | cons a rest ih =>
      have hSplit := fun hBoth => neverReadsDelay_movesOf_append_iff.1 (hQuiet hBoth)
      have hOf := fun hBoth => (hSplit hBoth).1
      rw [moves, moves, h.movesOf_eq hOf, ih (h.perform hOf) fun hBoth => (hSplit hBoth).2]

/-- Machines that are alike make the same moves up to where a timer that differs is read. -/
theorem SameBut.moves {timers : TimerSet} {m m' : Machine σ} (h : m.SameBut timers m')
    {patience : Nat} {actions : List Action} {before later : List Move}
    (hMoves : m.moves patience actions = before ++ later)
    (hQuiet : timers = .both → m.NeverReadsDelay before) :
    ∃ later', m'.moves patience actions = before ++ later' := by
  induction actions generalizing m m' before with
  | nil => exact ⟨later, hMoves⟩
  | cons a rest ih =>
      rw [Machine.moves] at hMoves ⊢
      rcases List.append_eq_append_iff.1 hMoves with ⟨next, rfl, hRest⟩ | ⟨left, hOf, -⟩
      · -- All moves of the first action are among them.
        have hSplit := fun hBoth => neverReadsDelay_movesOf_append_iff.1 (hQuiet hBoth)
        have hOf := fun hBoth => (hSplit hBoth).1
        obtain ⟨later', hLater⟩ := ih (h.perform hOf) hRest fun hBoth => (hSplit hBoth).2
        exact ⟨later', by rw [h.movesOf_eq hOf, hLater, List.append_assoc]⟩
      · obtain ⟨later', hLater, -⟩ := h.movesOf hOf hQuiet
        exact ⟨_, by rw [hLater, List.append_assoc]⟩

/-- A record hides no FX07 and adds none. -/
theorem neverReadsDelay_recorded {m : Machine σ} {moves : List Move} :
    m.recorded.NeverReadsDelay moves ↔ m.NeverReadsDelay moves := by
  have hForget (r : Machine (Recorder σ)) :
      r.NeverReadsDelay moves ↔ (Embedding.forgetting.machine r).NeverReadsDelay moves := by
    induction moves generalizing r with
    | nil => rfl
    | cons mv rest ih =>
        have hReads : (Embedding.forgetting.machine r).readsDelay mv = r.readsDelay mv := by
          rw [Embedding.machine_forgetting]
          cases mv <;> rfl
        have hMove := congrArg Outcome.machine
          (Embedding.move_embed (e := Embedding.forgetting) rfl r mv)
        rw [NeverReadsDelay, NeverReadsDelay, Along, Along, hReads, hMove]
        exact and_congr_right fun _ => ih _
  rw [hForget, forgetting_recorded]

/-- Machines that are alike ask their devices the same questions. -/
theorem SameBut.asked {timers : TimerSet} {m m' : Machine σ} (h : m.SameBut timers m')
    {moves : List Move} (hQuiet : timers = .both → m.NeverReadsDelay moves) :
    m'.asked moves = m.asked moves := by
  have hRecorded : m.recorded.SameBut timers m'.recorded := by
    obtain ⟨delay, sound, rfl, hDelay⟩ := h.exists_mapTimers
    exact sameBut_mapTimers hDelay m.recorded sound
  have hReplay := hRecorded.replay fun hBoth => neverReadsDelay_recorded.2 (hQuiet hBoth)
  obtain ⟨delay, sound, hMachine, -⟩ := hReplay.exists_mapTimers
  rw [Machine.asked, Machine.asked, hMachine]
  rfl

/-- Moves before which no timer that differs is read come to the same. -/
theorem SameBut.move_of_prefix {timers : TimerSet} {m m' : Machine σ} (h : m.SameBut timers m')
    {before earlier : List Move} {mv : Move} (hPrefix : earlier ++ [mv] <+: before)
    (hQuiet : timers = .both → m.NeverReadsDelay before) :
    ((m.replay earlier).move mv).SameBut timers ((m'.replay earlier).move mv) := by
  obtain ⟨rest, rfl⟩ := hPrefix
  have hSplit := fun hBoth => along_append_iff.1 (along_append_iff.1 (hQuiet hBoth)).1
  exact (h.replay fun hBoth => (hSplit hBoth).1).move fun hBoth => (hSplit hBoth).2.1

/-- A tick may be moved over a step that neither reads nor writes a timer. -/
theorem step_tick {m : Machine σ} (hOp : ∀ op, m.nextOperation? = some op →
    op.usesTimers = false) (patience : Nat) :
    m.tick.step patience =
      { m.step patience with machine := (m.step patience).machine.tick } := by
  rw [tick_eq_mapTimers, step_mapTimers hOp]
  rfl

theorem asks_tick_step {m : Machine σ} (hOp : ∀ op, m.nextOperation? = some op →
    op.usesTimers = false) (patience : Nat) :
    m.asks patience [.tick, .step] = m.asks patience [.step, .tick] := by
  have hStep := step_tick (m := m.recorded) hOp patience
  show (m.recorded.tick.step patience).machine.device.calls = _
  rw [hStep]
  rfl

/-- Machines that differ in nothing but the sound timer do the same for ever. Machines that differ
in both timers do so as long as the delay timer is not read: the same actions come to the same, and
so do the moves up to the first FX07. A tick before a step and a tick behind it are the same, unless
the step reads or writes a timer. Ticks count each timer down to zero and change nothing else. -/
theorem timers_are_isolated (m : Machine σ) (patience : Nat) :
    (∀ m' actions, m.SameBut .sound m' →
      List.Forall₂ (Outcome.SameBut .sound) (m.answers patience actions)
        (m'.answers patience actions) ∧
      m'.asks patience actions = m.asks patience actions) ∧
    (∀ m' actions, m.SameBut .both m' →
      (m.NeverReadsDelay (m.moves patience actions) →
        List.Forall₂ (Outcome.SameBut .both) (m.answers patience actions)
          (m'.answers patience actions) ∧
        m'.asks patience actions = m.asks patience actions) ∧
      ∀ before later, m.moves patience actions = before ++ later → m.NeverReadsDelay before →
        (∃ later', m'.moves patience actions = before ++ later') ∧
        (∀ earlier mv, earlier ++ [mv] <+: before →
          ((m.replay earlier).move mv).SameBut .both ((m'.replay earlier).move mv)) ∧
        m'.asked before = m.asked before) ∧
    ((∀ op, m.nextOperation? = some op → op.usesTimers = false) →
      (m.tick.step patience).machine = (m.step patience).machine.tick ∧
      (m.tick.step patience).effects = (m.step patience).effects ∧
      (m.tick.step patience).result = (m.step patience).result ∧
      m.asks patience [.tick, .step] = m.asks patience [.step, .tick]) ∧
    ∀ n, ∃ delay sound, m.ticks n = m.withTimers delay sound ∧
      delay.toNat = m.registers.delayTimer.toNat - n ∧
      sound.toNat = m.registers.soundTimer.toNat - n := by
  have hAlike {timers : TimerSet} {m' : Machine σ} {actions : List Action}
      (h : m.SameBut timers m')
      (hQuiet : timers = .both → m.NeverReadsDelay (m.moves patience actions)) :
      List.Forall₂ (Outcome.SameBut timers) (m.answers patience actions)
        (m'.answers patience actions) ∧
      m'.asks patience actions = m.asks patience actions := by
    have hAsked := h.asked hQuiet
    rw [asked_moves, ← h.moves_eq hQuiet, asked_moves] at hAsked
    exact ⟨h.answers hQuiet, hAsked⟩
  refine ⟨fun m' actions h => hAlike h nofun, fun m' actions h =>
    ⟨fun hQuiet => hAlike h fun _ => hQuiet, fun before later hMoves hQuiet => ?_⟩,
    fun hOp => ?_, m.ticks_eq_withTimers⟩
  · exact ⟨h.moves hMoves fun _ => hQuiet,
      fun earlier mv hPrefix => h.move_of_prefix hPrefix fun _ => hQuiet, h.asked fun _ => hQuiet⟩
  · rw [step_tick hOp patience]
    exact ⟨rfl, rfl, rfl, asks_tick_step hOp patience⟩

/-- A program that asks for a key and then reads the delay timer: until then, the timers that it was
started with make no difference. -/
theorem timers_are_isolated_until_read :
    ∃ m m' m'' : Machine (Board DrawCounter Keypad),
      m.SameBut .sound m' ∧ m.SameBut .both m'' ∧
      m'.asks 0 [.step, .step, .tick, .step] = [.pressed 7] ∧
      m''.asked [.step 0, .step 0, .tick] = [.pressed 7] ∧
      ((m.replay [.step 0, .step 0]).move .tick).SameBut .both
        ((m''.replay [.step 0, .step 0]).move .tick) ∧
      m.asks 0 [.tick, .step] = m.asks 0 [.step, .tick] ∧
      (m.performAll 0 [.step, .step, .tick, .step]).registers.reg 1 = 4 ∧
      (m''.performAll 0 [.step, .step, .tick, .step]).registers.reg 1 = 7 := by
  let loaded : Machine (Board DrawCounter Keypad) :=
    ((fresh 0x300 (Board.ofParts {} {}) default).load [0x60, 0x07, 0xE0, 0x9E, 0xF1, 0x07]).machine
  let m := loaded.withTimers 5 9
  let m' := m.withTimers 5 3
  let m'' := m.withTimers 8 3
  have hSound : m.SameBut .sound m' := ⟨3, rfl⟩
  have hBoth : m.SameBut .both m'' := ⟨8, 3, rfl⟩
  have hOp : ∀ op, m.nextOperation? = some op → op.usesTimers = false := by
    have hNext : m.nextOperation? = some .loadConstant := by decide +kernel
    intro op h
    rw [hNext] at h
    exact Option.some.inj h ▸ rfl
  obtain ⟨hMoves, hQuiet, hAsks, hAsked, hFour, hSeven⟩ :
      m.moves 0 [.step, .step, .tick, .step] = [.step 0, .step 0, .tick] ++ [.step 0] ∧
      m.NeverReadsDelay [.step 0, .step 0, .tick] ∧
      m.asks 0 [.step, .step, .tick, .step] = [.pressed 7] ∧
      m.asked [.step 0, .step 0, .tick] = [.pressed 7] ∧
      (m.performAll 0 [.step, .step, .tick, .step]).registers.reg 1 = 4 ∧
      (m''.performAll 0 [.step, .step, .tick, .step]).registers.reg 1 = 7 := by
    refine ⟨by decide +kernel, ?_, by decide +kernel, by decide +kernel, by decide +kernel,
      by decide +kernel⟩
    unfold NeverReadsDelay
    decide +kernel
  obtain ⟨hForSound, hForBoth, hTick, -⟩ := timers_are_isolated m 0
  obtain ⟨-, hUntil⟩ := hForBoth m'' [.step, .step, .tick, .step] hBoth
  obtain ⟨-, hMove, hSame⟩ := hUntil _ _ hMoves hQuiet
  obtain ⟨-, -, -, hOrder⟩ := hTick hOp
  obtain ⟨-, hSameAsks⟩ := hForSound m' [.step, .step, .tick, .step] hSound
  exact ⟨m, m', m'', hSound, hBoth, hSameAsks.trans hAsks, hSame.trans hAsked,
    hMove [.step 0, .step 0] .tick ⟨[], rfl⟩, hOrder, hFour, hSeven⟩

end Machine

end Chip8
