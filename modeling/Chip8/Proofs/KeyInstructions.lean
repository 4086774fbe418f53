import Mathlib.Tactic
import Chip8.Proofs.KeyWaits
import Chip8.Proofs.Recording
import Chip8.Proofs.Reference.Refinement

/-!
# Instructions that ask about keys

Three instructions ask the device about the key that `VX` names. Two of them ask once and skip an
instruction or not; the third asks until the key is down and sleeps after each answer that it is
not. What they ask is read off the record of a `Recorder`, how long they sleep off the effects of
the step, and nothing is assumed of the device: its answers may depend on all questions so far.
-/

namespace Chip8

namespace Device

variable {σ τ : Type} [Device σ] [Device τ]

/-- The device after one more question is the device of its reply. -/
theorem afterQueries_succ (key : UInt8) (n : Nat) (d : σ) :
    afterQueries key (n + 1) d = (pressed (afterQueries key n d) key).state := by
  induction n generalizing d with
  | zero => rfl
  | succ n ih => exact ih _

/-- The sleeps after the first `n` questions about a key. -/
def intervals (key : UInt8) (n : Nat) (d : σ) : List Nat :=
  (List.range n).map fun k => pollInterval (afterQueries key (k + 1) d)

@[simp]
theorem length_intervals (key : UInt8) (n : Nat) (d : σ) : (intervals key n d).length = n := by
  rw [intervals, List.length_map, List.length_range]

theorem intervals_succ (key : UInt8) (n : Nat) (d : σ) :
    intervals key (n + 1) d =
      pollInterval (pressed d key).state :: intervals key n (pressed d key).state := by
  rw [intervals, List.range_succ_eq_map, List.map_cons, List.map_map]
  rfl

namespace Hom

variable (h : Device.Hom σ τ) (key : UInt8) (n : Nat) (d : σ)

theorem map_afterQueries :
    Device.afterQueries key n (h.map d) = h.map (Device.afterQueries key n d) := by
  induction n generalizing d with
  | zero => rfl
  | succ n ih =>
      rw [Device.afterQueries, Device.afterQueries, h.pressed]
      exact ih _

theorem answerAt_map : Device.answerAt key n (h.map d) = Device.answerAt key n d := by
  rw [Device.answerAt, Device.answerAt, h.map_afterQueries, h.pressed]
  rfl

theorem silent_map_iff : Device.Silent key n (h.map d) ↔ Device.Silent key n d := by
  simp only [Device.Silent, h.answerAt_map]

theorem decides_map_iff : Device.Decides key n (h.map d) ↔ Device.Decides key n d := by
  constructor
  · rintro ⟨hSilent, hSpeaks⟩
    exact ⟨(h.silent_map_iff key n d).1 hSilent, h.answerAt_map key n d ▸ hSpeaks⟩
  · rintro ⟨hSilent, hSpeaks⟩
    exact ⟨(h.silent_map_iff key n d).2 hSilent, (h.answerAt_map key n d).symm ▸ hSpeaks⟩

end Hom

end Device

/-- A record gets one entry for each question about a key. -/
theorem Recorder.calls_afterQueries {σ : Type} [Device σ] (key : UInt8) (n : Nat)
    (r : Recorder σ) :
    (Device.afterQueries key n r).calls = r.calls ++ List.replicate n (.pressed key) := by
  induction n generalizing r with
  | zero => exact (List.append_nil _).symm
  | succ n ih =>
      rw [Device.afterQueries, ih, List.replicate_succ]
      exact List.append_assoc _ [DeviceCall.pressed key] _

namespace KeyWait

open Device

variable {σ : Type} [Device σ] {key : UInt8} {n patience : Nat} {d : σ}

/-- A wait passes over the answers that the key is not down, with a sleep after each of them. -/
theorem await_add (h : Silent key n d) (more : Nat) (effects : Effects) :
    ∃ later, await key (n + more) d effects = await key more (afterQueries key n d) later ∧
      later.pauses.toList = effects.pauses.toList ++ intervals key n d := by
  induction n generalizing d effects with
  | zero =>
      rw [Nat.zero_add]
      exact ⟨effects, rfl, (List.append_nil _).symm⟩
  | succ n ih =>
      obtain ⟨hFirst, hRest⟩ := silent_succ_iff.1 h
      obtain ⟨later, hAwait, hPauses⟩ := ih hRest
        ((effects.withNotices (pressed d key).notices).withPause
          (pollInterval (pressed d key).state))
      refine ⟨later, ?_, ?_⟩
      · rw [Nat.succ_add, await]
        simp only [hFirst]
        exact hAwait
      · rw [hPauses, intervals_succ, Effects.withPause, Effects.withNotices, Array.toList_push,
          List.append_assoc]
        rfl

/-- A wait sleeps as often as it hears that the key is not down: up to the deciding answer, or until
its patience is used up. -/
theorem pauses_await (h : Silent key n d)
    (hEnd : n = patience ∨ n < patience ∧ answerAt key n d ≠ .value false) (effects : Effects) :
    (await key patience d effects).effects.pauses.toList =
      effects.pauses.toList ++ intervals key n d := by
  rcases hEnd with rfl | ⟨hPatience, hSpeaks⟩
  · obtain ⟨later, hAwait, hPauses⟩ := await_add h 0 effects
    rw [Nat.add_zero] at hAwait
    rw [hAwait]
    exact hPauses
  · obtain ⟨more, rfl⟩ := Nat.exists_eq_add_of_lt hPatience
    obtain ⟨later, hAwait, hPauses⟩ := await_add h (more + 1) effects
    rw [answerAt] at hSpeaks
    rw [Nat.add_assoc, hAwait, await, ← hPauses]
    cases hAnswer : (pressed (afterQueries key n d) key).answer with
    | value answer =>
        cases answer with
        | true => rfl
        | false => exact absurd hAnswer hSpeaks
    | failed error => rfl
    | aborted cause => rfl

end KeyWait

namespace Machine

section Key

variable {σ : Type}

/-- The key that `VX` names. -/
def keyNamed (m : Machine σ) (x : Fin 16) : UInt8 :=
  UInt8.ofNat ((m.registers.reg x).toNat % 16)

theorem keyOf_operand (m : Machine σ) {w : Word} {x : Fin 16} (hX : w.digits.x = x) :
    keyOf (m.registers.reg w.x) = m.keyNamed x := by
  rw [keyOf_eq, w.x_eq, hX]
  rfl

end Key

variable {σ : Type} [Device σ]

/-- The step asks about a key `asked` times, sleeps after the first `slept` answers, asks the device
for nothing else and changes nothing but the program counter. -/
structure StepAsks (m : Machine σ) (patience : Nat) (key : UInt8) (asked slept : Nat) : Prop where
  asks : m.asks patience [.step] = List.replicate asked (.pressed key)
  pauses : (m.step patience).effects.pauses.toList = Device.intervals key slept m.device
  machine : m.Moved 2 (Device.afterQueries key asked m.device) (m.step patience).machine

/-- The step asks about a key once and does not sleep. On the answer `expected` it passes over the
next instruction too, on the other answer it does not, and a failure to answer is its fault. -/
structure SkipsOnKey (m : Machine σ) (patience : Nat) (key : UInt8) (expected : Bool) :
    Prop where
  asks : m.asks patience [.step] = [.pressed key]
  pauses : (m.step patience).effects.pauses = #[]
  answered : ∀ answer, (Device.pressed m.device key).answer = .value answer →
    (m.step patience).result = .ok .running ∧
      m.Moved (if answer = expected then 4 else 2) (Device.pressed m.device key).state
        (m.step patience).machine
  failed : ∀ error, (Device.pressed m.device key).answer = .failed error →
    (m.step patience).result = .error (.fault (.device error)) ∧ m.StepAsks patience key 1 0

/-- A step with an operation to execute is that operation, after the notice that tells of it. -/
theorem step_eq_execute {m : Machine σ} {w : Word} {op : Operation} (hWord : m.nextWord? = some w)
    (hOp : Operation.ofDigits? w.digits = some op) :
    ∃ notice, ∀ patience, m.step patience =
      ((m.advanced.execute patience op w).map fun () => .running).after (.notice notice) := by
  rcases step_of_nextWord hWord with ⟨hNone, -⟩ | ⟨op', mnemonic, hSome, hStep⟩
  · rw [hOp] at hNone
    cases hNone
  · rw [hOp] at hSome
    obtain rfl := Option.some.inj hSome
    exact ⟨_, hStep⟩

variable {m : Machine σ} {w : Word} {x : Fin 16}

theorem step_awaitKey (hWord : m.nextWord? = some w)
    (hOp : Operation.ofDigits? w.digits = some .awaitKey) (hX : w.digits.x = x) (patience : Nat) :
    let wait := KeyWait.await (m.keyNamed x) patience m.device
      (.notice (.waitingForKey (m.keyNamed x)))
    (m.step patience).machine = { m.advanced with device := wait.device } ∧
      (m.step patience).effects.pauses = wait.effects.pauses ∧
      (m.step patience).result = wait.result.map fun () => .running := by
  obtain ⟨notice, hStep⟩ := step_eq_execute hWord hOp
  have hKey : keyOf (m.advanced.registers.reg w.x) = m.keyNamed x := m.keyOf_operand hX
  have hExecute : m.advanced.execute patience .awaitKey w =
      m.advanced.awaitKey patience (m.keyNamed x) := by
    rw [execute, hKey]
  rw [hStep, hExecute]
  exact ⟨rfl, Array.empty_append, rfl⟩

/-- A wait puts the questions that it asks on record. -/
theorem asks_awaitKey (hWord : m.nextWord? = some w)
    (hOp : Operation.ofDigits? w.digits = some .awaitKey) (hX : w.digits.x = x)
    {patience asked : Nat}
    (hAwait : ∀ effects, (KeyWait.await (m.keyNamed x) patience m.recorded.device effects).device =
      Device.afterQueries (m.keyNamed x) asked m.recorded.device) :
    m.asks patience [.step] = List.replicate asked (.pressed (m.keyNamed x)) := by
  have hRecorded : m.recorded.nextWord? = some w := hWord
  obtain ⟨hMachine, -, -⟩ := step_awaitKey hRecorded hOp hX patience
  rw [asks_step, hMachine]
  have hDevice := hAwait (.notice (.waitingForKey (m.keyNamed x)))
  have hCalls := Recorder.calls_afterQueries (m.keyNamed x) asked m.recorded.device
  rw [← hDevice] at hCalls
  exact hCalls

/-- A wait up to the deciding answer. -/
theorem stepAsks_of_decides (hWord : m.nextWord? = some w)
    (hOp : Operation.ofDigits? w.digits = some .awaitKey) (hX : w.digits.x = x) {n patience : Nat}
    (hDecides : Device.Decides (m.keyNamed x) n m.device) (hPatience : n < patience) :
    m.StepAsks patience (m.keyNamed x) (n + 1) n ∧
      (m.step patience).result =
        (Device.answerAt (m.keyNamed x) n m.device).toExcept.map fun _ => .running := by
  obtain ⟨hMachine, hPauses, hResult⟩ := step_awaitKey hWord hOp hX patience
  obtain ⟨hDevice, hDecided, -, -⟩ := KeyWait.await_of_decides hDecides hPatience
    (.notice (.waitingForKey (m.keyNamed x)))
  have hSlept := KeyWait.pauses_await hDecides.silent (Or.inr ⟨hPatience, hDecides.speaks⟩)
    (.notice (.waitingForKey (m.keyNamed x)))
  refine ⟨⟨asks_awaitKey hWord hOp hX fun effects => ?_, ?_, ?_⟩, ?_⟩
  · have hRecorded :=
      (Recorder.forget.decides_map_iff (m.keyNamed x) n m.recorded.device).1 hDecides
    exact (KeyWait.await_of_decides hRecorded hPatience effects).1
  · rw [hPauses]
    exact hSlept
  · rw [hMachine, hDevice]
    exact m.moved_advanced _
  · rw [hResult, hDecided]
    cases (Device.answerAt (m.keyNamed x) n m.device).toExcept with
    | ok answer => rfl
    | error cause => rfl

/-- A wait that hears nothing but that the key is not down. -/
theorem stepAsks_of_silent (hWord : m.nextWord? = some w)
    (hOp : Operation.ofDigits? w.digits = some .awaitKey) (hX : w.digits.x = x) {patience : Nat}
    (hSilent : Device.Silent (m.keyNamed x) patience m.device) :
    m.StepAsks patience (m.keyNamed x) patience patience ∧
      (m.step patience).result = .error .unanswered := by
  obtain ⟨hMachine, hPauses, hResult⟩ := step_awaitKey hWord hOp hX patience
  obtain ⟨hDevice, hUnanswered⟩ := KeyWait.await_of_silent hSilent
    (.notice (.waitingForKey (m.keyNamed x)))
  have hSlept := KeyWait.pauses_await hSilent (Or.inl rfl)
    (.notice (.waitingForKey (m.keyNamed x)))
  refine ⟨⟨asks_awaitKey hWord hOp hX fun effects => ?_, ?_, ?_⟩, ?_⟩
  · have hRecorded :=
      (Recorder.forget.silent_map_iff (m.keyNamed x) patience m.recorded.device).1 hSilent
    exact (KeyWait.await_of_silent hRecorded effects).1
  · rw [hPauses]
    exact hSlept
  · rw [hMachine, hDevice]
    exact m.moved_advanced _
  · rw [hResult, hUnanswered]
    rfl

/-- The two operations that skip on a key, told apart by the answer on which they do. -/
def keySkip (expected : Bool) : Operation :=
  if expected then .skipPressed else .skipReleased

theorem step_keySkip {expected : Bool} (hWord : m.nextWord? = some w)
    (hOp : Operation.ofDigits? w.digits = some (keySkip expected)) (hX : w.digits.x = x)
    (patience : Nat) :
    ∃ notice, m.step patience =
      ((m.advanced.skipIfPressed (m.keyNamed x) expected).map fun () => .running).after
        (.notice notice) := by
  obtain ⟨notice, hStep⟩ := step_eq_execute hWord hOp
  have hKey : keyOf (m.advanced.registers.reg w.x) = m.keyNamed x := m.keyOf_operand hX
  refine ⟨notice, ?_⟩
  rw [hStep]
  cases expected with
  | true => rw [keySkip, if_pos rfl, execute, hKey]
  | false => rw [keySkip, if_neg Bool.false_ne_true, execute, hKey]

theorem device_skipIfPressed (m : Machine σ) (key : UInt8) (expected : Bool) :
    (m.skipIfPressed key expected).machine.device = (Device.pressed m.device key).state := by
  cases hAnswer : (Device.pressed m.device key).answer.toExcept with
  | ok answer => simp only [skipIfPressed, hAnswer, skipIf_eq, withPc]
  | error cause => simp only [skipIfPressed, hAnswer]

theorem pauses_skipIfPressed (m : Machine σ) (key : UInt8) (expected : Bool) :
    (m.skipIfPressed key expected).effects.pauses = #[] := by
  cases hAnswer : (Device.pressed m.device key).answer.toExcept with
  | ok answer => simp only [skipIfPressed, hAnswer]
  | error cause => simp only [skipIfPressed, hAnswer]

theorem skipsOnKey_of_operation {expected : Bool} (hWord : m.nextWord? = some w)
    (hOp : Operation.ofDigits? w.digits = some (keySkip expected)) (hX : w.digits.x = x)
    (patience : Nat) : m.SkipsOnKey patience (m.keyNamed x) expected := by
  obtain ⟨notice, hStep⟩ := step_keySkip hWord hOp hX patience
  have hAsks : m.asks patience [.step] = [.pressed (m.keyNamed x)] := by
    have hRecorded : m.recorded.nextWord? = some w := hWord
    obtain ⟨notice', hStep'⟩ := step_keySkip hRecorded hOp hX patience
    rw [asks_step, hStep']
    exact congrArg Recorder.calls (device_skipIfPressed m.recorded.advanced (m.keyNamed x) expected)
  have hPauses : (m.step patience).effects.pauses = #[] := by
    rw [hStep]
    exact (Array.empty_append).trans (pauses_skipIfPressed m.advanced (m.keyNamed x) expected)
  refine ⟨hAsks, hPauses, fun answer hAnswer => ?_, fun error hAnswer => ?_⟩
  · have hSkip := skipIfPressed_value (m := m.advanced) hAnswer expected
    have hMoved :=
      m.moved_skipIf (Device.pressed m.device (m.keyNamed x)).state (answer == expected)
    simp only [beq_iff_eq] at hMoved
    rw [hStep, hSkip]
    exact ⟨rfl, hMoved⟩
  · have hStopped : (Device.pressed m.device (m.keyNamed x)).answer.toExcept =
        .error (.fault (.device error)) := by
      rw [hAnswer]
      rfl
    have hSkip := skipIfPressed_stopped (m := m.advanced) hStopped expected
    refine ⟨?_, hAsks, ?_, ?_⟩
    · rw [hStep, hSkip]
      rfl
    · rw [hPauses]
      rfl
    · rw [hStep, hSkip]
      exact m.moved_advanced _

/-- What the instructions that ask about a key do on any device. They ask about the key that `VX`
names and about nothing else. A wait that hears `n` times that the key is not down and then that it
is, or a failure, has asked `n + 1` times and slept `n` times; one that hears nothing else than that
the key is not down uses up any patience. The other two instructions ask once, and on the same
answer one of them skips and the other does not. -/
theorem key_instructions_ask {m : Machine σ} {w : Word} (hWord : m.nextWord? = some w)
    (x : Fin 16) :
    let key := UInt8.ofNat ((m.registers.reg x).toNat % 16)
    (w.digits = ⟨0xF, x, 0x0, 0xA⟩ →
      (∀ patience, ∃ asked, m.asks patience [.step] = List.replicate asked (.pressed key)) ∧
      (∀ n patience, Device.Silent key n m.device → n < patience →
        (Device.answerAt key n m.device = .value true →
          m.StepAsks patience key (n + 1) n ∧ (m.step patience).result = .ok .running) ∧
        ∀ error, Device.answerAt key n m.device = .failed error →
          m.StepAsks patience key (n + 1) n ∧
            (m.step patience).result = .error (.fault (.device error))) ∧
      ((∀ n, Device.answerAt key n m.device = .value false) → ∀ patience,
        m.StepAsks patience key patience patience ∧
          (m.step patience).result = .error .unanswered)) ∧
    (w.digits = ⟨0xE, x, 0x9, 0xE⟩ → ∀ patience, m.SkipsOnKey patience key true) ∧
    (w.digits = ⟨0xE, x, 0xA, 0x1⟩ → ∀ patience, m.SkipsOnKey patience key false) := by
  intro key
  have hAwait (hDigits : w.digits = ⟨0xF, x, 0x0, 0xA⟩) :
      Operation.ofDigits? w.digits = some .awaitKey ∧ w.digits.x = x :=
    hDigits ▸ ⟨rfl, rfl⟩
  refine ⟨fun hDigits => ⟨fun patience => ?_, fun n patience hSilent hPatience => ?_,
    fun hSilent patience => ?_⟩, fun hDigits patience => ?_, fun hDigits patience => ?_⟩
  · obtain ⟨hOp, hX⟩ := hAwait hDigits
    rcases Device.decides_or_silent key patience m.device with ⟨n, hPatience, hDecides⟩ | hSilent
    · exact ⟨n + 1, (stepAsks_of_decides hWord hOp hX hDecides hPatience).1.asks⟩
    · exact ⟨patience, (stepAsks_of_silent hWord hOp hX hSilent).1.asks⟩
  · obtain ⟨hOp, hX⟩ := hAwait hDigits
    have hEnd {answer : Answer Bool} (hAnswer : Device.answerAt key n m.device = answer)
        (hSpeaks : answer ≠ .value false) :
        m.StepAsks patience key (n + 1) n ∧
          (m.step patience).result = answer.toExcept.map fun _ => .running :=
      hAnswer ▸ stepAsks_of_decides hWord hOp hX ⟨hSilent, hAnswer ▸ hSpeaks⟩ hPatience
    exact ⟨fun hDown => hEnd hDown nofun, fun error hFailed => hEnd hFailed nofun⟩
  · obtain ⟨hOp, hX⟩ := hAwait hDigits
    exact stepAsks_of_silent hWord hOp hX fun n _ => hSilent n
  · have hOp : Operation.ofDigits? w.digits = some (keySkip true) := hDigits ▸ rfl
    exact skipsOnKey_of_operation hWord hOp (congrArg Digits.x hDigits) patience
  · have hOp : Operation.ofDigits? w.digits = some (keySkip false) := hDigits ▸ rfl
    exact skipsOnKey_of_operation hWord hOp (congrArg Digits.x hDigits) patience

/-- Three instructions about the key 7, named by the register value `0x37`, on a keypad on which it
is down at the third question. The wait asks three times and sleeps twice, for five milliseconds. On
the one answer of no that they get, one of the others goes on to the next instruction and the other
one passes over it. -/
theorem key_instructions_ask_third :
    ∃ (wait skipDown skipUp : Machine ScriptedDevice) (w wDown wUp : Word),
      (wait.nextWord? = some w ∧ w.digits = ⟨0xF, 0x1, 0x0, 0xA⟩ ∧
        wait.registers.reg 0x1 = 0x37 ∧
        Device.Silent 7 2 wait.device ∧ Device.answerAt 7 2 wait.device = .value true ∧
        (wait.step 9).result = .ok .running ∧
        wait.asks 9 [.step] = [.pressed 7, .pressed 7, .pressed 7] ∧
        (wait.step 9).effects.pauses = #[5, 5]) ∧
      (skipDown.nextWord? = some wDown ∧ wDown.digits = ⟨0xE, 0x1, 0x9, 0xE⟩ ∧
        skipUp.nextWord? = some wUp ∧ wUp.digits = ⟨0xE, 0x1, 0xA, 0x1⟩ ∧
        (Device.pressed skipDown.device 7).answer = .value false ∧
        (Device.pressed skipUp.device 7).answer = .value false ∧
        (skipDown.step 0).machine.registers.pc.toNat = 0x202 ∧
        (skipUp.step 0).machine.registers.pc.toNat = 0x204 ∧
        skipDown.asks 0 [.step] = [.pressed 7] ∧ skipUp.asks 0 [.step] = [.pressed 7]) := by
  let m (high low : UInt8) : Machine ScriptedDevice :=
    { ram := ⟨Array.replicate 0x200 0 ++ #[high, low]⟩
      registers :=
        { Registers.initial with
          v := #v[0, 0x37, 0, 0, 0, 0, 0, 0, 0, 0, 0, 0, 0, 0, 0, 0]
          programEnd := 0x202 }
      depth := 0
      state := .running
      random := default
      device := { script := { keys := [[], [3], [7]] }, screen := Bitmap.standard } }
  have hWait : (m 0xF1 0x0A).nextWord? = some ⟨0xF10A⟩ := by decide +kernel
  have hDown : (m 0xE1 0x9E).nextWord? = some ⟨0xE19E⟩ := by decide +kernel
  have hUp : (m 0xE1 0xA1).nextWord? = some ⟨0xE1A1⟩ := by decide +kernel
  have hSilent : Device.Silent 7 2 (m 0xF1 0x0A).device := by
    intro k hk
    interval_cases k
    · rfl
    · rfl
  have hThird : Device.answerAt 7 2 (m 0xF1 0x0A).device = .value true := rfl
  have hNamed (high low : UInt8) : (m high low).registers.reg 0x1 = 0x37 := rfl
  have hKey : UInt8.ofNat ((0x37 : UInt8).toNat % 16) = 7 := by decide
  obtain ⟨hAwait, -⟩ := key_instructions_ask hWait 0x1
  obtain ⟨-, hSkipDown, -⟩ := key_instructions_ask hDown 0x1
  obtain ⟨-, -, hSkipUp⟩ := key_instructions_ask hUp 0x1
  obtain ⟨-, hEnds, -⟩ := hAwait (by decide)
  rw [hNamed, hKey] at hEnds hSkipDown hSkipUp
  obtain ⟨hAsks, hResult⟩ := (hEnds 2 9 hSilent (by decide)).1 hThird
  have hStays := hSkipDown (by decide) 0
  have hSkips := hSkipUp (by decide) 0
  refine ⟨m 0xF1 0x0A, m 0xE1 0x9E, m 0xE1 0xA1, _, _, _,
    ⟨hWait, by decide, hNamed _ _, hSilent, hThird, hResult, hAsks.asks,
      Array.toList_inj.1 hAsks.pauses⟩,
    hDown, by decide, hUp, by decide, rfl, rfl, ?_, ?_, hStays.asks, hSkips.asks⟩
  · exact (hStays.answered false rfl).2.toNat_pc
  · exact (hSkips.answered false rfl).2.toNat_pc

end Machine

end Chip8
