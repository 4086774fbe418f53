import Mathlib.Tactic
import Chip8.Proofs.SessionStart

/-!
# The schedule of a session

A host does four things with a machine: it steps, it counts the timers down, it shows the screen and
it flushes the keys. `schedule k n` is the order in which it does so until it has made `n` steps, if
a frame has `k` of them. A session keeps to this schedule, whatever the program does, whatever the
user types and whether or not its terminal can draw (`Session.keeps_schedule`).
-/

namespace Chip8

/-- What a host does with a machine. -/
inductive HostCall where
  | step
  | tick
  | refresh
  | flush
  deriving DecidableEq, Repr

/-- What a host does until it has made `n` steps and, if they complete a frame of `k` steps, what it
does at the end of the frame. -/
def schedule (k : Nat) : Nat → List HostCall
  | 0 => []
  | n + 1 => schedule k n ++ .step :: if k ∣ n + 1 then [.tick, .refresh, .flush] else []

theorem schedule_succ_of_dvd {k n : Nat} (h : k ∣ n + 1) :
    schedule k (n + 1) = schedule k n ++ [.step, .tick, .refresh, .flush] := by
  rw [schedule, if_pos h]

theorem schedule_succ_of_not_dvd {k n : Nat} (h : ¬ k ∣ n + 1) :
    schedule k (n + 1) = schedule k n ++ [.step] := by
  rw [schedule, if_neg h]

theorem count_step_schedule (k n : Nat) : (schedule k n).count .step = n := by
  induction n with
  | zero => rfl
  | succ n ih =>
      by_cases h : k ∣ n + 1
      · simp [schedule_succ_of_dvd h, ih]
      · simp [schedule_succ_of_not_dvd h, ih]

/-- Everything but a step is done once a frame. -/
theorem count_schedule {k : Nat} {call : HostCall} (hCall : call ≠ .step) (n : Nat) :
    (schedule k n).count call = n / k := by
  induction n with
  | zero => simp [schedule]
  | succ n ih =>
      rw [Nat.succ_div]
      by_cases h : k ∣ n + 1
      · rw [schedule_succ_of_dvd h, List.count_append, ih, if_pos h]
        cases call
        case step => exact absurd rfl hCall
        all_goals rfl
      · rw [schedule_succ_of_not_dvd h, List.count_append, ih, if_neg h]
        cases call
        case step => exact absurd rfl hCall
        all_goals rfl

/-- A host leads a machine to another one by the given calls. Its steps let the machine run on, and
what comes of the other calls does not matter. -/
inductive Machine.Plays (m₀ : Machine Console) : List HostCall → Machine Console → Prop where
  | start : m₀.Plays [] m₀
  | step {calls : List HostCall} {m : Machine Console} (hPlays : m₀.Plays calls m) {patience : Nat}
      (hRunning : (m.step patience).result = .ok .running) :
      m₀.Plays (calls ++ [.step]) (m.step patience).machine
  | tick {calls : List HostCall} {m : Machine Console} (hPlays : m₀.Plays calls m) :
      m₀.Plays (calls ++ [.tick]) m.tick
  | refresh {calls : List HostCall} {m : Machine Console} (hPlays : m₀.Plays calls m) :
      m₀.Plays (calls ++ [.refresh]) m.refreshed
  | flush {calls : List HostCall} {m : Machine Console} (hPlays : m₀.Plays calls m) :
      m₀.Plays (calls ++ [.flush]) m.flushed

/-- The calls up to a flush at the end of a frame. -/
theorem Machine.Plays.frameEnd {m₀ m : Machine Console} {calls : List HostCall}
    (h : m₀.Plays (calls ++ [.step]) m) :
    m₀.Plays (calls ++ [.step, .tick, .refresh]) m.tick.refreshed := by
  have hShown := h.tick.refresh
  simpa using hShown

namespace Session

variable {s₀ s t : Session}

/-- The session keeps to the schedule of frames of `k` steps. -/
structure Keeps (k : Nat) (s₀ s : Session) : Prop where
  perFrame : s.perFrame = k
  /-- The current frame is `left` steps from its end. -/
  frame : ∃ frames, s.steps + s.left = (frames + 1) * k
  left_le : s.left ≤ k
  inside : 0 < s.left → s₀.machine.Plays (schedule k s.steps) s.machine
  atEnd : s.left = 0 → s₀.machine.Plays (schedule k (s.steps - 1) ++ [.step]) s.machine
  buffer : s.left = k → s.keyboard.buffer = #[]

namespace Keeps

variable {k : Nat}

/-- A frame that has all its steps before it has just begun. -/
theorem left_eq_of_dvd (h : Keeps k s₀ s) (hLeft : 0 < s.left) (hSteps : k ∣ s.steps) :
    s.left = k := by
  obtain ⟨frames, hFrame⟩ := h.frame
  have hDvd : k ∣ s.left := by
    rw [← Nat.dvd_add_right hSteps, hFrame]
    exact Nat.dvd_mul_left k _
  exact Nat.le_antisymm h.left_le (Nat.le_of_dvd hLeft hDvd)

/-- A frame that has no steps left has had one. -/
theorem exists_steps (h : Keeps k s₀ s) (hPos : 0 < k) (hLeft : s.left = 0) :
    ∃ n, s.steps = n + 1 ∧ k ∣ n + 1 := by
  obtain ⟨frames, hFrame⟩ := h.frame
  rw [hLeft, Nat.add_zero] at hFrame
  have hSteps : 0 < s.steps := hFrame ▸ Nat.mul_pos frames.succ_pos hPos
  obtain ⟨n, hn⟩ := Nat.exists_eq_succ_of_ne_zero hSteps.ne'
  exact ⟨n, hn, Dvd.intro_left _ (hFrame.symm.trans hn)⟩

/-- A frame with more than one step left is not complete after the next one. -/
theorem not_dvd_succ (h : Keeps k s₀ s) (hLeft : 1 < s.left) : ¬ k ∣ s.steps + 1 := by
  intro hDvd
  obtain ⟨frames, hFrame⟩ := h.frame
  have hSum : s.steps + 1 + (s.left - 1) = (frames + 1) * k := by omega
  have hRest : k ∣ s.left - 1 := by
    rw [← Nat.dvd_add_right hDvd, hSum]
    exact Nat.dvd_mul_left k _
  have hLe := Nat.le_of_dvd (by omega) hRest
  have hAll := h.left_le
  omega

theorem advance (h : Keeps k s₀ s) (hPos : 0 < k) (hSound : s.Sound) {patience : Nat}
    (hGoing : s.advance patience = .going t) : Keeps k s₀ t := by
  obtain ⟨frames, hFrame⟩ := h.frame
  have hLe := h.left_le
  rcases going_cases hSound hGoing with ⟨left, notices, hLeft, hRunning, -, rfl⟩ |
    ⟨notices, hLeft, -, hFlush, rfl⟩
  · have hPlays := (h.inside (by omega)).step hRunning
    refine ⟨h.perFrame, ⟨frames, by simp only; omega⟩, by simp only; omega, fun hInside => ?_,
      fun hEnd => hPlays, fun hAll => ?_⟩
    · -- The frame is not complete, so nothing follows the step.
      simp only at hInside
      rw [schedule_succ_of_not_dvd (h.not_dvd_succ (by omega))]
      exact hPlays
    · simp only at hAll
      omega
  · obtain ⟨n, hn, hDvd⟩ := h.exists_steps hPos hLeft
    have hEnd := h.atEnd hLeft
    rw [hn] at hEnd
    refine ⟨h.perFrame, ⟨frames + 1, ?_⟩, h.perFrame.le, fun _ => ?_, fun hNone => ?_, fun _ => ?_⟩
    · simp only [h.perFrame]
      rw [hLeft, Nat.add_zero] at hFrame
      rw [hFrame, Nat.succ_mul (frames + 1)]
    · have hFlushed := hEnd.frameEnd.flush
      simp only [hn, schedule_succ_of_dvd hDvd]
      simpa using hFlushed
    · simp only [h.perFrame] at hNone
      omega
    · rcases s.machine.tick.refreshed.device.keys.flush_cases with ⟨-, hBuffer⟩ | ⟨error, hFailed⟩
      · exact hBuffer
      · rw [hFlush] at hFailed
        cases hFailed

theorem of_start {o : Options} {e : Environment} (hStart : start o e = .ok s₀) :
    Keeps (max 1 (o.hz / 60)) s₀ s₀ := by
  have hDevice := device_of_start hStart
  obtain ⟨program, notices, -, -, rfl⟩ := eq_of_start hStart
  have hFrame : instructionsPerFrame o.hz = max 1 (o.hz / 60) := rfl
  refine ⟨rfl, ⟨0, ?_⟩, le_rfl, fun _ => .start, fun hNone => ?_, fun _ => ?_⟩
  · rw [hFrame, Nat.zero_add, Nat.zero_add, Nat.one_mul]
  · simp only [hFrame] at hNone
    omega
  · rw [keyboard, hDevice]
    rfl

end Keeps

theorem Reaches.keeps {o : Options} {e : Environment} (hReaches : s₀.Reaches s)
    (hStart : Session.start o e = .ok s₀) : Keeps (max 1 (o.hz / 60)) s₀ s :=
  hReaches.induct (sound_of_start hStart) (.of_start hStart) fun _ hSound hKeeps hGoing =>
    hKeeps.advance (le_max_left 1 _) hSound hGoing

/-- A session keeps to the schedule. Whenever it is about to execute an instruction, its machine is
what the schedule makes of the first one, each step having gone well, and at the beginning of a
frame no key is remembered. The schedule has each tick behind the last step of a frame, and behind
each tick one refresh and one flush. A session that ends there does so because the user asked to
quit, before the flush, or because the flush fails. Nothing depends on what a refresh comes to. -/
theorem keeps_schedule {o : Options} {e : Environment} (hStart : start o e = .ok s₀) :
    let perFrame := max 1 (o.hz / 60)
    (∀ s, s₀.Reaches s → 0 < s.left →
      s₀.machine.Plays (schedule perFrame s.steps) s.machine ∧
      (perFrame ∣ s.steps → s.keyboard.buffer = #[])) ∧
    (∀ n, (schedule perFrame n).count .step = n ∧
      ∀ call, call ≠ .step → (schedule perFrame n).count call = n / perFrame) ∧
    ∀ s patience t result, s₀.Reaches s → s.left = 0 → s.advance patience = .ended t result →
      perFrame ∣ s.steps ∧
      ((t.keyboard.quitRequested = true ∧ result = .ok () ∧
          s₀.machine.Plays (schedule perFrame (s.steps - 1) ++ [.step, .tick, .refresh])
            t.machine) ∨
        ∃ error, result = .error (.fault (.device error)) ∧
          s₀.machine.Plays (schedule perFrame (s.steps - 1) ++ [.step, .tick, .refresh, .flush])
            t.machine) := by
  intro perFrame
  refine ⟨fun s hReaches hLeft => ?_, fun n => ?_,
    fun s patience t result hReaches hLeft hEnded => ?_⟩
  · have hKeeps := hReaches.keeps hStart
    exact ⟨hKeeps.inside hLeft, fun hDvd => hKeeps.buffer (hKeeps.left_eq_of_dvd hLeft hDvd)⟩
  · exact ⟨count_step_schedule _ n, fun call hCall => count_schedule hCall n⟩
  · have hKeeps := hReaches.keeps hStart
    obtain ⟨n, hn, hDvd⟩ := hKeeps.exists_steps (le_max_left 1 _) hLeft
    have hShown := (hKeeps.atEnd hLeft).frameEnd
    refine ⟨hn ▸ hDvd, ?_⟩
    rcases ended_cases (hReaches.sound (sound_of_start hStart)) hEnded with
      ⟨left, notices, hStep, -⟩ | ⟨left, notices, hStep, -⟩ |
      ⟨notices, -, hQuit, rfl, rfl⟩ | ⟨notices, error, -, -, -, rfl, rfl⟩
    · rw [hLeft] at hStep
      cases hStep
    · rw [hLeft] at hStep
      cases hStep
    · exact Or.inl ⟨hQuit, rfl, hShown⟩
    · have hFlushed := hShown.flush
      rw [List.append_assoc] at hFlushed
      exact Or.inr ⟨error, rfl, hFlushed⟩

/-- A program that sets the delay timer and counts, with frames of two instructions, on a terminal
that refuses the first two drawings: after five instructions the timer is down by two. -/
theorem keeps_schedule_refused :
    ∃ (o : Options) (e : Environment) (s₀ s : Session),
      start o e = .ok s₀ ∧ s₀.Reaches s ∧ o.hz = 125 ∧ .draw ∉ e.canvasRefuses ∧
      e.canvasLoses 1 ≠ none ∧ e.canvasLoses 2 = none ∧
      s.machine.registers.delayTimer = 3 ∧ s.canvas.drawCalls = 2 ∧
      s₀.machine.Plays
        [.step, .step, .tick, .refresh, .flush, .step, .step, .tick, .refresh, .flush, .step]
        s.machine := by
  let o : Options := { program := "count.ch8", hz := 125 }
  let e : Environment :=
    { program := some [0x61, 0x05, 0xF1, 0x15, 0x72, 0x01, 0x12, 0x04]
      canvasLoses := fun n => if n < 2 then some ⟨.other, "terminal busy"⟩ else none
      batches := [[.character 'x']] }
  have hRun : (reached? o e 0 7).map
      (fun s => (s.steps, s.left, s.machine.registers.delayTimer, s.canvas.drawCalls)) =
      some (5, 1, 3, 2) := by
    decide +kernel
  obtain ⟨s, hReached, hFields⟩ := Option.map_eq_some_iff.1 hRun
  obtain ⟨s₀, hStart, -, hReaches⟩ := exists_of_reached? hReached
  obtain ⟨hSteps, hLeft, hTimer, hDraws⟩ : s.steps = 5 ∧ s.left = 1 ∧
      s.machine.registers.delayTimer = 3 ∧ s.canvas.drawCalls = 2 := by
    simpa using hFields
  obtain ⟨hPlays, -⟩ := (keeps_schedule hStart).1 s hReaches (by omega)
  have hCalls : schedule (max 1 (o.hz / 60)) 5 =
      [.step, .step, .tick, .refresh, .flush, .step, .step, .tick, .refresh, .flush, .step] := by
    decide
  rw [hSteps, hCalls] at hPlays
  exact ⟨o, e, s₀, s, hStart, hReaches, rfl, List.not_mem_nil, nofun, rfl, hTimer, hDraws, hPlays⟩

end Session

end Chip8
