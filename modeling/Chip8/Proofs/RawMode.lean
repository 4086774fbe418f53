import Mathlib.Tactic
import Chip8.Proofs.Recording
import Chip8.Proofs.SessionKeys
import Chip8.Proofs.SessionStart

/-!
# The terminal is given back

A session puts its terminal into raw mode once, after all else that it needs to start, and takes it
out of raw mode at its end, whatever that end is. What the terminal answers to the second call is
only told: sessions whose terminals refuse it go on and end as other sessions do
(`Session.advance_refusing`).
-/

namespace Chip8

/-- A reply of a part and the next one, seen from the whole. -/
theorem Reply.andThen_mapState {σ τ α β : Type} (embed : σ → τ) (r : Reply σ α)
    {next : σ → α → Reply σ β} {next' : τ → α → Reply τ β}
    (hNext : ∀ state answer, next' (embed state) answer = (next state answer).mapState embed) :
    (r.mapState embed).andThen next' = (r.andThen next).mapState embed := by
  obtain ⟨state, answer, notices⟩ := r
  cases answer with
  | value answer => simp only [andThen, mapState, hNext]
  | failed error => rfl
  | aborted cause => rfl

namespace Keyboard

/-- The keyboard on a terminal that refuses the given calls. -/
def refusing (refused : List KeyboardCall) (k : Keyboard) : Keyboard :=
  { k with refused }

variable (refused : List KeyboardCall)

/-- A drain does not depend on what the terminal refuses. -/
theorem drain_refusing (k : Keyboard) :
    (k.refusing refused).drain = k.drain.mapState (refusing refused) := by
  rw [drain_eq, drain_eq]
  rfl

theorem pressed_refusing (k : Keyboard) (key : UInt8) :
    (k.refusing refused).pressed key = (k.pressed key).mapState (refusing refused) := by
  rw [pressed, pressed, drain_refusing]
  refine Reply.andThen_mapState _ _ fun k () => ?_
  cases hQuit : k.quitRequested with
  | true => simp only [refusing, hQuit, Reply.failed, Reply.mapState, if_true]
  | false => simp only [refusing, hQuit, Reply.value, Reply.mapState, if_false, Bool.false_eq_true]

theorem flush_refusing (k : Keyboard) :
    (k.refusing refused).flush = k.flush.mapState (refusing refused) := by
  rw [flush, flush, drain_refusing]
  exact Reply.andThen_mapState _ _ fun _ () => rfl

/-- Since raw mode was entered the keyboard has only been drained. -/
def Drained (k : Keyboard) : Prop :=
  ∃ n, k.calls.toList = .enableRawMode :: List.replicate n .drain

theorem kept_drained : Kept Drained where
  drain k := by
    rintro ⟨n, hCalls⟩
    refine ⟨n + 1, ?_⟩
    rw [calls_drain, Array.toList_push, hCalls, List.cons_append, List.replicate_succ']
  forget _ hDrained := hDrained

end Keyboard

/-- The console on a terminal that refuses the given calls to its keyboard. -/
def Console.refusing (refused : List KeyboardCall) : Device.Hom Console Console where
  map d := { d with keys := d.keys.refusing refused }
  clear _ := rfl
  toggle d x y := by
    change Board.toggle _ x y = (Board.toggle d x y).mapState _
    rw [Board.toggle, Board.toggle]
    cases d.screen.toggle x y with
    | ok flipped => rfl
    | error cause => rfl
  pressed d key := by
    change ((d.keys.refusing refused).pressed key).mapState _ = _
    rw [Keyboard.pressed_refusing]
    rfl
  pollInterval _ := rfl

namespace Machine

/-- The machine on a terminal that refuses the given calls to its keyboard. -/
def refusing (refused : List KeyboardCall) (m : Machine Console) : Machine Console :=
  { m with device := (Console.refusing refused).map m.device }

theorem embed_refusing (refused : List KeyboardCall) (m : Machine Console) :
    Embedding.machine { device := Console.refusing refused } m = m.refusing refused := by
  change { m with ram := m.ram.extend #[], device := (Console.refusing refused).map m.device } = _
  rw [Ram.extend_empty]
  rfl

/-- A step does not depend on which calls the terminal refuses to the keyboard. -/
theorem step_refusing (refused : List KeyboardCall) (m : Machine Console) (patience : Nat) :
    (m.refusing refused).step patience =
      { m.step patience with machine := (m.step patience).machine.refusing refused } := by
  have hStep := Embedding.step_embed { device := Console.refusing refused }
    (Embedding.keeps_of_above rfl (m.step patience))
  rw [embed_refusing] at hStep
  rw [hStep, Embedding.outcome, embed_refusing]

theorem load_refusing (refused : List KeyboardCall) (m : Machine Console) (program : List UInt8) :
    (m.refusing refused).load program =
      { m.load program with machine := (m.load program).machine.refusing refused } := by
  have hLoad := Embedding.load_embed { device := Console.refusing refused }
    (Embedding.keeps_of_above rfl (m.load program))
  rw [embed_refusing] at hLoad
  rw [hLoad, Embedding.outcome, embed_refusing]

end Machine

namespace Session

/-- The session on a terminal that refuses the given calls to its keyboard. -/
def refusing (refused : List KeyboardCall) (s : Session) : Session :=
  { s with machine := s.machine.refusing refused }

end Session

/-- What the small step of a session comes to on a terminal that refuses the given calls to its
keyboard. -/
def Progress.refusing (refused : List KeyboardCall) : Progress → Progress
  | going s => going (s.refusing refused)
  | waiting s => waiting (s.refusing refused)
  | ended s result => ended (s.refusing refused) result

namespace Session

variable (refused : List KeyboardCall)

theorem countStep_refusing (s : Session) (left : Nat) :
    (s.refusing refused).countStep left = (s.countStep left).refusing refused := by
  have hLimit : (s.refusing refused).limit = s.limit := rfl
  have hSteps : (s.refusing refused).steps = s.steps := rfl
  rw [countStep, countStep]
  simp only [hLimit, hSteps]
  cases s.limit with
  | none => rfl
  | some limit =>
      by_cases hReached : limit ≤ s.steps + 1
      · simp only [if_pos hReached]
        rfl
      · simp only [if_neg hReached]
        rfl

theorem stepMachine_refusing (s : Session) (patience left : Nat) :
    (s.refusing refused).stepMachine patience left =
      (s.stepMachine patience left).refusing refused := by
  have hStep : (s.refusing refused).machine.step patience = _ :=
    s.machine.step_refusing refused patience
  rw [stepMachine, stepMachine, hStep]
  dsimp only
  cases (s.machine.step patience).result with
  | ok state =>
      cases state with
      | running =>
          let t : Session := { s with machine := (s.machine.step patience).machine }
          exact countStep_refusing refused (t.tell (s.machine.step patience).effects.notices) left
      | halted => rfl
  | error cause =>
      cases cause with
      | unanswered => rfl
      | abort cause => rfl
      | fault fault =>
          by_cases hInterrupted : isInterruption fault = true
          · simp only [if_pos hInterrupted]
            rfl
          · simp only [if_neg hInterrupted]
            rfl

theorem flushKeys_refusing (s : Session) :
    (s.refusing refused).flushKeys = s.flushKeys.refusing refused := by
  have hFlush : (s.refusing refused).keyboard.flush = _ := s.keyboard.flush_refusing refused
  rw [flushKeys, flushKeys, hFlush]
  simp only [Reply.mapState]
  cases s.keyboard.flush.answer.toExcept with
  | ok done => rfl
  | error cause => rfl

/-- The end of a frame after its picture. -/
theorem closeFrame_refusing (s : Session) :
    (if (s.refusing refused).keyboard.quitRequested then
        Progress.ended (s.refusing refused) (.ok ())
      else (s.refusing refused).flushKeys) =
      (if s.keyboard.quitRequested then Progress.ended s (.ok ()) else s.flushKeys).refusing
        refused := by
  have hSame : (s.refusing refused).keyboard.quitRequested = s.keyboard.quitRequested := rfl
  rw [hSame]
  cases s.keyboard.quitRequested with
  | true => rfl
  | false => exact s.flushKeys_refusing refused

theorem endFrame_refusing (s : Session) :
    (s.refusing refused).endFrame = s.endFrame.refusing refused := by
  have hShown : (s.refusing refused).machine.tick.device.refresh =
      s.machine.tick.device.refresh.mapState (Console.refusing refused).map := rfl
  let t := ({ s with machine := s.machine.tick }.withDevice
    s.machine.tick.device.refresh.state).tell s.machine.tick.device.refresh.notices
  rw [endFrame, endFrame]
  simp only [hShown, Reply.mapState]
  cases s.machine.tick.device.refresh.answer with
  | value answer => exact closeFrame_refusing refused t
  | failed error => exact closeFrame_refusing refused (t.tell #[.refreshFailed error])
  | aborted cause => rfl

theorem advance_refusing (s : Session) (patience : Nat) :
    (s.refusing refused).advance patience = (s.advance patience).refusing refused := by
  have hLeft : (s.refusing refused).left = s.left := rfl
  rw [advance, advance, hLeft]
  cases s.left with
  | zero => exact s.endFrame_refusing refused
  | succ left => exact s.stepMachine_refusing refused patience left

/-- What a session comes to does not depend on which calls the terminal refuses to the keyboard. -/
theorem result_run_refusing (s : Session) (patience fuel : Nat) :
    ((s.refusing refused).run patience fuel).map Report.result =
      (s.run patience fuel).map Report.result := by
  induction fuel generalizing s with
  | zero => rfl
  | succ fuel ih =>
      rw [run, run, advance_refusing]
      cases s.advance patience with
      | going t => exact ih t
      | waiting t => rfl
      | ended t result => rfl

variable {o : Options} {e : Environment} {s : Session} {r : Report} {patience fuel : Nat}

/-- What a load comes to does not depend on them either. -/
theorem loadProgram_refusing (s : Session) (program : Option (List UInt8)) :
    (∃ r r', s.loadProgram program = .error r ∧
      (s.refusing refused).loadProgram program = .error r' ∧ r'.result = r.result) ∨
    ∃ t, s.loadProgram program = .ok t ∧
      (s.refusing refused).loadProgram program = .ok (t.refusing refused) := by
  cases program with
  | none => exact Or.inl ⟨_, _, rfl, rfl, rfl⟩
  | some bytes =>
      have hLoad : (s.refusing refused).machine.load bytes = _ :=
        s.machine.load_refusing refused bytes
      simp only [loadProgram, Machine.loadFrom, ByteSource.contents_single, hLoad]
      cases (s.machine.load bytes).result with
      | ok done => exact Or.inr ⟨_, rfl, rfl⟩
      | error cause => exact Or.inl ⟨_, _, rfl, rfl, rfl⟩

/-- What a session comes to, at its start or at its end; `none` if `fuel` small steps or the
patience are not enough. -/
def report? (o : Options) (e : Environment) (patience fuel : Nat) : Option Report :=
  match start o e with
  | .error r => some r
  | .ok s => s.run patience fuel

/-- Of the calls that the terminal refuses to the keyboard, only the one that enters raw mode makes
a difference to the result. -/
theorem result_report_refusing {refused : List KeyboardCall}
    (hSame : .enableRawMode ∈ refused ↔ .enableRawMode ∈ e.keyboardRefuses)
    (patience fuel : Nat) :
    (report? o { e with keyboardRefuses := refused } patience fuel).map Report.result =
      (report? o e patience fuel).map Report.result := by
  by_cases hOpens : OpensKeyboard o e
  · have hOpens' : OpensKeyboard o { e with keyboardRefuses := refused } :=
      ⟨hOpens.verbosity, hOpens.memory, hOpens.canvas⟩
    by_cases hRefused : .enableRawMode ∈ e.keyboardRefuses
    · rw [report?, report?, start_of_refused hOpens hRefused,
        start_of_refused hOpens' (hSame.2 hRefused)]
      rfl
    · have hPowered : powered o { e with keyboardRefuses := refused } =
          (powered o e).refusing refused := rfl
      rw [report?, report?, start_of_entered hOpens hRefused,
        start_of_entered hOpens' (fun h => hRefused (hSame.1 h)), hPowered]
      rcases loadProgram_refusing refused (powered o e) e.program with
        ⟨r, r', hLoad, hLoad', hResult⟩ | ⟨t, hLoad, hLoad'⟩
      · rw [hLoad, hLoad']
        exact congrArg some hResult
      · rw [hLoad, hLoad']
        exact result_run_refusing refused t patience fuel
  · obtain ⟨r, -, hStart⟩ := start_of_not_opens hOpens
    have hStart' : start o e = .error r := hStart e.keyboardRefuses
    rw [report?, report?, hStart refused, hStart']

theorem calls_finish (s : Session) (result : Except Stop Unit) :
    (s.finish result).keyboard.calls.toList = s.keyboard.calls.toList ++ [.disableRawMode] :=
  Array.toList_push

/-- A session that ends gives the terminal back. -/
theorem calls_run (hSound : s.Sound) (hDrained : s.keyboard.Drained)
    (h : s.run patience fuel = some r) :
    ∃ n, r.keyboard.calls.toList =
      .enableRawMode :: (List.replicate n .drain ++ [.disableRawMode]) := by
  induction fuel generalizing s with
  | zero => cases h
  | succ fuel ih =>
      have hAdvance := Keyboard.kept_drained.advance hSound hDrained patience
      rw [run] at h
      split at h
      · rename_i t hGoing
        rw [hGoing] at hAdvance
        exact ih (hSound.advance hGoing) hAdvance h
      · cases h
      · rename_i t result hEnded
        rw [hEnded] at hAdvance
        obtain ⟨n, hCalls⟩ := hAdvance
        change t.keyboard.calls.toList = _ at hCalls
        obtain rfl := Option.some.inj h
        refine ⟨n, ?_⟩
        rw [calls_finish, hCalls]
        rfl

theorem calls_of_entered (hOpens : OpensKeyboard o e) (hEnters : .enableRawMode ∉ e.keyboardRefuses)
    (h : report? o e patience fuel = some r) :
    ∃ n, r.keyboard.calls.toList =
      .enableRawMode :: (List.replicate n .drain ++ [.disableRawMode]) := by
  have hStart := start_of_entered hOpens hEnters
  rw [report?] at h
  rcases (powered o e).loadProgram_cases e.program with
    ⟨t, result, hKeyboard, hLoad⟩ | ⟨bytes, notices, -, hLoad⟩
  · rw [hStart, hLoad] at h
    obtain rfl := Option.some.inj h
    refine ⟨0, ?_⟩
    rw [calls_finish, hKeyboard]
    rfl
  · rw [hLoad] at hStart
    rw [hStart] at h
    refine calls_run (sound_of_start hStart) ?_ h
    rw [keyboard, device_of_start hStart]
    exact ⟨0, rfl⟩

/-- What a session asks of its keyboard, from its start to its end. -/
theorem calls_of_report (h : report? o e patience fuel = some r) :
    (¬ OpensKeyboard o e ∧ r.keyboard.calls.toList = []) ∨
    (OpensKeyboard o e ∧ .enableRawMode ∈ e.keyboardRefuses ∧
      r.keyboard.calls.toList = [.enableRawMode]) ∨
    (OpensKeyboard o e ∧ .enableRawMode ∉ e.keyboardRefuses ∧
      ∃ n, r.keyboard.calls.toList =
        .enableRawMode :: (List.replicate n .drain ++ [.disableRawMode])) := by
  by_cases hOpens : OpensKeyboard o e
  · by_cases hRefused : .enableRawMode ∈ e.keyboardRefuses
    · rw [report?, start_of_refused hOpens hRefused] at h
      obtain rfl := Option.some.inj h
      exact Or.inr (Or.inl ⟨hOpens, hRefused, rfl⟩)
    · exact Or.inr (Or.inr ⟨hOpens, hRefused, calls_of_entered hOpens hRefused h⟩)
  · obtain ⟨r', hNone, hStart⟩ := start_of_not_opens hOpens
    have hStarted : start o e = .error r' := hStart e.keyboardRefuses
    rw [report?, hStarted] at h
    obtain rfl := Option.some.inj h
    refine Or.inl ⟨hOpens, ?_⟩
    rw [hNone]

/-- What a session asks of its terminal about raw mode, and what of the answers matters. A session
that does not get as far as its keyboard asks for nothing. One that does asks to enter raw mode and,
if the terminal refuses, for nothing else; otherwise, whatever ends the session, it drains the
keyboard some times and at last asks to leave raw mode. So raw mode is left as often as it was
entered, which is at most once. Whether the terminal refuses to leave it makes no difference to the
result. -/
theorem terminal_is_given_back (h : report? o e patience fuel = some r) :
    (¬ OpensKeyboard o e → r.keyboard.calls.toList = []) ∧
    (OpensKeyboard o e → .enableRawMode ∈ e.keyboardRefuses →
      r.keyboard.calls.toList = [.enableRawMode]) ∧
    (OpensKeyboard o e → .enableRawMode ∉ e.keyboardRefuses →
      ∃ n, r.keyboard.calls.toList =
        .enableRawMode :: (List.replicate n .drain ++ [.disableRawMode])) ∧
    (r.keyboard.calls.toList.count .disableRawMode =
        if .enableRawMode ∈ e.keyboardRefuses then 0
        else r.keyboard.calls.toList.count .enableRawMode) ∧
    r.keyboard.calls.toList.count .enableRawMode ≤ 1 ∧
    ∀ refused, (.enableRawMode ∈ refused ↔ .enableRawMode ∈ e.keyboardRefuses) →
      (report? o { e with keyboardRefuses := refused } patience fuel).map Report.result =
        some r.result := by
  have hResult (refused : List KeyboardCall)
      (hSame : .enableRawMode ∈ refused ↔ .enableRawMode ∈ e.keyboardRefuses) :
      (report? o { e with keyboardRefuses := refused } patience fuel).map Report.result =
        some r.result := by
    rw [result_report_refusing hSame, h]
    rfl
  rcases calls_of_report h with ⟨hNot, hCalls⟩ | ⟨hOpens, hRefused, hCalls⟩ |
    ⟨hOpens, hEnters, n, hCalls⟩
  · rw [hCalls]
    refine ⟨fun _ => rfl, fun hOpens => absurd hOpens hNot, fun hOpens => absurd hOpens hNot, ?_,
      Nat.zero_le 1, hResult⟩
    split
    · rfl
    · rfl
  · rw [hCalls, if_pos hRefused]
    exact ⟨fun hNot => absurd hOpens hNot, fun _ _ => rfl, fun _ hEnters => absurd hRefused hEnters,
      rfl, le_rfl, hResult⟩
  · have hCounts : r.keyboard.calls.toList.count .disableRawMode = 1 ∧
        r.keyboard.calls.toList.count .enableRawMode = 1 := by
      rw [hCalls]
      simp [List.count_replicate]
    rw [if_neg hEnters, hCounts.1, hCounts.2]
    exact ⟨fun hNot => absurd hOpens hNot, fun _ hRefused => absurd hRefused hEnters,
      fun _ _ => ⟨n, hCalls⟩, rfl, le_rfl, hResult⟩

/-- Reading the keys fails at the end of the first frame, and the terminal refuses to draw and to
leave raw mode. -/
theorem terminal_is_given_back_stuck :
    ∃ (o : Options) (e : Environment) (r : Report),
      report? o e 0 2 = some r ∧ OpensKeyboard o e ∧ e.keyboardRefuses = [.disableRawMode] ∧
      r.keyboard.calls.toList = [.enableRawMode, .drain, .disableRawMode] ∧
      r.result.toOption = none ∧
      (report? o { e with keyboardRefuses := [] } 0 2).map Report.result = some r.result := by
  let o : Options := { program := "loop.ch8", hz := 60 }
  let e : Environment :=
    { program := some [0x12, 0x00]
      canvasRefuses := [.draw]
      keyboardRefuses := [.disableRawMode]
      batches := [[.escape, .pollFails]] }
  have hRun : ((report? o e 0 2).map fun r => (r.keyboard.calls.size, r.result.toOption)) =
      some (3, none) := by
    decide +kernel
  obtain ⟨r, hReport, hFields⟩ := Option.map_eq_some_iff.1 hRun
  obtain ⟨hSize, hFailed⟩ := Prod.mk.inj hFields
  have hOpens : OpensKeyboard o e := ⟨by decide, by decide, by decide⟩
  have hEnters : KeyboardCall.enableRawMode ∉ e.keyboardRefuses := by decide
  obtain ⟨-, -, hCalls, -, -, hResult⟩ := terminal_is_given_back hReport
  obtain ⟨n, hCalls⟩ := hCalls hOpens hEnters
  have hOnce : n = 1 := by
    have hLength := congrArg List.length hCalls
    simp only [Array.length_toList, hSize, List.length_cons, List.length_append,
      List.length_replicate, List.length_nil] at hLength
    omega
  rw [hOnce] at hCalls
  exact ⟨o, e, r, hReport, hOpens, rfl, hCalls, hFailed, hResult [] (by decide)⟩

end Session

end Chip8
