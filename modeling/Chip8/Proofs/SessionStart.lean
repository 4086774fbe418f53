import Mathlib.Tactic
import Chip8.Proofs.Sessions
import Chip8.Proofs.Starting

/-!
# How a session starts

A session opens its terminal, makes a machine and loads its program. `Session.start_of_not_opens`,
`Session.start_of_refused` and `Session.start_of_entered` say how far it gets. A session that has
started is sound, and nothing is on its terminal yet.
-/

namespace Chip8

/-- The canvas after the terminal has been opened and cleared. -/
def Environment.canvas (e : Environment) : Canvas :=
  { refused := e.canvasRefuses, lost := e.canvasLoses, calls := #[.open, .clear] }

/-- The keyboard after the terminal has entered raw mode. -/
def Environment.keyboard (e : Environment) : Keyboard :=
  { refused := e.keyboardRefuses, batches := e.batches, calls := #[.enableRawMode] }

/-- What has to go well before a session turns to its keyboard. -/
structure OpensKeyboard (o : Options) (e : Environment) : Prop where
  verbosity : o.verbosity? ≠ none
  memory : Layout.programStart < o.memory ∧ o.memory ≤ Layout.maxCapacity
  canvas : .open ∉ e.canvasRefuses ∧ .clear ∉ e.canvasRefuses

/-- A canvas is opened and cleared, or the terminal refuses. -/
theorem Canvas.start_cases (e : Environment) :
    ((.open ∉ e.canvasRefuses ∧ .clear ∉ e.canvasRefuses) ∧
      Canvas.start e.canvasRefuses e.canvasLoses = .value e.canvas ()) ∨
    (¬ (.open ∉ e.canvasRefuses ∧ .clear ∉ e.canvasRefuses) ∧
      ∃ error, (Canvas.start e.canvasRefuses e.canvasLoses).answer = .failed error) := by
  rw [Canvas.start]
  by_cases hOpen : .open ∈ e.canvasRefuses
  · refine Or.inr ⟨fun h => h.1 hOpen, ?_⟩
    simp [call, failure?, hOpen, Reply.andThen, Reply.failed]
  · by_cases hClear : .clear ∈ e.canvasRefuses
    · refine Or.inr ⟨fun h => h.2 hClear, ?_⟩
      simp [call, failure?, hOpen, hClear, Reply.andThen, Reply.value, Reply.failed]
    · refine Or.inl ⟨⟨hOpen, hClear⟩, ?_⟩
      simp [call, failure?, hOpen, hClear, Reply.andThen, Reply.value, Environment.canvas]

theorem Keyboard.state_start (e : Environment) :
    (Keyboard.start e.keyboardRefuses e.batches).state = e.keyboard := by
  rw [start]
  split
  · rfl
  · rfl

theorem Machine.device_load {σ : Type} (m : Machine σ) (program : List UInt8) :
    (m.load program).machine.device = m.device := by
  rcases m.load_cases program with ⟨-, hLoad⟩ | ⟨-, hMachine, -⟩
  · rw [hLoad]
  · rw [hMachine]

theorem ByteSource.contents_single (program : List UInt8) :
    ByteSource.contents { attempts := [.bytes program] } = .ok program := by
  cases program with
  | nil => rfl
  | cons byte rest => simp [contents, readAll, Except.map]

namespace Session

variable {o : Options} {e : Environment} {s : Session}

/-- A session with a fresh machine on an open terminal, about to load its program. -/
def powered (o : Options) (e : Environment) : Session where
  machine := Machine.fresh o.memory (Board.ofParts e.canvas e.keyboard)
    (e.random o)
  notices := #[.initialised o.memory]
  perFrame := instructionsPerFrame o.hz
  limit := o.maxSteps
  left := instructionsPerFrame o.hz

/-- A session that does not turn to its keyboard ends, whatever its terminal would refuse. -/
theorem start_of_not_opens (h : ¬ OpensKeyboard o e) :
    ∃ r, r.keyboard = {} ∧ ∀ refused, start o { e with keyboardRefuses := refused } = .error r := by
  cases hVerbosity : o.verbosity? with
  | none =>
      refine ⟨{ result := .error (.badLogLevel o.logLevel) }, rfl, fun refused => ?_⟩
      simp only [start, hVerbosity]
  | some verbosity =>
      cases hRam : Ram.ofCapacity o.memory with
      | error fault =>
          refine ⟨{ result := .error (.stopped (.fault fault)) }, rfl, fun refused => ?_⟩
          simp only [start, hVerbosity, hRam]
      | ok ram =>
          rcases Canvas.start_cases e with ⟨hCanvas, -⟩ | ⟨-, error, hFailed⟩
          · have hSome : o.verbosity? ≠ none := by
              rw [hVerbosity]
              exact Option.some_ne_none verbosity
            exact absurd ⟨hSome, (Ram.ofCapacity_eq_ok_iff.1 hRam).1, hCanvas⟩ h
          · refine ⟨{ result := .error (.io error)
                      canvas := (Canvas.start e.canvasRefuses e.canvasLoses).state },
              rfl, fun refused => ?_⟩
            simp only [start, hVerbosity, hRam, hFailed, Answer.toExcept, SessionError.io]

/-- A session that turns to its keyboard. -/
theorem start_of_opens (h : OpensKeyboard o e) :
    start o e =
      match (Keyboard.start e.keyboardRefuses e.batches).answer.toExcept with
      | .error cause =>
        .error { result := .error (.stopped cause), canvas := e.canvas, keyboard := e.keyboard }
      | .ok () => (powered o e).loadProgram e.program := by
  obtain ⟨verbosity, hVerbosity⟩ := Option.ne_none_iff_exists'.1 h.verbosity
  have hRam := Ram.ofCapacity_eq_ok_iff.2 ⟨h.memory, rfl⟩
  have hCanvas : Canvas.start e.canvasRefuses e.canvasLoses = .value e.canvas () := by
    rcases Canvas.start_cases e with ⟨-, hStart⟩ | ⟨hNot, -⟩
    · exact hStart
    · exact absurd h.canvas hNot
  have hParts : ofParts o e (Ram.zeroed o.memory) e.canvas e.keyboard = .ok (powered o e) := by
    simp only [ofParts, Machine.powerOn_zeroed h.memory.1, Ram.capacity_zeroed]
    rfl
  simp only [start, hVerbosity, hRam, hCanvas, Reply.value, Answer.toExcept, Keyboard.state_start,
    hParts]
  rfl

theorem start_of_refused (h : OpensKeyboard o e) (hRefused : .enableRawMode ∈ e.keyboardRefuses) :
    start o e = .error
      { result := .error (.io Keyboard.enableFailure)
        canvas := e.canvas
        keyboard := e.keyboard } := by
  rw [start_of_opens h, Keyboard.start, if_pos (List.contains_iff_mem.2 hRefused)]
  rfl

/-- In raw mode a session has only its program left to load. -/
theorem start_of_entered (h : OpensKeyboard o e) (hEnters : .enableRawMode ∉ e.keyboardRefuses) :
    start o e = (powered o e).loadProgram e.program := by
  rw [start_of_opens h, Keyboard.start, if_neg (fun hRefused => hEnters
    (List.contains_iff_mem.1 hRefused))]
  rfl

/-- A load that fails leaves the keyboard alone, and the terminal is given back. -/
theorem loadProgram_cases (s : Session) (program : Option (List UInt8)) :
    (∃ (t : Session) (result : Except Stop Unit), t.keyboard = s.keyboard ∧
      s.loadProgram program = .error (t.finish result)) ∨
    ∃ bytes notices, program = some bytes ∧
      s.loadProgram program =
        .ok { s with machine := (s.machine.load bytes).machine, notices } := by
  cases program with
  | none => exact Or.inl ⟨s, _, rfl, rfl⟩
  | some bytes =>
      let t := { s with machine := (s.machine.load bytes).machine }.tell
        (s.machine.load bytes).effects.notices
      have hKeys : t.keyboard = s.keyboard := congrArg Board.keys (s.machine.device_load bytes)
      simp only [loadProgram, Machine.loadFrom, ByteSource.contents_single]
      cases (s.machine.load bytes).result with
      | ok done => exact Or.inr ⟨bytes, _, rfl, rfl⟩
      | error cause => exact Or.inl ⟨t, .error cause, hKeys, rfl⟩

/-- How a session starts: with a fresh machine on a dark screen that has loaded the program. -/
theorem eq_of_start (h : start o e = .ok s) :
    ∃ program notices, e.program = some program ∧ Layout.programStart < o.memory ∧
      s =
        { machine :=
            ((Machine.fresh o.memory (Board.ofParts e.canvas e.keyboard)
              (e.random o)).load program).machine
          notices
          perFrame := instructionsPerFrame o.hz
          limit := o.maxSteps
          left := instructionsPerFrame o.hz } := by
  by_cases hOpens : OpensKeyboard o e
  · by_cases hRefused : .enableRawMode ∈ e.keyboardRefuses
    · rw [start_of_refused hOpens hRefused] at h
      cases h
    · rw [start_of_entered hOpens hRefused] at h
      rcases (powered o e).loadProgram_cases e.program with
        ⟨t, result, -, hLoad⟩ | ⟨bytes, notices, hProgram, hLoad⟩
      · rw [hLoad] at h
        cases h
      · rw [hLoad] at h
        exact ⟨bytes, notices, hProgram, hOpens.memory.1, (Except.ok.inj h).symm⟩
  · obtain ⟨r, -, hStart⟩ := start_of_not_opens hOpens
    have hFailed : start o e = .error r := hStart e.keyboardRefuses
    rw [hFailed] at h
    cases h

/-- Nothing is on the terminal, and no key has been read. -/
theorem device_of_start (h : start o e = .ok s) :
    s.machine.device = Board.ofParts e.canvas e.keyboard := by
  obtain ⟨program, notices, -, -, rfl⟩ := eq_of_start h
  exact Machine.device_load _ program

theorem sound_of_start (h : start o e = .ok s) : s.Sound := by
  have hDevice := device_of_start h
  obtain ⟨program, notices, -, hRoom, rfl⟩ := eq_of_start h
  have hFresh : (Machine.fresh o.memory (Board.ofParts e.canvas e.keyboard)
      (e.random o)).Sound (Console.On e.canvas) :=
    ⟨(Machine.capacity_fresh _ _ _).symm ▸ hRoom, Nat.zero_le _, ⟨⟨rfl, rfl⟩, rfl⟩⟩
  have hLoaded := (Machine.endsSound_load hFresh program).1
  exact ⟨hLoaded.capacity, hLoaded.depth, hLoaded.device.screen, rfl⟩

/-- The session that starts with the given options and environment, `n` small steps later. -/
def reached? (o : Options) (e : Environment) (patience n : Nat) : Option Session :=
  (start o e).toOption.bind fun s₀ => s₀.after? patience n

theorem exists_of_reached? {patience n : Nat} (h : reached? o e patience n = some s) :
    ∃ s₀, start o e = .ok s₀ ∧ s₀.after? patience n = some s ∧ s₀.Reaches s := by
  obtain ⟨s₀, hStart, hAfter⟩ := Option.bind_eq_some_iff.1 h
  exact ⟨s₀, eq_ok_of_toOption hStart, hAfter, reaches_of_after? .start hAfter⟩

end Session

end Chip8
