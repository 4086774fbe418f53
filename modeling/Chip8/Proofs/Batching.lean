import Mathlib.Tactic
import Chip8.Device.Keypad
import Chip8.Proofs.KeyWaits
import Chip8.Proofs.Recording

/-!
# Runs in pieces

How a host cuts its steps into runs makes no difference: `run_add_of_ok` splits a run in two, and
`runsTo_iff_singleSteps` takes it apart into single steps. A run that waits for a key that is never
pressed does not come to an end; `Machine.RunsTo` is about those that do, so it does not mention the
patience. `runFrom_of_le` says that any patience which is enough gives the same.

A machine that has halted stays as it is, up to what its host writes into the registers, until a
reset or a load starts it over.
-/

namespace Chip8

/-- The operation did not give up waiting for a key. -/
def Outcome.Answered {σ α : Type} (o : Outcome σ α) : Prop :=
  o.result ≠ .error .unanswered

theorem Outcome.answered_of_ok {σ α : Type} {o : Outcome σ α} {value : α}
    (h : o.result = .ok value) : o.Answered := by
  rw [Answered, h]
  exact fun hError => nomatch hError

theorem Outcome.answered_of_map {σ α β : Type} {o : Outcome σ α} {f : α → β}
    (h : (o.map f).Answered) : o.Answered := by
  intro hError
  refine h ?_
  rw [map, hError]
  rfl

namespace Machine

variable {σ : Type} [Device σ]

/-- A step answers the run state that the machine is in afterwards. -/
theorem state_of_step {m : Machine σ} {patience : Nat} {state : RunState}
    (h : (m.step patience).result = .ok state) : (m.step patience).machine.state = state := by
  rcases m.step_cases with ⟨hState, hStep⟩ | ⟨-, -, hStep⟩ | ⟨-, -, -, hStep⟩ |
    ⟨w, hWord, -, hStep⟩ | ⟨w, op, mnemonic, hWord, -, hStep⟩
  · rw [hStep] at h ⊢
    exact hState.trans (Except.ok.inj h)
  · rw [hStep] at h ⊢
    exact Except.ok.inj h
  · rw [hStep] at h
    cases h
  · rw [hStep] at h ⊢
    exact (nextWord?_eq_some_iff.1 hWord).1.trans (Except.ok.inj h)
  · rw [hStep] at h ⊢
    have hRunning : (m.advanced.execute patience op w).machine.state = .running :=
      (m.advanced.state_execute patience op w).trans (nextWord?_eq_some_iff.1 hWord).1
    refine hRunning.trans ?_
    change (m.advanced.execute patience op w).result.map (fun () => RunState.running) = _ at h
    cases hResult : (m.advanced.execute patience op w).result with
    | error cause =>
        rw [hResult] at h
        cases h
    | ok done =>
        rw [hResult] at h
        exact Except.ok.inj h

theorem runFrom_one (patience : Nat) (earlier : Effects) (m : Machine σ) :
    runFrom patience earlier 1 m = (m.step (patience - earlier.pauses.size)).after earlier := by
  by_cases hRunning : (m.step (patience - earlier.pauses.size)).result = .ok .running
  · rw [runFrom_succ_of_running hRunning, runFrom, Outcome.after, state_of_step hRunning, hRunning]
  · exact runFrom_succ_of_stopped hRunning 0

theorem run_one (m : Machine σ) (patience : Nat) : m.run patience 1 = m.step patience := by
  have hLeft : patience - ({} : Effects).pauses.size = patience := Nat.sub_zero patience
  rw [run, runFrom_one, hLeft]
  exact congrArg (fun effects => { m.step patience with effects }) (Effects.empty_append _)

theorem step_of_halted {m : Machine σ} (h : m.state = .halted) (patience : Nat) :
    m.step patience = { machine := m, result := .ok .halted } := by
  rw [step, h]

theorem runFrom_of_halted {m : Machine σ} (h : m.state = .halted) (patience : Nat)
    (earlier : Effects) (steps : Nat) :
    runFrom patience earlier steps m =
      { machine := m, effects := earlier, result := .ok .halted } := by
  cases steps with
  | zero => rw [runFrom, h]
  | succ steps =>
      have hStep := step_of_halted h (patience - earlier.pauses.size)
      have hStops : (m.step (patience - earlier.pauses.size)).result ≠ .ok .running := by
        rw [hStep]
        intro hRunning
        cases hRunning
      rw [runFrom_succ_of_stopped hStops, hStep]
      exact congrArg (Outcome.mk m · (.ok RunState.halted)) earlier.append_empty

/-- A run of `a + b` steps goes on for `b` steps where a run of `a` steps comes to, unless that one
fails. -/
theorem runFrom_add (patience : Nat) (earlier : Effects) (a b : Nat) (m : Machine σ) :
    runFrom patience earlier (a + b) m =
      match (runFrom patience earlier a m).result with
      | .ok _ =>
        runFrom patience (runFrom patience earlier a m).effects b
          (runFrom patience earlier a m).machine
      | .error _ => runFrom patience earlier a m := by
  induction a generalizing earlier m with
  | zero =>
      rw [Nat.zero_add]
      rfl
  | succ a ih =>
      rw [Nat.succ_add]
      by_cases hRunning : (m.step (patience - earlier.pauses.size)).result = .ok .running
      · rw [runFrom_succ_of_running hRunning, runFrom_succ_of_running hRunning]
        exact ih _ _
      · rw [runFrom_succ_of_stopped hRunning, runFrom_succ_of_stopped hRunning]
        cases hResult : ((m.step (patience - earlier.pauses.size)).after earlier).result with
        | error cause => rfl
        | ok state =>
            cases state with
            | running => exact absurd hResult hRunning
            | halted =>
                -- The machine has halted, so the rest of the run does nothing.
                have hHalted : (m.step (patience - earlier.pauses.size)).machine.state = .halted :=
                  state_of_step hResult
                dsimp only
                rw [Outcome.after, runFrom_of_halted hHalted, ← hResult]
                rfl

theorem run_add_of_ok {m : Machine σ} {patience a : Nat} {state : RunState}
    (h : (m.run patience a).result = .ok state) (b : Nat) :
    m.run patience (a + b) =
      ((m.run patience a).machine.run (patience - (m.run patience a).effects.pauses.size)
        b).after (m.run patience a).effects := by
  have hSplit := runFrom_add patience {} a b m
  have hOk : (runFrom patience {} a m).result = .ok state := h
  simp only [hOk] at hSplit
  refine hSplit.trans ?_
  have hEffects := runFrom_append patience (m.run patience a).effects .empty b
    (m.run patience a).machine
  rw [Effects.append_empty] at hEffects
  exact hEffects

theorem run_add_of_error {m : Machine σ} {patience a : Nat} {cause : Stop}
    (h : (m.run patience a).result = .error cause) (b : Nat) :
    m.run patience (a + b) = m.run patience a := by
  have hSplit := runFrom_add patience {} a b m
  have hError : (runFrom patience {} a m).result = .error cause := h
  simp only [hError] at hSplit
  exact hSplit

theorem asks_add_of_ok {m : Machine σ} {patience a : Nat} {state : RunState}
    (h : (m.run patience a).result = .ok state) (b : Nat) :
    m.asks patience [.run (a + b)] =
      m.asks patience [.run a] ++
        (m.run patience a).machine.asks (patience - (m.run patience a).effects.pauses.size)
          [.run b] := by
  rw [m.run_recorded patience a] at h ⊢
  rw [asks_run, run_add_of_ok (m := m.recorded) h b]
  exact calls_run _ _ b

theorem asks_add_of_error {m : Machine σ} {patience a : Nat} {cause : Stop}
    (h : (m.run patience a).result = .error cause) (b : Nat) :
    m.asks patience [.run (a + b)] = m.asks patience [.run a] := by
  rw [run_recorded] at h
  rw [asks_run, asks_run, run_add_of_error (m := m.recorded) h b]

/-- More patience than a step needed is not used. -/
theorem step_of_le {m : Machine σ} {patience more : Nat} (hAnswered : (m.step patience).Answered)
    (hMore : patience ≤ more) : m.step more = m.step patience := by
  rcases m.step_cases with ⟨-, hStep⟩ | ⟨-, -, hStep⟩ | ⟨-, -, -, hStep⟩ | ⟨w, -, -, hStep⟩ |
    ⟨w, op, mnemonic, -, -, hStep⟩
  · rw [hStep, hStep]
  · rw [hStep, hStep]
  · rw [hStep, hStep]
  · rw [hStep, hStep]
  · rw [hStep] at hAnswered
    rw [hStep, hStep]
    by_cases hOp : op = .awaitKey
    · subst hOp
      have hWait : (m.advanced.execute patience .awaitKey w).Answered :=
        Outcome.answered_of_map hAnswered
      have hSame := KeyWait.await_of_le hWait hMore
      have hExecute : m.advanced.execute more .awaitKey w =
          m.advanced.execute patience .awaitKey w := by
        change m.advanced.awaitKey more _ = m.advanced.awaitKey patience _
        rw [awaitKey, hSame]
        rfl
      rw [hExecute]
    · rw [execute_patience hOp w more patience]

/-- More patience than a run needed is not used. -/
theorem runFrom_of_le {m : Machine σ} {patience more steps : Nat} {earlier : Effects}
    (hAnswered : (runFrom patience earlier steps m).Answered) (hMore : patience ≤ more) :
    runFrom more earlier steps m = runFrom patience earlier steps m := by
  induction steps generalizing m earlier with
  | zero => rfl
  | succ steps ih =>
      have hLeft : patience - earlier.pauses.size ≤ more - earlier.pauses.size :=
        Nat.sub_le_sub_right hMore _
      by_cases hRunning : (m.step (patience - earlier.pauses.size)).result = .ok .running
      · have hSame := step_of_le (Outcome.answered_of_ok hRunning) hLeft
        have hRunning' : (m.step (more - earlier.pauses.size)).result = .ok .running :=
          hSame ▸ hRunning
        rw [runFrom_succ_of_running hRunning] at hAnswered
        rw [runFrom_succ_of_running hRunning, runFrom_succ_of_running hRunning', hSame]
        exact ih hAnswered
      · rw [runFrom_succ_of_stopped hRunning] at hAnswered
        have hSame := step_of_le hAnswered hLeft
        have hRunning' : (m.step (more - earlier.pauses.size)).result ≠ .ok .running :=
          hSame ▸ hRunning
        rw [runFrom_succ_of_stopped hRunning, runFrom_succ_of_stopped hRunning', hSame]

theorem run_of_le {m : Machine σ} {patience more steps : Nat}
    (hAnswered : (m.run patience steps).Answered) (hMore : patience ≤ more) :
    m.run more steps = m.run patience steps :=
  runFrom_of_le hAnswered hMore

theorem asks_of_le {m : Machine σ} {patience more steps : Nat}
    (hAnswered : (m.run patience steps).Answered) (hMore : patience ≤ more) :
    m.asks more [.run steps] = m.asks patience [.run steps] := by
  rw [run_recorded] at hAnswered
  rw [asks_run, asks_run, run_of_le (m := m.recorded) hAnswered hMore]

/-- The step comes to an end: with this outcome, after these questions to the device. -/
def StepsTo (m : Machine σ) (o : Outcome σ RunState) (calls : List DeviceCall) : Prop :=
  ∃ patience, m.step patience = o ∧ o.Answered ∧ m.asks patience [.step] = calls

/-- The run comes to an end: with this outcome, after these questions to the device. -/
def RunsTo (m : Machine σ) (steps : Nat) (o : Outcome σ RunState) (calls : List DeviceCall) :
    Prop :=
  ∃ patience, m.run patience steps = o ∧ o.Answered ∧ m.asks patience [.run steps] = calls

/-- At most so many single steps, up to the first one that halts or fails. -/
inductive SingleSteps : Machine σ → Nat → Outcome σ RunState → List DeviceCall → Prop where
  | none (m : Machine σ) : m.SingleSteps 0 { machine := m, result := .ok m.state } []
  | last {m : Machine σ} {o : Outcome σ RunState} {calls : List DeviceCall} {steps : Nat}
      (hStep : m.StepsTo o calls) (hStops : o.result ≠ .ok .running) :
      m.SingleSteps (steps + 1) o calls
  | next {m : Machine σ} {o o' : Outcome σ RunState} {calls calls' : List DeviceCall} {steps : Nat}
      (hStep : m.StepsTo o calls) (hGoesOn : o.result = .ok .running)
      (hRest : o.machine.SingleSteps steps o' calls') :
      m.SingleSteps (steps + 1) (o'.after o.effects) (calls ++ calls')

theorem runsTo_one_iff {m : Machine σ} {o : Outcome σ RunState} {calls : List DeviceCall} :
    m.RunsTo 1 o calls ↔ m.StepsTo o calls := by
  simp only [RunsTo, StepsTo, asks_run, asks_step, run_one]

/-- A run comes to one end only. -/
theorem RunsTo.unique {m : Machine σ} {steps : Nat} {o o' : Outcome σ RunState}
    {calls calls' : List DeviceCall} (h : m.RunsTo steps o calls) (h' : m.RunsTo steps o' calls') :
    o = o' ∧ calls = calls' := by
  obtain ⟨patience, rfl, hAnswered, rfl⟩ := h
  obtain ⟨patience', rfl, hAnswered', rfl⟩ := h'
  rcases Nat.le_total patience patience' with hMore | hMore
  · exact ⟨(run_of_le hAnswered hMore).symm, (asks_of_le hAnswered hMore).symm⟩
  · exact ⟨run_of_le hAnswered' hMore, asks_of_le hAnswered' hMore⟩

/-- A run of `a + b` steps comes to where a run of `b` steps comes to after a run of `a` steps, or
to where the run of `a` steps fails. -/
theorem runsTo_add_iff {m : Machine σ} {a b : Nat} {o'' : Outcome σ RunState}
    {calls'' : List DeviceCall} :
    m.RunsTo (a + b) o'' calls'' ↔
      ∃ o calls, m.RunsTo a o calls ∧
        ((∃ state, o.result = .ok state) ∧
            (∃ o' calls', o.machine.RunsTo b o' calls' ∧ o'' = o'.after o.effects ∧
              calls'' = calls ++ calls') ∨
          (∃ cause, o.result = .error cause) ∧ o'' = o ∧ calls'' = calls) := by
  constructor
  · rintro ⟨patience, rfl, hAnswered, rfl⟩
    refine ⟨m.run patience a, m.asks patience [.run a], ?_⟩
    cases hFirst : (m.run patience a).result with
    | ok state =>
        rw [run_add_of_ok hFirst] at hAnswered ⊢
        refine ⟨⟨patience, rfl, Outcome.answered_of_ok hFirst, rfl⟩, Or.inl ⟨⟨state, rfl⟩, ?_⟩⟩
        exact ⟨_, _, ⟨_, rfl, hAnswered, rfl⟩, rfl, asks_add_of_ok hFirst b⟩
    | error cause =>
        rw [run_add_of_error hFirst] at hAnswered ⊢
        refine ⟨⟨patience, rfl, hAnswered, rfl⟩, Or.inr ⟨⟨cause, rfl⟩, rfl, ?_⟩⟩
        exact asks_add_of_error hFirst b
  · rintro ⟨_, _, ⟨first, rfl, hAnswered, rfl⟩, hRest⟩
    rcases hRest with ⟨⟨state, hFirst⟩, _, _, ⟨second, rfl, hAnswered', rfl⟩, rfl, rfl⟩ |
      ⟨⟨cause, hFirst⟩, rfl, rfl⟩
    · -- Enough patience for both runs: what the first one uses up comes on top.
      let slept := (m.run first a).effects.pauses.size
      let patience := max first (slept + second)
      have hMore : first ≤ patience := Nat.le_max_left _ _
      have hLeft : second ≤ patience - slept :=
        Nat.le_sub_of_add_le (Nat.add_comm slept second ▸ Nat.le_max_right _ _)
      have hSame : m.run patience a = m.run first a := run_of_le hAnswered hMore
      have hFirst' : (m.run patience a).result = .ok state := hSame ▸ hFirst
      refine ⟨patience, ?_, hAnswered', ?_⟩
      · rw [run_add_of_ok hFirst', hSame, run_of_le hAnswered' hLeft]
      · rw [asks_add_of_ok hFirst', hSame, asks_of_le hAnswered hMore, asks_of_le hAnswered' hLeft]
    · exact ⟨first, run_add_of_error hFirst b, hAnswered, asks_add_of_error hFirst b⟩

theorem runsTo_of_halted_iff {m : Machine σ} (h : m.state = .halted) {steps : Nat}
    {o : Outcome σ RunState} {calls : List DeviceCall} :
    m.RunsTo steps o calls ↔ o = { machine := m, result := .ok .halted } ∧ calls = [] := by
  have hRun (patience : Nat) : m.run patience steps = { machine := m, result := .ok .halted } :=
    runFrom_of_halted h _ _ _
  have hAsks (patience : Nat) : m.asks patience [.run steps] = [] := by
    have hHalted : m.recorded.state = .halted := h
    rw [asks_run, run, runFrom_of_halted hHalted]
    rfl
  constructor
  · rintro ⟨patience, rfl, -, rfl⟩
    exact ⟨hRun patience, hAsks patience⟩
  · rintro ⟨rfl, rfl⟩
    exact ⟨0, hRun 0, Outcome.answered_of_ok rfl, hAsks 0⟩

theorem StepsTo.state {m : Machine σ} {o : Outcome σ RunState} {calls : List DeviceCall}
    (h : m.StepsTo o calls) {state : RunState} (hOk : o.result = .ok state) :
    o.machine.state = state := by
  obtain ⟨patience, rfl, -, -⟩ := h
  exact state_of_step hOk

/-- A run begins with a step and goes on unless that one halts or fails. -/
theorem runsTo_succ_iff {m : Machine σ} {steps : Nat} {o'' : Outcome σ RunState}
    {calls'' : List DeviceCall} :
    m.RunsTo (steps + 1) o'' calls'' ↔
      ∃ o calls, m.StepsTo o calls ∧
        (o.result = .ok .running ∧
            (∃ o' calls', o.machine.RunsTo steps o' calls' ∧ o'' = o'.after o.effects ∧
              calls'' = calls ++ calls') ∨
          o.result ≠ .ok .running ∧ o'' = o ∧ calls'' = calls) := by
  rw [Nat.add_comm, runsTo_add_iff]
  refine exists_congr fun o => exists_congr fun calls => ?_
  rw [runsTo_one_iff]
  refine and_congr_right fun hStep => ?_
  cases hResult : o.result with
  | error cause => simp
  | ok state =>
      cases state with
      | running => simp
      | halted =>
          -- What is left of the run after a halt changes nothing.
          have hNoMore :
              Outcome.after o.effects { machine := o.machine, result := .ok .halted } = o := by
            rw [Outcome.after, ← hResult]
            exact congrArg (fun effects => { o with effects }) o.effects.append_empty
          simp [runsTo_of_halted_iff (hStep.state hResult), hNoMore]

/-- A run is its single steps. -/
theorem runsTo_iff_singleSteps {m : Machine σ} {steps : Nat} {o : Outcome σ RunState}
    {calls : List DeviceCall} : m.RunsTo steps o calls ↔ m.SingleSteps steps o calls := by
  constructor
  · intro h
    induction steps generalizing m o calls with
    | zero =>
        obtain ⟨patience, rfl, -, rfl⟩ := h
        exact .none m
    | succ steps ih =>
        obtain ⟨first, asked, hStep, ⟨hGoesOn, _, _, hRest, rfl, rfl⟩ | ⟨hStops, rfl, rfl⟩⟩ :=
          runsTo_succ_iff.1 h
        · exact .next hStep hGoesOn (ih hRest)
        · exact .last hStep hStops
  · intro h
    induction h with
    | none m => exact ⟨0, rfl, Outcome.answered_of_ok rfl, rfl⟩
    | last hStep hStops => exact runsTo_succ_iff.2 ⟨_, _, hStep, Or.inr ⟨hStops, rfl, rfl⟩⟩
    | next hStep hGoesOn _ ih =>
        exact runsTo_succ_iff.2 ⟨_, _, hStep, Or.inl ⟨hGoesOn, _, _, ih, rfl, rfl⟩⟩

end Machine

/-- Whether an action starts the machine over. -/
def Action.startsOver : Action → Bool
  | .load _ | .loadFrom _ | .reset => true
  | _ => false

/-- Whether an action executes instructions. -/
def Action.executes : Action → Bool
  | .step | .run _ => true
  | _ => false

/-- What an action itself does to the registers. -/
def Action.write (r : Registers) : Action → Registers
  | .tick => r.tick
  | .poke registers => registers
  | _ => r

namespace Machine

variable {σ : Type} [Device σ]

/-- What an action comes to on a machine that has halted. -/
theorem answer_of_halted {m : Machine σ} (h : m.state = .halted) (patience : Nat) {a : Action}
    (hStays : a.startsOver = false) :
    m.answer patience a =
      { machine := { m with registers := a.write m.registers }
        result := .ok (if a.executes then some .halted else none) } := by
  cases a with
  | step =>
      rw [answer, step_of_halted h]
      rfl
  | run steps =>
      rw [answer, run, runFrom_of_halted h]
      rfl
  | tick => rfl
  | poke registers => rfl
  | load program => cases hStays
  | loadFrom source => cases hStays
  | reset => cases hStays

/-- What a sequence of actions leaves of a machine that has halted. -/
theorem performAll_of_halted {m : Machine σ} (h : m.state = .halted) (patience : Nat)
    {actions : List Action} (hStay : ∀ a ∈ actions, a.startsOver = false) :
    m.performAll patience actions =
      { m with registers := actions.foldl Action.write m.registers } := by
  induction actions generalizing m with
  | nil => rfl
  | cons a rest ih =>
      have hFirst : (m.perform patience a).machine =
          { m with registers := a.write m.registers } := by
        rw [← machine_answer, answer_of_halted h patience (hStay a List.mem_cons_self)]
      change (m.perform patience a).machine.performAll patience rest = _
      rw [hFirst]
      exact ih h fun a' ha' => hStay a' (List.mem_cons_of_mem _ ha')

/-- What the actions of a sequence come to on a machine that has halted. -/
theorem answers_of_halted {m : Machine σ} (h : m.state = .halted) (patience : Nat)
    {actions : List Action} (hStay : ∀ a ∈ actions, a.startsOver = false) :
    List.Forall₂
      (fun (a : Action) (o : Outcome σ (Option RunState)) =>
        o.effects = {} ∧ o.result = .ok (if a.executes then some .halted else none))
      actions (m.answers patience actions) := by
  induction actions generalizing m with
  | nil => exact .nil
  | cons a rest ih =>
      have hFirst := answer_of_halted h patience (hStay a List.mem_cons_self)
      have hRest := ih (m := { m with registers := a.write m.registers }) h fun a' ha' =>
        hStay a' (List.mem_cons_of_mem _ ha')
      rw [answers, hFirst]
      exact .cons ⟨rfl, rfl⟩ hRest

theorem asks_of_halted {m : Machine σ} (h : m.state = .halted) (patience : Nat)
    {actions : List Action} (hStay : ∀ a ∈ actions, a.startsOver = false) :
    m.asks patience actions = [] := by
  have hHalted : m.recorded.state = .halted := h
  rw [asks, performAll_of_halted hHalted patience hStay]
  rfl

omit [Device σ] in
theorem load_restarts (m : Machine σ) (program : List UInt8) :
    ((m.load program).result = .ok () ∧ (m.load program).machine.state = .running) ∨
      (∃ f, (m.load program).result = .error (.fault f)) ∧ (m.load program).machine = m := by
  rcases m.load_cases program with ⟨-, hLoad⟩ | ⟨-, hMachine, hResult⟩
  · rw [hLoad]
    exact Or.inr ⟨⟨_, rfl⟩, rfl⟩
  · rw [hMachine]
    exact Or.inl ⟨hResult, rfl⟩

/-- A reset starts the machine over, and so does a load that goes through; one that does not changes
nothing. -/
theorem perform_startsOver (m : Machine σ) (patience : Nat) {a : Action}
    (h : a.startsOver = true) :
    ((m.perform patience a).result = .ok () ∧
        (m.perform patience a).machine.state = .running) ∨
      a ≠ .reset ∧ (∃ f, (m.perform patience a).result = .error (.fault f)) ∧
        (m.perform patience a).machine = m := by
  cases a with
  | load program =>
      exact (m.load_restarts program).imp_right fun hFails => ⟨Action.noConfusion, hFails⟩
  | loadFrom source =>
      rw [perform, loadFrom]
      cases source.contents with
      | error error => exact Or.inr ⟨Action.noConfusion, ⟨_, rfl⟩, rfl⟩
      | ok program =>
          exact (m.load_restarts program).imp_right fun hFails => ⟨Action.noConfusion, hFails⟩
  | reset => exact Or.inl ⟨rfl, rfl⟩
  | step => cases h
  | run steps => cases h
  | tick => cases h
  | poke registers => cases h

/-- A run of `a + b` steps comes to what a run of `a` steps and then one of `b` steps come to, or to
what the first one comes to if it fails; a run comes to what its single steps come to; and a machine
that has halted executes nothing and keeps all but what its host writes into the registers, until a
reset or a load starts it over. -/
theorem batching_changes_nothing (m : Machine σ) :
    (∀ steps o o' calls calls', m.RunsTo steps o calls → m.RunsTo steps o' calls' →
      o = o' ∧ calls = calls') ∧
    (∀ a b o'' calls'', m.RunsTo (a + b) o'' calls'' ↔
      ∃ o calls, m.RunsTo a o calls ∧
        ((∃ state, o.result = .ok state) ∧
            (∃ o' calls', o.machine.RunsTo b o' calls' ∧ o'' = o'.after o.effects ∧
              calls'' = calls ++ calls') ∨
          (∃ cause, o.result = .error cause) ∧ o'' = o ∧ calls'' = calls)) ∧
    (∀ steps o calls, m.RunsTo steps o calls ↔ m.SingleSteps steps o calls) ∧
    (m.state = .halted → ∀ patience actions, (∀ a ∈ actions, a.startsOver = false) →
      List.Forall₂
        (fun (a : Action) (o : Outcome σ (Option RunState)) =>
          o.effects = {} ∧ o.result = .ok (if a.executes then some .halted else none))
        actions (m.answers patience actions) ∧
      m.asks patience actions = [] ∧
      m.performAll patience actions =
        { m with registers := actions.foldl Action.write m.registers }) ∧
    ∀ patience a, a.startsOver = true →
      ((m.perform patience a).result = .ok () ∧
          (m.perform patience a).machine.state = .running) ∨
        a ≠ .reset ∧ (∃ f, (m.perform patience a).result = .error (.fault f)) ∧
          (m.perform patience a).machine = m := by
  refine ⟨fun _ _ _ _ _ => RunsTo.unique, fun _ _ _ _ => runsTo_add_iff,
    fun _ _ _ => runsTo_iff_singleSteps, fun hHalted patience actions hStay => ?_,
    fun patience _ => m.perform_startsOver patience⟩
  exact ⟨answers_of_halted hHalted patience hStay, asks_of_halted hHalted patience hStay,
    performAll_of_halted hHalted patience hStay⟩

/-- A run over the end of a program in two pieces, then a host that moves the program counter back
in vain, and a reset. -/
theorem batching_changes_nothing_halt :
    ∃ (m : Machine (Board DrawCounter Keypad)) (o : Outcome (Board DrawCounter Keypad) RunState)
      (back : Registers),
      m.RunsTo (1 + 3) o [] ∧
      o.result = .ok .halted ∧
      o.machine.registers.reg 0 = 5 ∧
      back.pc = 0x200 ∧
      o.machine.performAll 0 [.poke back, .run 3, .tick, .step] =
        { o.machine with registers := back.tick } ∧
      (o.machine.perform 0 .reset).machine.state = .running := by
  let m : Machine (Board DrawCounter Keypad) :=
    ((fresh 0x300 (Board.ofParts {} {}) default).load [0x60, 0x05]).machine
  let first := m.run 0 1
  let second := first.machine.run 0 3
  let back : Registers := { second.machine.registers with pc := 0x200 }
  obtain ⟨hFirst, hSecond, hAsks, hAsks', hFive, hHalted⟩ :
      first.result = .ok .running ∧ second.result = .ok .halted ∧
      m.asks 0 [.run 1] = [] ∧ first.machine.asks 0 [.run 3] = [] ∧
      second.machine.registers.reg 0 = 5 ∧ second.machine.state = .halted := by
    decide +kernel
  have hRuns : m.RunsTo 1 first [] := ⟨0, rfl, Outcome.answered_of_ok hFirst, hAsks⟩
  have hRuns' : first.machine.RunsTo 3 second [] :=
    ⟨0, rfl, Outcome.answered_of_ok hSecond, hAsks'⟩
  obtain ⟨-, hAdd, -⟩ := batching_changes_nothing m
  obtain ⟨-, -, -, hStays, hStarts⟩ := batching_changes_nothing second.machine
  have hBack : back.pc = 0x200 := rfl
  -- From here on only what is known of the two runs matters.
  clear_value back second first
  have hStay : ∀ a ∈ [Action.poke back, .run 3, .tick, .step], a.startsOver = false := by
    simp [Action.startsOver]
  obtain ⟨-, -, hKept⟩ := hStays hHalted 0 _ hStay
  refine ⟨m, second.after first.effects, back, ?_, hSecond, hFive, hBack, hKept, ?_⟩
  · exact (hAdd 1 3 _ _).2
      ⟨first, [], hRuns, Or.inl ⟨⟨_, hFirst⟩, second, [], hRuns', rfl, rfl⟩⟩
  · rcases hStarts 0 .reset rfl with ⟨-, hRunning⟩ | ⟨hNot, -⟩
    · exact hRunning
    · exact absurd rfl hNot

end Machine

end Chip8
