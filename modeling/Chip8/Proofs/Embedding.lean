import Mathlib.Tactic
import Chip8.Machine.Action
import Chip8.Proofs.Starting
import Chip8.Proofs.Stepping

/-!
# Machines inside larger machines

An embedding puts a machine into one with more memory above its own and with another device that
answers alike. What the larger machine does is what the machine does, embedded: `execute_embed` for
an operation, `step_embed` for a step, `answers_embed` for all that a host can do. The additional
memory is neither read nor written. The one exception is an operation that fails for want of memory,
which may succeed with more of it.
-/

namespace Chip8

namespace Ram

/-- The memory with more bytes above its own. -/
def extend (r : Ram) (above : Array UInt8) : Ram :=
  ⟨r.bytes ++ above⟩

theorem extend_empty (r : Ram) : r.extend #[] = r := by
  rw [extend, Array.append_empty]

theorem capacity_extend (r : Ram) (above : Array UInt8) :
    (r.extend above).capacity = r.capacity + above.size :=
  Array.size_append

theorem cell_extend {r : Ram} {a : Nat} (hInside : a < r.capacity) (above : Array UInt8) :
    (r.extend above).cell a = r.cell a := by
  rw [cell, cell, extend, Array.getElem?_append_left hInside]

theorem cell_extend_above {r : Ram} {a : Nat} (hAbove : r.capacity ≤ a) (above : Array UInt8) :
    (r.extend above).cell a = above[a - r.capacity]?.getD 0 := by
  rw [cell, extend, Array.getElem?_append_right hAbove]
  rfl

theorem readWord_extend {r : Ram} {addr : Nat} (hFits : addr + 2 ≤ r.capacity)
    (above : Array UInt8) : (r.extend above).readWord addr = r.readWord addr := by
  obtain ⟨value, hRead⟩ := exists_readWord hFits
  obtain ⟨-, hValue⟩ := readWord_eq_ok_iff.1 hRead
  rw [hRead, readWord_eq_ok_iff, cell_extend (by omega), cell_extend (by omega), capacity_extend]
  exact ⟨Nat.le_add_right_of_le hFits, hValue⟩

theorem read_extend {r : Ram} {addr len : Nat} (hFits : addr + len ≤ r.capacity)
    (above : Array UInt8) : (r.extend above).read addr len = r.read addr len := by
  cases hRead : r.read addr len with
  | error fault => exact absurd (read_eq_error_iff.1 hRead).1 (Nat.not_lt.2 hFits)
  | ok data =>
      obtain ⟨-, hData⟩ := read_eq_ok_iff.1 hRead
      rw [read_eq_ok_iff, capacity_extend, hData]
      refine ⟨Nat.le_add_right_of_le hFits, List.map_congr_left fun k hk => ?_⟩
      have hInside : k < len := List.mem_range.1 hk
      rw [cell_extend (by omega)]

theorem store_extend {r : Ram} {addr : Nat} {data : List UInt8}
    (hFits : addr + data.length ≤ r.capacity) (above : Array UInt8) :
    store (r.extend above).bytes addr data = (extend ⟨store r.bytes addr data⟩ above).bytes := by
  have hLarger : addr + data.length ≤ (r.extend above).bytes.size := by
    have hSize := r.capacity_extend above
    rw [capacity] at hSize
    omega
  apply Array.ext_getElem?
  intro a
  rw [getElem?_store _ _ _ hLarger, extend, extend, Array.getElem?_append, Array.getElem?_append,
    size_store, getElem?_store _ _ _ hFits]
  have hSize : addr + data.length ≤ r.bytes.size := hFits
  by_cases hInside : addr ≤ a ∧ a < addr + data.length
  · rw [if_pos hInside, if_pos (by omega), if_pos hInside]
  · rw [if_neg hInside, if_neg hInside]

end Ram

/-- The faults for want of memory. -/
def Fault.isMemory : Fault → Bool
  | .addressOutOfRange .. | .insufficientMemory .. => true
  | _ => false

/-- Whether the operation fails for want of memory. -/
def Outcome.lacksMemory {σ α : Type} (o : Outcome σ α) : Bool :=
  match o.result with
  | .error (.fault f) => f.isMemory
  | _ => false

theorem Outcome.lacksMemory_map {σ α β : Type} (o : Outcome σ α) (f : α → β) :
    (o.map f).lacksMemory = o.lacksMemory := by
  rw [lacksMemory, lacksMemory, map]
  cases o.result with
  | ok value => rfl
  | error cause =>
      cases cause with
      | fault f => rfl
      | _ => rfl

/-- A pop from a larger memory. -/
theorem CallStack.pop_extend (s : CallStack) {r : Ram} {above : Array UInt8}
    (hKeeps : ∀ f : Fault, s.pop r = .error (.fault f) → f.isMemory = true → above = #[]) :
    s.pop (r.extend above) = s.pop r := by
  obtain ⟨base, slots, depth⟩ := s
  cases depth with
  | zero => rfl
  | succ below =>
      simp only [pop] at hKeeps ⊢
      cases hAddr : (CallStack.mk base slots (below + 1)).slotAddress below with
      | error cause => rfl
      | ok addr =>
          by_cases hFits : addr + 2 ≤ r.capacity
          · have hRead := Ram.readWord_extend hFits above
            simp only [bind, Except.bind, hRead]
          · have hRead := Ram.readWord_eq_error_iff.2 ⟨Nat.lt_of_not_le hFits, rfl⟩
            simp only [hAddr, bind, Except.bind, hRead] at hKeeps
            rw [hKeeps _ rfl rfl, Ram.extend_empty]

/-- A map between devices that keeps every answer. -/
structure Device.Hom (σ τ : Type) [Device σ] [Device τ] where
  map : σ → τ
  clear : ∀ d, Device.clear (map d) = (Device.clear d).mapState map
  toggle : ∀ d x y, Device.toggle (map d) x y = (Device.toggle d x y).mapState map
  pressed : ∀ d key, Device.pressed (map d) key = (Device.pressed d key).mapState map
  pollInterval : ∀ d, Device.pollInterval (map d) = Device.pollInterval d

variable {σ τ : Type} [Device σ] [Device τ]

/-- The map that changes nothing. -/
def Device.Hom.id (σ : Type) [Device σ] : Device.Hom σ σ where
  map d := d
  clear _ := rfl
  toggle _ _ _ := rfl
  pressed _ _ := rfl
  pollInterval _ := rfl

/-- The same painting on another device. -/
def Painting.along (h : Device.Hom σ τ) (p : Painting σ) : Painting τ :=
  { p with device := h.map p.device }

theorem Painting.paint_along (h : Device.Hom σ τ) (x y : Nat) (p : Painting σ)
    (cells : List (Nat × Nat)) :
    paint x y (p.along h) cells = ((paint x y p cells).1.along h, (paint x y p cells).2) := by
  induction cells generalizing p with
  | nil => rfl
  | cons cell rest ih =>
      rw [paint, paint]
      cases Sprite.place x y cell with
      | error cause => rfl
      | ok place =>
          obtain ⟨px, py⟩ := place
          have hToggle : Device.toggle (p.along h).device px py =
              (Device.toggle p.device px py).mapState h.map := h.toggle _ _ _
          simp only [hToggle, Reply.mapState]
          cases (Device.toggle p.device px py).answer with
          | value wasLit =>
              dsimp only
              exact ih { p with
                device := (Device.toggle p.device px py).state
                notices := p.notices ++ (Device.toggle p.device px py).notices
                collision := p.collision || wasLit }
          | failed error =>
              dsimp only
              exact ih { p with
                device := (Device.toggle p.device px py).state
                notices := p.notices ++ (Device.toggle p.device px py).notices
                failure := some error }
          | aborted cause => rfl

/-- The same wait on another device. -/
def KeyWait.along (h : Device.Hom σ τ) (w : KeyWait σ) : KeyWait τ :=
  { w with device := h.map w.device }

theorem KeyWait.await_along (h : Device.Hom σ τ) (key : UInt8) (patience : Nat) (d : σ)
    (effects : Effects) :
    await key patience (h.map d) effects = (await key patience d effects).along h := by
  induction patience generalizing d effects with
  | zero => rfl
  | succ patience ih =>
      rw [await, await, h.pressed]
      simp only [Reply.mapState, h.pollInterval]
      cases (Device.pressed d key).answer with
      | value answer =>
          cases answer with
          | true => rfl
          | false => exact ih _ _
      | failed error => rfl
      | aborted cause => rfl

/-- How a machine lies in a larger one: its device behind a map, and bytes above its memory. -/
structure Embedding (σ τ : Type) [Device σ] [Device τ] where
  device : Device.Hom σ τ
  above : Array UInt8 := #[]

namespace Embedding

/-- The larger machine. -/
def machine (e : Embedding σ τ) (m : Machine σ) : Machine τ :=
  { m with ram := m.ram.extend e.above, device := e.device.map m.device }

/-- The same outcome in the larger machine. -/
def outcome {α : Type} (e : Embedding σ τ) (o : Outcome σ α) : Outcome τ α :=
  { machine := e.machine o.machine, effects := o.effects, result := o.result }

/-- With more memory the outcome would be no other: it does not lack memory, or there is no more
of it. -/
def Keeps {α : Type} (e : Embedding σ τ) (o : Outcome σ α) : Prop :=
  o.lacksMemory = true → e.above = #[]

variable {α β : Type} (e : Embedding σ τ)

theorem keeps_of_ok {o : Outcome σ α} {value : α} (h : o.result = .ok value) : e.Keeps o := by
  intro hLacks
  rw [Outcome.lacksMemory, h] at hLacks
  cases hLacks

theorem keeps_map_iff {o : Outcome σ α} {f : α → β} : e.Keeps (o.map f) ↔ e.Keeps o := by
  rw [Keeps, Keeps, Outcome.lacksMemory_map]

theorem machine_ram_of_lacks {o : Outcome σ α} (h : e.Keeps o) (hLacks : o.lacksMemory = true)
    (m : Machine σ) : (e.machine m).ram = m.ram := by
  change m.ram.extend e.above = m.ram
  rw [h hLacks, Ram.extend_empty]

/-- An access that is checked against the capacity first: if it lies in the smaller memory, what
happens then is all that has to be compared. -/
theorem checked_embed {m : Machine σ} {addr len : Nat} {o : Outcome σ Unit} {o' : Outcome τ Unit}
    (hKeeps : e.Keeps
      (if addr + len ≤ m.ram.capacity then o else m.stop (.fault (m.ram.outOfRange addr len))))
    (hInside : addr + len ≤ m.ram.capacity → o' = e.outcome o) :
    (if addr + len ≤ (e.machine m).ram.capacity then o'
      else (e.machine m).stop (.fault ((e.machine m).ram.outOfRange addr len))) =
      e.outcome (if addr + len ≤ m.ram.capacity then o
        else m.stop (.fault (m.ram.outOfRange addr len))) := by
  by_cases hFits : addr + len ≤ m.ram.capacity
  · have hLarger : addr + len ≤ (e.machine m).ram.capacity := by
      change _ ≤ (m.ram.extend e.above).capacity
      rw [Ram.capacity_extend]
      exact Nat.le_add_right_of_le hFits
    rw [if_pos hFits, if_pos hLarger, hInside hFits]
  · rw [if_neg hFits] at hKeeps ⊢
    rw [e.machine_ram_of_lacks hKeeps rfl, if_neg hFits]
    rfl

/-- A store inside the smaller memory. -/
theorem machine_store {m : Machine σ} {addr : Nat} (data : List UInt8)
    (hFits : addr + data.length ≤ m.ram.capacity) :
    { e.machine m with ram := ⟨Ram.store (e.machine m).ram.bytes addr data⟩ } =
      e.machine { m with ram := ⟨Ram.store m.ram.bytes addr data⟩ } := by
  have hStore : Ram.store (e.machine m).ram.bytes addr data = _ := Ram.store_extend hFits e.above
  rw [hStore]
  rfl

theorem clearScreen_embed (m : Machine σ) :
    (e.machine m).clearScreen = e.outcome m.clearScreen := by
  have hClear : Device.clear (e.machine m).device =
      (Device.clear m.device).mapState e.device.map := e.device.clear _
  simp only [Machine.clearScreen, hClear, Reply.mapState]
  cases (Device.clear m.device).answer with
  | value answer => rfl
  | failed error => rfl
  | aborted cause => rfl

theorem skipIfPressed_embed (m : Machine σ) (key : UInt8) (expected : Bool) :
    (e.machine m).skipIfPressed key expected = e.outcome (m.skipIfPressed key expected) := by
  have hPressed : Device.pressed (e.machine m).device key =
      (Device.pressed m.device key).mapState e.device.map := e.device.pressed _ _
  simp only [Machine.skipIfPressed, hPressed, Reply.mapState]
  cases (Device.pressed m.device key).answer.toExcept with
  | ok answer =>
      simp only [Machine.skipIf_eq]
      rfl
  | error cause => rfl

theorem awaitKey_embed (m : Machine σ) (patience : Nat) (key : UInt8) :
    (e.machine m).awaitKey patience key = e.outcome (m.awaitKey patience key) := by
  have hAwait := KeyWait.await_along e.device key patience m.device (.notice (.waitingForKey key))
  have hDevice : (e.machine m).device = e.device.map m.device := rfl
  rw [Machine.awaitKey, hDevice, hAwait]
  rfl

theorem drawSprite_embed {m : Machine σ} {x y height : UInt8}
    (hKeeps : e.Keeps (m.drawSprite x y height)) :
    (e.machine m).drawSprite x y height = e.outcome (m.drawSprite x y height) := by
  by_cases hFits : m.registers.i.toNat + height.toNat ≤ m.ram.capacity
  · have hRead : (e.machine m).ram.read (e.machine m).registers.i.toNat height.toNat =
        m.ram.read m.registers.i.toNat height.toNat := Ram.read_extend hFits e.above
    rw [Machine.drawSprite, Machine.drawSprite, hRead]
    cases m.ram.read m.registers.i.toNat height.toNat with
    | error fault => rfl
    | ok rows =>
        have hPaint : Painting.paint x.toNat y.toNat { device := (e.machine m).device }
            (Sprite.cells rows.toList) = _ :=
          Painting.paint_along e.device x.toNat y.toNat { device := m.device } _
        simp only [hPaint]
        cases Painting.paint x.toNat y.toNat { device := m.device } (Sprite.cells rows.toList) with
        | mk p painted =>
            cases painted with
            | error cause => rfl
            | ok done => rfl
  · have hOut := Nat.lt_of_not_le hFits
    rw [Machine.drawSprite_outOfRange hOut] at hKeeps ⊢
    have hRam := e.machine_ram_of_lacks hKeeps rfl m
    rw [Machine.drawSprite_outOfRange (by rw [hRam]; exact hOut), hRam]
    rfl

theorem call_embed {m : Machine σ} (patience : Nat) (w : Word)
    (hKeeps : e.Keeps (m.execute patience .call w)) :
    (e.machine m).execute patience .call w = e.outcome (m.execute patience .call w) := by
  rw [Machine.execute_call] at hKeeps ⊢
  rw [Machine.execute_call]
  have hDepth : (e.machine m).depth = m.depth := rfl
  rw [hDepth]
  by_cases hFull : Layout.stackSlots ≤ m.depth
  · rw [if_pos hFull, if_pos hFull]
    rfl
  · rw [if_neg hFull] at hKeeps ⊢
    rw [if_neg hFull]
    refine e.checked_embed hKeeps fun hFits => ?_
    have hStore := e.machine_store (Ram.wordBytes m.registers.pc) hFits
    exact congrArg (fun machine : Machine τ =>
      ({ machine with depth := m.depth + 1 }.withPc w.address).done) hStore

theorem ret_embed {m : Machine σ} (patience : Nat) (w : Word)
    (hKeeps : e.Keeps (m.execute patience .ret w)) :
    (e.machine m).execute patience .ret w = e.outcome (m.execute patience .ret w) := by
  have hPop : (e.machine m).stack.pop (e.machine m).ram = m.stack.pop m.ram := by
    refine m.stack.pop_extend fun f hFault hMemory => hKeeps ?_
    rw [Machine.execute_ret, hFault]
    exact hMemory
  rw [Machine.execute_ret, Machine.execute_ret, hPop]
  cases m.stack.pop m.ram with
  | error cause => rfl
  | ok popped => rfl

theorem storeDecimal_embed {m : Machine σ} (patience : Nat) (w : Word)
    (hKeeps : e.Keeps (m.execute patience .storeDecimal w)) :
    (e.machine m).execute patience .storeDecimal w =
      e.outcome (m.execute patience .storeDecimal w) := by
  rw [Machine.execute_storeDecimal] at hKeeps ⊢
  rw [Machine.execute_storeDecimal]
  refine e.checked_embed hKeeps fun hFits => ?_
  exact congrArg Machine.done
    (e.machine_store (Machine.decimalDigits (m.registers.reg w.x)) hFits)

theorem storeRegisters_embed {m : Machine σ} (patience : Nat) (w : Word)
    (hKeeps : e.Keeps (m.execute patience .storeRegisters w)) :
    (e.machine m).execute patience .storeRegisters w =
      e.outcome (m.execute patience .storeRegisters w) := by
  rw [Machine.execute_storeRegisters] at hKeeps ⊢
  rw [Machine.execute_storeRegisters]
  refine e.checked_embed hKeeps fun hFits => ?_
  rw [← Machine.length_dumped m.registers w.x] at hFits
  exact congrArg Machine.done (e.machine_store _ hFits)

theorem loadRegisters_embed {m : Machine σ} (patience : Nat) (w : Word)
    (hKeeps : e.Keeps (m.execute patience .loadRegisters w)) :
    (e.machine m).execute patience .loadRegisters w =
      e.outcome (m.execute patience .loadRegisters w) := by
  rw [Machine.execute_loadRegisters] at hKeeps ⊢
  rw [Machine.execute_loadRegisters]
  refine e.checked_embed hKeeps fun hFits => ?_
  have hCells : (List.range (w.x.val + 1)).map
        (fun k => (e.machine m).ram.cell ((e.machine m).registers.i.toNat + k)) =
      (List.range (w.x.val + 1)).map fun k => m.ram.cell (m.registers.i.toNat + k) := by
    refine List.map_congr_left fun k hk => Ram.cell_extend ?_ e.above
    have hInside : k < w.x.val + 1 := List.mem_range.1 hk
    omega
  rw [hCells]
  rfl

/-- Internal operations see neither memory nor device. -/
theorem internal_embed (m : Machine σ) (patience : Nat) {op : Operation}
    (hInternal : op.isInternal = true) (w : Word) :
    (e.machine m).execute patience op w = e.outcome (m.execute patience op w) := by
  cases op
  case register op =>
      rw [Machine.execute, Machine.execute, Machine.combine, Machine.combine]
      have hRegisters : (e.machine m).registers = m.registers := rfl
      rw [hRegisters]
      split
      · rfl
      · rfl
  case jumpOffset =>
      rw [Machine.execute_jumpOffset, Machine.execute_jumpOffset]
      rfl
  case loadGlyph =>
      rw [Machine.execute_loadGlyph, Machine.execute_loadGlyph]
      rfl
  case skipEqualConstant | skipUnequalConstant | skipEqualRegister | skipUnequalRegister =>
      simp only [Machine.execute, Machine.skipIf_eq]
      rfl
  case clearScreen | ret | call | draw | skipPressed | skipReleased | awaitKey | storeDecimal |
      storeRegisters | loadRegisters =>
      cases hInternal
  all_goals rfl

/-- An operation of the larger machine is the operation, embedded. -/
theorem execute_embed {m : Machine σ} {patience : Nat} {op : Operation} {w : Word}
    (hKeeps : e.Keeps (m.execute patience op w)) :
    (e.machine m).execute patience op w = e.outcome (m.execute patience op w) := by
  cases hInternal : op.isInternal with
  | true => exact e.internal_embed m patience hInternal w
  | false =>
      cases op
      case clearScreen => exact e.clearScreen_embed m
      case ret => exact e.ret_embed patience w hKeeps
      case call => exact e.call_embed patience w hKeeps
      case draw => exact e.drawSprite_embed hKeeps
      case skipPressed => exact e.skipIfPressed_embed m _ true
      case skipReleased => exact e.skipIfPressed_embed m _ false
      case awaitKey => exact e.awaitKey_embed m patience _
      case storeDecimal => exact e.storeDecimal_embed patience w hKeeps
      case storeRegisters => exact e.storeRegisters_embed patience w hKeeps
      case loadRegisters => exact e.loadRegisters_embed patience w hKeeps
      all_goals cases hInternal

/-- A step of the larger machine is the step, embedded. -/
theorem step_embed {m : Machine σ} {patience : Nat} (hKeeps : e.Keeps (m.step patience)) :
    (e.machine m).step patience = e.outcome (m.step patience) := by
  have hState : (e.machine m).state = m.state := rfl
  have hRegisters : (e.machine m).registers = m.registers := rfl
  rw [Machine.step] at hKeeps ⊢
  rw [Machine.step, hState, hRegisters]
  cases hRunning : m.state with
  | halted => rfl
  | running =>
      rw [hRunning] at hKeeps
      dsimp only at hKeeps ⊢
      cases hSum : Checked.addSize m.registers.pc.toNat 2 with
      | error cause => rfl
      | ok wordEnd =>
          rw [hSum] at hKeeps
          dsimp only at hKeeps ⊢
          by_cases hPast : m.registers.programEnd < wordEnd
          · rw [if_pos hPast, if_pos hPast]
            rfl
          · rw [if_neg hPast] at hKeeps ⊢
            rw [if_neg hPast]
            cases hRead : m.ram.readWord m.registers.pc.toNat with
            | error fault =>
                obtain ⟨-, rfl⟩ := Ram.readWord_eq_error_iff.1 hRead
                rw [hRead] at hKeeps
                rw [e.machine_ram_of_lacks hKeeps rfl, hRead]
                rfl
            | ok bits =>
                rw [hRead] at hKeeps
                have hLarger : (e.machine m).ram.readWord m.registers.pc.toNat = .ok bits := by
                  have hFits := (Ram.readWord_eq_ok_iff.1 hRead).1
                  exact (Ram.readWord_extend hFits e.above).trans hRead
                rw [hLarger]
                dsimp only at hKeeps ⊢
                cases hDecode : instructionSet.decode ⟨bits⟩ with
                | none => rfl
                | some entry =>
                    rw [hDecode] at hKeeps
                    have hExecute : ((e.machine m).withPc (nextAddress m.registers.pc)).execute
                        patience entry.value ⟨bits⟩ = _ :=
                      e.execute_embed (e.keeps_map_iff.1 hKeeps)
                    dsimp only
                    rw [hExecute]
                    rfl

theorem runFrom_embed {m : Machine σ} {patience steps : Nat} {earlier : Effects}
    (hKeeps : e.Keeps (Machine.runFrom patience earlier steps m)) :
    Machine.runFrom patience earlier steps (e.machine m) =
      e.outcome (Machine.runFrom patience earlier steps m) := by
  induction steps generalizing m earlier with
  | zero => rfl
  | succ steps ih =>
      by_cases hRunning : (m.step (patience - earlier.pauses.size)).result = .ok .running
      · have hStep := e.step_embed (e.keeps_of_ok hRunning)
        have hRunning' : ((e.machine m).step (patience - earlier.pauses.size)).result =
            .ok .running := by
          rw [hStep]
          exact hRunning
        rw [Machine.runFrom_succ_of_running hRunning] at hKeeps ⊢
        rw [Machine.runFrom_succ_of_running hRunning', hStep]
        exact ih hKeeps
      · rw [Machine.runFrom_succ_of_stopped hRunning] at hKeeps ⊢
        have hStep := e.step_embed hKeeps
        have hStops : ((e.machine m).step (patience - earlier.pauses.size)).result ≠
            .ok .running := by
          rw [hStep]
          exact hRunning
        rw [Machine.runFrom_succ_of_stopped hStops, hStep]
        rfl

/-- A load fits into the smaller memory, or lacks it. -/
theorem load_embed {m : Machine σ} {program : List UInt8} (hKeeps : e.Keeps (m.load program)) :
    (e.machine m).load program = e.outcome (m.load program) := by
  by_cases hFits : Layout.programStart + program.length ≤ m.ram.capacity
  · have hLarger : Layout.programStart + program.length ≤ (e.machine m).ram.capacity := by
      change _ ≤ (m.ram.extend e.above).capacity
      rw [Ram.capacity_extend]
      exact Nat.le_add_right_of_le hFits
    have hStore : Ram.store (e.machine m).ram.bytes Layout.programStart program = _ :=
      Ram.store_extend hFits e.above
    rw [Machine.load, Machine.load, Ram.loadProgram_of_fits hFits,
      Ram.loadProgram_of_fits hLarger, hStore]
    rfl
  · have hLoad : m.ram.loadProgram program = _ := if_pos (Nat.lt_of_not_le hFits)
    rw [Machine.load, hLoad] at hKeeps
    rw [Machine.load, Machine.load, e.machine_ram_of_lacks hKeeps rfl, hLoad]
    rfl

theorem loadFrom_embed {m : Machine σ} {source : ByteSource}
    (hKeeps : e.Keeps (m.loadFrom source)) :
    (e.machine m).loadFrom source = e.outcome (m.loadFrom source) := by
  rw [Machine.loadFrom] at hKeeps ⊢
  rw [Machine.loadFrom]
  cases hContents : source.contents with
  | error error => rfl
  | ok program =>
      rw [hContents] at hKeeps
      exact e.load_embed hKeeps

theorem answer_embed {m : Machine σ} {patience : Nat} {a : Action}
    (hKeeps : e.Keeps (m.answer patience a)) :
    (e.machine m).answer patience a = e.outcome (m.answer patience a) := by
  cases a with
  | load program =>
      have hLoad := e.load_embed (e.keeps_map_iff.1 hKeeps)
      exact congrArg (Outcome.map fun () => none) hLoad
  | loadFrom source =>
      have hLoad := e.loadFrom_embed (e.keeps_map_iff.1 hKeeps)
      exact congrArg (Outcome.map fun () => none) hLoad
  | reset => rfl
  | step =>
      have hStep := e.step_embed (e.keeps_map_iff.1 hKeeps)
      exact congrArg (Outcome.map some) hStep
  | run steps =>
      have hRun := e.runFrom_embed (e.keeps_map_iff.1 hKeeps)
      exact congrArg (Outcome.map some) hRun
  | tick => rfl
  | poke registers => rfl

/-- All that a host can do to the larger machine comes to what it comes to in the machine,
embedded. -/
theorem answers_embed {m : Machine σ} {patience : Nat} {actions : List Action}
    (hKeeps : ∀ o ∈ m.answers patience actions, e.Keeps o) :
    (e.machine m).answers patience actions = (m.answers patience actions).map e.outcome := by
  induction actions generalizing m with
  | nil => rfl
  | cons a rest ih =>
      have hFirst := e.answer_embed (hKeeps _ List.mem_cons_self)
      have hRest := ih fun o ho => hKeeps o (List.mem_cons_of_mem _ ho)
      rw [Machine.answers, Machine.answers, hFirst, List.map_cons]
      exact congrArg (e.outcome (m.answer patience a) :: ·) hRest

theorem performAll_embed {m : Machine σ} {patience : Nat} {actions : List Action}
    (hKeeps : ∀ o ∈ m.answers patience actions, e.Keeps o) :
    (e.machine m).performAll patience actions = e.machine (m.performAll patience actions) := by
  induction actions generalizing m with
  | nil => rfl
  | cons a rest ih =>
      have hFirst := congrArg Outcome.machine (e.answer_embed (hKeeps _ List.mem_cons_self))
      have hRest := ih fun o ho => hKeeps o (List.mem_cons_of_mem _ ho)
      rw [Machine.machine_answer] at hFirst hRest
      change ((e.machine m).perform patience a).machine.performAll patience rest = _
      rw [hFirst]
      change (e.machine (m.answer patience a).machine).performAll patience rest = _
      rw [Machine.machine_answer]
      exact hRest

end Embedding

end Chip8
