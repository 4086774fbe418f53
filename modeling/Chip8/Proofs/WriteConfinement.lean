import Mathlib.Tactic
import Chip8.Device.Keypad
import Chip8.Proofs.CallReturn
import Chip8.Proofs.Reachable

/-!
# What is written where

Three things write memory once a machine is there: a load that fits, a call that finds room, and a
store that lies in memory. `Machine.Writes` says which bytes; a byte that a move does not write is
the same afterwards. Loads write at and above `0x200`, calls inside the window of the call stack, so
the glyphs at the bottom of memory stay intact until a store hits them.
-/

namespace Chip8

/-- The rows of the glyph of a digit. -/
def Layout.glyph (digit : Nat) : List UInt8 :=
  (font.drop (glyphBytes * digit)).take glyphBytes

/-- The rows of a glyph, one by one. -/
theorem Layout.glyph_eq_map {digit : Nat} (hDigit : digit < 16) :
    glyph digit = (List.range glyphBytes).map fun k => font.getD (glyphBytes * digit + k) 0 := by
  have hAll : ∀ digit : Fin 16, glyph digit =
      (List.range glyphBytes).map fun k => font.getD (glyphBytes * digit + k) 0 := by
    decide
  exact hAll ⟨digit, hDigit⟩

/-- The glyphs lie at the bottom of the memory. -/
def Ram.HoldsFont (r : Ram) : Prop :=
  ∀ a, a < 80 → r.cell a = Layout.font.getD a 0

/-- Where the glyph of a digit is read. -/
theorem Ram.HoldsFont.read_glyph {r : Ram} (h : r.HoldsFont)
    (hCapacity : Layout.programStart < r.capacity) {digit : Nat} (hDigit : digit < 16) :
    r.read (5 * digit) 5 = .ok (Layout.glyph digit).toArray := by
  rw [read_eq_ok_iff, Layout.glyph_eq_map hDigit]
  refine ⟨?_, List.map_congr_left fun k hk => ?_⟩
  · rw [Layout.programStart] at hCapacity
    omega
  · have hRow : k < 5 := List.mem_range.1 hk
    have hGlyphs : 5 * digit + k < 80 := by omega
    exact (h _ hGlyphs).symm

namespace Machine

section PowerOn

variable {σ : Type} {ram : Ram} {device : σ} {random : RandomStream} {m : Machine σ}
  {notices : Array Notice}

/-- Power on writes the glyphs and nothing else. -/
theorem cell_of_powerOn (h : powerOn ram device random = .ok (m, notices)) (a : Nat) :
    m.ram.cell a = if a < 80 then Layout.font.getD a 0 else ram.cell a := by
  obtain ⟨hRoom, rfl⟩ := eq_of_powerOn h
  have hFits : Layout.fontStart + Layout.font.length ≤ ram.capacity := by
    rw [Layout.length_font]
    simp only [Layout.fontStart, Layout.glyphBytes, Layout.programStart] at hRoom ⊢
    omega
  refine (Ram.cell_store ram hFits a).trans ?_
  simp only [Layout.fontStart, Layout.length_font, Layout.glyphBytes, Nat.zero_le, true_and,
    Nat.zero_add, Nat.sub_zero]

end PowerOn

variable {σ : Type} [Device σ]

/-- The bytes that a move writes. -/
inductive Writes (m : Machine σ) : Move → Nat → Prop where
  | load {program : List UInt8} {a : Nat} (hFits : 0x200 + program.length ≤ m.ram.capacity)
      (hLow : 0x200 ≤ a) (hHigh : a < 0x200 + program.length) : m.Writes (.load program) a
  | call {patience a : Nat} (hCall : m.nextOperation? = some .call) (hRoom : m.depth < 16)
      (hDone : (m.step patience).result = .ok .running)
      (hLow : 0x160 + 2 * m.depth ≤ a) (hHigh : a < 0x160 + 2 * m.depth + 2) :
      m.Writes (.step patience) a
  | store {patience addr len a : Nat} (hStore : m.nextStore? = some (addr, len))
      (hDone : (m.step patience).result = .ok .running)
      (hLow : addr ≤ a) (hHigh : a < addr + len) : m.Writes (.step patience) a

/-- What a step does to memory. It leaves it as it is, or goes through and stores into the next slot
of the call stack, or where a store of the program says. -/
theorem ram_step_cases (m : Machine σ) (patience : Nat) :
    (m.step patience).machine.ram = m.ram ∨
    ∃ addr data,
      addr + data.length ≤ m.ram.capacity ∧
      (m.step patience).machine.ram = ⟨Ram.store m.ram.bytes addr data⟩ ∧
      (m.step patience).result = .ok .running ∧
      (m.nextOperation? = some .call ∧ m.depth < 16 ∧ addr = 0x160 + 2 * m.depth ∧
          data.length = 2 ∨
        m.nextStore? = some (addr, data.length)) := by
  cases hOp : m.nextOperation? with
  | none =>
      obtain ⟨registers, state, hMachine⟩ := step_of_no_operation hOp patience
      rw [hMachine]
      exact Or.inl rfl
  | some op =>
      obtain ⟨w, hWord, hDecode, hMachine, hResult⟩ := step_of_nextOperation hOp patience
      rw [hMachine, hResult]
      by_cases hCall : op = .call
      · subst hCall
        rw [execute_call]
        by_cases hFull : Layout.stackSlots ≤ m.advanced.depth
        · rw [if_pos hFull]
          exact Or.inl rfl
        · rw [if_neg hFull]
          split
          · rename_i hFits
            refine Or.inr ⟨_, Ram.wordBytes m.advanced.registers.pc, hFits, rfl, rfl, Or.inl ?_⟩
            exact ⟨rfl, Nat.not_le.1 hFull, rfl, rfl⟩
          · exact Or.inl rfl
      by_cases hDecimal : op = .storeDecimal
      · subst hDecimal
        rw [execute_storeDecimal]
        split
        · rename_i hFits
          refine Or.inr ⟨_, decimalDigits _, hFits, rfl, rfl, Or.inr ?_⟩
          exact nextStore?_storeDecimal hWord hDecode
        · exact Or.inl rfl
      by_cases hRegisters : op = .storeRegisters
      · subst hRegisters
        rw [execute_storeRegisters]
        split
        · rename_i hFits
          have hLength := length_dumped m.advanced.registers w.x
          refine Or.inr ⟨_, _, hLength.symm ▸ hFits, rfl, rfl, Or.inr ?_⟩
          rw [hLength]
          exact nextStore?_storeRegisters hWord hDecode
        · exact Or.inl rfl
      obtain ⟨registers, depth, random, device, hFrame⟩ :=
        m.advanced.execute_frame_ram patience w hCall hDecimal hRegisters
      rw [hFrame]
      exact Or.inl rfl

/-- A byte that a step does not write. -/
theorem cell_step {m : Machine σ} {patience a : Nat} (h : ¬m.Writes (.step patience) a) :
    (m.step patience).machine.ram.cell a = m.ram.cell a := by
  rcases m.ram_step_cases patience with hRam | ⟨addr, data, hFits, hRam, hDone, hWhere⟩
  · rw [hRam]
  · rw [hRam, Ram.cell_store _ hFits, if_neg]
    rintro ⟨hLow, hHigh⟩
    rcases hWhere with ⟨hCall, hRoom, rfl, hLength⟩ | hStore
    · exact h (.call hCall hRoom hDone hLow (hLength ▸ hHigh))
    · exact h (.store hStore hDone hLow hHigh)

/-- A byte that a move does not write. -/
theorem cell_move {m : Machine σ} {mv : Move} {a : Nat} (h : ¬m.Writes mv a) :
    (m.move mv).machine.ram.cell a = m.ram.cell a := by
  cases mv with
  | load program =>
      rcases m.load_cases program with ⟨-, hLoad⟩ | ⟨hFits, hMachine, -⟩
      · rw [move, hLoad]
      · rw [move, hMachine, Ram.cell_store _ hFits, if_neg]
        exact fun hInside => h (.load hFits hInside.1 hInside.2)
  | reset => rfl
  | step patience => exact cell_step h
  | tick => rfl
  | poke registers => rfl

/-- A byte that no move writes, through a sequence of moves. -/
theorem cell_replay {m : Machine σ} {moves : List Move} {a : Nat}
    (h : m.Along (fun m mv => ¬m.Writes mv a) moves) :
    (m.replay moves).ram.cell a = m.ram.cell a := by
  induction moves generalizing m with
  | nil => rfl
  | cons mv rest ih => exact (ih h.2).trans (cell_move h.1)

/-- A load writes no address below `0x200`. -/
theorem cell_load {m : Machine σ} {program : List UInt8} {a : Nat} (hBelow : a < 0x200) :
    (m.load program).machine.ram.cell a = m.ram.cell a := by
  have hNot : ¬m.Writes (.load program) a := by
    intro hWrites
    cases hWrites with
    | load _ hLow _ => omega
  exact cell_move hNot

omit [Device σ] in
/-- A call is no store. -/
theorem nextStore?_of_call {m : Machine σ} (hCall : m.nextOperation? = some .call) :
    m.nextStore? = none := by
  obtain ⟨w, hWord, hDecode⟩ := nextOperation?_eq_some_iff.1 hCall
  simp only [nextStore?, hWord, Option.bind_some, hDecode]

/-- A call writes inside the window of the call stack only. -/
theorem cell_call {m : Machine σ} (hCall : m.nextOperation? = some .call) (patience : Nat) {a : Nat}
    (hOutside : ¬(0x160 ≤ a ∧ a < 0x180)) :
    (m.step patience).machine.ram.cell a = m.ram.cell a := by
  refine cell_step fun hWrites => ?_
  cases hWrites with
  | call _ hRoom _ hLow hHigh => omega
  | store hStore _ _ _ =>
      rw [nextStore?_of_call hCall] at hStore
      cases hStore

/-- The move is no store that goes through and begins where the glyphs are. -/
def SparesFont (m : Machine σ) : Move → Prop
  | .step patience =>
    (m.step patience).result = .ok .running → ∀ stored ∈ m.nextStore?, 80 ≤ stored.1
  | _ => True

instance decidableSparesFont (m : Machine σ) : (mv : Move) → Decidable (m.SparesFont mv)
  | .step patience => inferInstanceAs (Decidable
      ((m.step patience).result = .ok .running → ∀ stored ∈ m.nextStore?, 80 ≤ stored.1))
  | .load _ => .isTrue trivial
  | .reset => .isTrue trivial
  | .tick => .isTrue trivial
  | .poke _ => .isTrue trivial

theorem SparesFont.not_writes {m : Machine σ} {mv : Move} (h : m.SparesFont mv) {a : Nat}
    (hGlyphs : a < 80) : ¬m.Writes mv a := by
  intro hWrites
  cases hWrites with
  | load _ hLow _ => omega
  | call _ _ _ hLow _ => omega
  | store hStore hDone hLow _ =>
      have hAddr := h hDone _ hStore
      omega

/-- The glyphs stay intact. -/
theorem holdsFont_replay {m : Machine σ} {moves : List Move} (h : m.ram.HoldsFont)
    (hSpared : m.Along SparesFont moves) : (m.replay moves).ram.HoldsFont := by
  intro a hGlyphs
  have hUnwritten := hSpared.mono fun _ _ hSpares => hSpares.not_writes hGlyphs
  exact (cell_replay hUnwritten).trans (h a hGlyphs)

/-- The operation FX29 points at the glyph of the low digit of a register. -/
theorem step_loadGlyph {m : Machine σ} {w : Word} (hWord : m.nextWord? = some w)
    (hDecode : Operation.ofDigits? w.digits = some .loadGlyph) (patience : Nat) :
    (m.step patience).result = .ok .running ∧
      (m.step patience).machine.ram = m.ram ∧
      (m.step patience).machine.registers.i.toNat =
        5 * ((m.registers.reg w.digits.x).toNat % 16) := by
  rw [← w.x_eq]
  have hOp := nextOperation?_eq_some_iff.2 ⟨w, hWord, hDecode⟩
  obtain ⟨w', hWord', -, hMachine, hResult⟩ := step_of_nextOperation hOp patience
  cases hWord.symm.trans hWord'
  rw [execute_loadGlyph] at hMachine hResult
  rw [hMachine]
  refine ⟨hResult, rfl, UInt16.toNat_ofNat'.trans (Nat.mod_eq_of_lt ?_)⟩
  have hDigit := Nat.mod_lt (m.registers.reg w.x).toNat (by decide : 0 < 16)
  change 5 * ((m.registers.reg w.x).toNat % 16) < 2 ^ 16
  omega

/-- From power on, through all that a host can do: memory keeps its size, power on, loads, calls and
stores write the bytes that they are meant to write and nothing else is written; loads and calls
stay clear of the glyphs and of each other; and as long as no store goes through that begins among
the glyphs, they are intact and FX29 points at the glyph of its digit. -/
theorem writes_are_confined {ram : Ram} {device : σ} {random : RandomStream} {m₀ : Machine σ}
    {notices : Array Notice} (hPowerOn : powerOn ram device random = .ok (m₀, notices)) :
    m₀.ram.capacity = ram.capacity ∧
    (∀ a, 80 ≤ a → m₀.ram.cell a = ram.cell a) ∧
    ∀ patience actions,
      m₀.replay (m₀.moves patience actions) = m₀.performAll patience actions ∧
      ∀ before later, m₀.moves patience actions = before ++ later →
        let m := m₀.replay before
        (∀ mv, (m.move mv).machine.ram.capacity = m.ram.capacity ∧
          ∀ a, ¬m.Writes mv a → (m.move mv).machine.ram.cell a = m.ram.cell a) ∧
        (∀ program a, a < 0x200 → (m.load program).machine.ram.cell a = m.ram.cell a) ∧
        (m.nextOperation? = some .call → ∀ patience' a, ¬(0x160 ≤ a ∧ a < 0x180) →
          (m.step patience').machine.ram.cell a = m.ram.cell a) ∧
        (m₀.Along SparesFont before →
          (∀ a, a < 80 → m.ram.cell a = Layout.font.getD a 0) ∧
          ∀ w, m.nextWord? = some w → Operation.ofDigits? w.digits = some .loadGlyph →
            ∀ patience',
              let o := m.step patience'
              let digit := (m.registers.reg w.digits.x).toNat % 16
              o.result = .ok .running ∧
              o.machine.registers.i.toNat = 5 * digit ∧
              o.machine.ram.read o.machine.registers.i.toNat 5 =
                .ok (Layout.glyph digit).toArray) := by
  have hInside := EndsInside.of_powerOn hPowerOn
  have hFont : m₀.ram.HoldsFont := by
    intro a hGlyphs
    rw [cell_of_powerOn hPowerOn, if_pos hGlyphs]
  refine ⟨hInside.size, fun a hAbove => ?_, fun patience actions => ⟨replay_moves _ _ _, ?_⟩⟩
  · rw [cell_of_powerOn hPowerOn, if_neg (Nat.not_lt.2 hAbove)]
  intro before later _ m
  refine ⟨fun mv => ⟨m.capacity_move mv, fun a => cell_move⟩, fun _ _ => cell_load,
    fun hCall patience' _ => cell_call hCall patience', fun hSpared => ?_⟩
  have hIntact : m.ram.HoldsFont := holdsFont_replay hFont hSpared
  refine ⟨hIntact, fun w hWord hDecode patience' => ?_⟩
  obtain ⟨hResult, hRam, hIndex⟩ := step_loadGlyph hWord hDecode patience'
  have hCapacity : Layout.programStart < m.ram.capacity := by
    rw [capacity_replay, hInside.size]
    exact hInside.room
  have hDigit := Nat.mod_lt (m.registers.reg w.digits.x).toNat (by decide : 0 < 16)
  refine ⟨hResult, hIndex, ?_⟩
  rw [hRam, hIndex]
  exact hIntact.read_glyph hCapacity hDigit

/-- A store above the glyphs, a call, and the glyph of A. -/
theorem writes_are_confined_glyph :
    ∃ (ram : Ram) (m₀ : Machine (Board DrawCounter Keypad)) (notices : Array Notice)
      (actions : List Action) (before later : List Move),
      powerOn ram (Board.ofParts {} {}) default = .ok (m₀, notices) ∧
      m₀.moves 0 actions = before ++ later ∧
      m₀.Along SparesFont before ∧
      (m₀.replay before).nextOperation? = some .loadGlyph ∧
      (m₀.replay before).depth = 1 ∧
      ((m₀.replay before).step 0).machine.registers.i.toNat = 50 ∧
      ((m₀.replay before).step 0).machine.ram.read 50 5 =
        .ok #[0xF0, 0x90, 0xF0, 0x90, 0x90] := by
  let program : List UInt8 := [0x60, 0x1A, 0xA2, 0xF0, 0xF0, 0x33, 0x22, 0x08, 0xF0, 0x29]
  let m₀ : Machine (Board DrawCounter Keypad) := fresh 0x300 (Board.ofParts {} {}) default
  let before : List Move := [.load program, .step 0, .step 0, .step 0, .step 0]
  have hPowerOn := powerOn_zeroed (by decide : Layout.programStart < 0x300)
    (Board.ofParts {} {} : Board DrawCounter Keypad) default
  obtain ⟨hMoves, hSpared, hWord, hDigit, hDepth⟩ :
      m₀.moves 0 [.load program, .run 5] = before ++ [.step 0] ∧
      m₀.Along SparesFont before ∧
      (m₀.replay before).nextWord? = some ⟨0xF029⟩ ∧
      ((m₀.replay before).registers.reg (Word.digits ⟨0xF029⟩).x).toNat % 16 = 10 ∧
      (m₀.replay before).depth = 1 := by
    decide +kernel
  have hDecode : Operation.ofDigits? (Word.digits ⟨0xF029⟩) = some .loadGlyph := by decide
  obtain ⟨-, -, hAll⟩ := writes_are_confined hPowerOn
  obtain ⟨-, -, -, hGlyphs⟩ := (hAll 0 [.load program, .run 5]).2 before [.step 0] hMoves
  obtain ⟨-, hIndex, hRead⟩ := (hGlyphs hSpared).2 _ hWord hDecode 0
  rw [hDigit] at hIndex hRead
  rw [hIndex] at hRead
  refine ⟨_, _, _, _, _, _, hPowerOn, hMoves, hSpared, ?_, hDepth, hIndex, hRead⟩
  exact nextOperation?_eq_some_iff.2 ⟨_, hWord, hDecode⟩

end Machine

end Chip8
