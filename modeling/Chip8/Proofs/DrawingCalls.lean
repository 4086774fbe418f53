import Mathlib.Tactic
import Chip8.Proofs.Drawing
import Chip8.Proofs.Recording
import Chip8.Proofs.Reference.Refinement

/-!
# What drawing asks of a device

A drawing instruction asks the device to flip one pixel after the other and goes on whatever the
device answers, so that what it asks depends on the memory and the registers alone. Only the flag
depends on the answers. Nothing is assumed of the device, whose answers may depend on all questions
so far, but that it does not abort.
-/

namespace Chip8

namespace Device

variable {σ τ : Type} [Device σ] [Device τ]

/-- The device after flipping pixels one after the other, whatever it answers. -/
def afterToggles (d : σ) : List (Nat × Nat) → σ
  | [] => d
  | (x, y) :: rest => afterToggles (toggle d x y).state rest

/-- The answers to flipping pixels one after the other. -/
def toggleAnswers (d : σ) : List (Nat × Nat) → List (Answer Bool)
  | [] => []
  | (x, y) :: rest => (toggle d x y).answer :: toggleAnswers (toggle d x y).state rest

theorem Hom.toggleAnswers_map (h : Device.Hom σ τ) (d : σ) (pixels : List (Nat × Nat)) :
    Device.toggleAnswers (h.map d) pixels = Device.toggleAnswers d pixels := by
  induction pixels generalizing d with
  | nil => rfl
  | cons pixel rest ih =>
      obtain ⟨x, y⟩ := pixel
      rw [Device.toggleAnswers, Device.toggleAnswers, h.toggle]
      exact congrArg _ (ih _)

end Device

/-- A record gets one entry for each pixel. -/
theorem Recorder.calls_afterToggles {σ : Type} [Device σ] (r : Recorder σ)
    (pixels : List (Nat × Nat)) :
    (Device.afterToggles r pixels).calls = r.calls ++ pixels.map fun p => .toggle p.1 p.2 := by
  induction pixels generalizing r with
  | nil => exact (List.append_nil _).symm
  | cons pixel rest ih =>
      obtain ⟨x, y⟩ := pixel
      rw [Device.afterToggles, ih, List.map_cons]
      exact List.append_assoc _ [DeviceCall.toggle x y] _

/-- A painting that is not aborted flips all its pixels, and any answer that a pixel was lit sets
its flag. -/
theorem Painting.paint_of_unaborted {σ : Type} [Device σ] {x y : Nat} (p : Painting σ)
    (cells : List (Nat × Nat))
    (hCells : ∀ cell ∈ cells, x + cell.1 < Checked.sizeLimit ∧ y + cell.2 < Checked.sizeLimit)
    (hAnswers : ∀ cause, Answer.aborted cause ∉
      Device.toggleAnswers p.device (cells.map fun c => (x + c.1, y + c.2))) :
    (paint x y p cells).2 = .ok () ∧
      (paint x y p cells).1.device =
        Device.afterToggles p.device (cells.map fun c => (x + c.1, y + c.2)) ∧
      (paint x y p cells).1.collision =
        (p.collision || decide (Answer.value true ∈
          Device.toggleAnswers p.device (cells.map fun c => (x + c.1, y + c.2)))) := by
  induction cells generalizing p with
  | nil => exact ⟨rfl, rfl, (Bool.or_false _).symm⟩
  | cons cell rest ih =>
      obtain ⟨hx, hy⟩ := hCells cell List.mem_cons_self
      have hRest := fun c hc => hCells c (List.mem_cons_of_mem cell hc)
      simp only [List.map_cons, Device.toggleAnswers, List.mem_cons, not_or] at hAnswers ⊢
      have hLater := fun cause => (hAnswers cause).2
      simp only [paint, Sprite.place_of_lt hx hy, Device.afterToggles]
      cases hAnswer : (Device.toggle p.device (x + cell.1) (y + cell.2)).answer with
      | value wasLit =>
          obtain ⟨hResult, hDevice, hCollision⟩ := ih
            { p with
              device := (Device.toggle p.device (x + cell.1) (y + cell.2)).state
              notices := p.notices ++ (Device.toggle p.device (x + cell.1) (y + cell.2)).notices
              collision := p.collision || wasLit } hRest hLater
          refine ⟨hResult, hDevice, hCollision.trans ?_⟩
          cases wasLit with
          | true => simp
          | false => simp
      | failed error =>
          obtain ⟨hResult, hDevice, hCollision⟩ := ih
            { p with
              device := (Device.toggle p.device (x + cell.1) (y + cell.2)).state
              notices := p.notices ++ (Device.toggle p.device (x + cell.1) (y + cell.2)).notices
              failure := some error } hRest hLater
          refine ⟨hResult, hDevice, hCollision.trans ?_⟩
          simp
      | aborted cause => exact absurd hAnswer.symm (hAnswers cause).1

namespace Machine

section Sprites

variable {σ : Type}

/-- The pixels that the drawing instruction `w` flips, in the order in which it does: row after row,
each row from its highest bit on. They are not wrapped around. -/
def spritePixels (m : Machine σ) (w : Word) : List (Nat × Nat) :=
  (List.range w.digits.n).flatMap fun row =>
    ((List.range 8).filter fun col =>
      (m.ram.cell (m.registers.i.toNat + row)).toNat.testBit (7 - col)).map fun col =>
        ((m.registers.reg w.digits.x).toNat + col, (m.registers.reg w.digits.y).toNat + row)

theorem spritePixels_eq_map (m : Machine σ) (w : Word) :
    m.spritePixels w = (Sprite.cells (m.spriteRows w.nibble.toNat)).map fun c =>
      ((m.registers.reg w.x).toNat + c.1, (m.registers.reg w.y).toNat + c.2) := by
  have hRows : m.spriteRows w.nibble.toNat = _ := rfl
  rw [← m.plain_pixels _ _ _ hRows, w.toNat_nibble, w.x_eq, w.y_eq]
  rfl

end Sprites

variable {σ : Type} [Device σ] {m : Machine σ} {w : Word}

theorem drawSprite_unaborted {x y height : UInt8}
    (hFits : m.registers.i.toNat + height.toNat ≤ m.ram.capacity) {pixels : List (Nat × Nat)}
    (hPixels : pixels = (Sprite.cells (m.spriteRows height.toNat)).map fun c =>
      (x.toNat + c.1, y.toNat + c.2))
    (hAnswers : ∀ cause, Answer.aborted cause ∉ Device.toggleAnswers m.device pixels) :
    (m.drawSprite x y height).result = .ok () ∧
      (m.drawSprite x y height).machine =
        { m with
          registers := m.registers.setFlag
            (decide (Answer.value true ∈ Device.toggleAnswers m.device pixels))
          device := Device.afterToggles m.device pixels } := by
  cases hRead : m.ram.read m.registers.i.toNat height.toNat with
  | error fault => exact absurd hFits (Nat.not_le.2 (Ram.read_eq_error_iff.1 hRead).1)
  | ok rows =>
      have hRows : rows.toList = m.spriteRows height.toNat := (Ram.read_eq_ok_iff.1 hRead).2
      rw [← hRows] at hPixels
      subst hPixels
      obtain ⟨hPainted, hDevice, hCollision⟩ := Painting.paint_of_unaborted
        { device := m.device } (Sprite.cells rows.toList) (sprite_fits hRead) hAnswers
      obtain ⟨hMachine, hResult⟩ := drawSprite_painted hRead (Prod.ext rfl hPainted)
      refine ⟨hResult, ?_⟩
      rw [hMachine, hDevice, hCollision, Bool.false_or]
      rfl

theorem step_draw_unaborted (hWord : m.nextWord? = some w) (hDraw : w.digits.family = 0xD)
    (hFits : m.registers.i.toNat + w.digits.n ≤ m.ram.capacity)
    (hAnswers : ∀ cause, Answer.aborted cause ∉ Device.toggleAnswers m.device (m.spritePixels w))
    (patience : Nat) :
    (m.step patience).result = .ok .running ∧
      (m.step patience).machine =
        { m with
          registers :=
            { m.registers.setFlag
                (decide (Answer.value true ∈ Device.toggleAnswers m.device (m.spritePixels w))) with
              pc := nextAddress m.registers.pc }
          device := Device.afterToggles m.device (m.spritePixels w) } := by
  have hOp : m.nextOperation? = some .draw :=
    nextOperation?_eq_some_iff.2 ⟨w, hWord, Operation.ofDigits?_of_family_draw hDraw⟩
  obtain ⟨w', hWord', -, hMachine, hResult⟩ := step_of_nextOperation hOp patience
  obtain rfl : w = w' := Option.some.inj (hWord.symm.trans hWord')
  obtain ⟨hOk, hDrawn⟩ := drawSprite_unaborted (m := m.advanced)
    (w.toNat_nibble.symm ▸ hFits) (m.spritePixels_eq_map w) hAnswers
  refine ⟨?_, ?_⟩
  · rw [hResult]
    exact congrArg (Except.map _) hOk
  · rw [hMachine]
    exact hDrawn

/-- A drawing instruction puts the pixels of its sprite on record and nothing else. -/
theorem asks_draw (hWord : m.nextWord? = some w) (hDraw : w.digits.family = 0xD)
    (hFits : m.registers.i.toNat + w.digits.n ≤ m.ram.capacity)
    (hAnswers : ∀ cause, Answer.aborted cause ∉ Device.toggleAnswers m.device (m.spritePixels w))
    (patience : Nat) :
    m.asks patience [.step] = (m.spritePixels w).map fun p => .toggle p.1 p.2 := by
  have hRecorded := Recorder.forget.toggleAnswers_map m.recorded.device (m.spritePixels w)
  obtain ⟨-, hMachine⟩ := step_draw_unaborted (m := m.recorded) hWord hDraw hFits
    (fun cause => hRecorded ▸ hAnswers cause) patience
  rw [asks_step, hMachine]
  exact Recorder.calls_afterToggles m.recorded.device (m.spritePixels w)

theorem step_clearScreen (hWord : m.nextWord? = some w)
    (hDigits : w.digits = ⟨0x0, 0x0, 0xE, 0x0⟩) (patience : Nat) :
    (m.step patience).machine = { m.advanced with device := (Device.clear m.device).state } ∧
      (m.step patience).result = m.advanced.clearScreen.result.map fun () => .running := by
  have hOp : m.nextOperation? = some .clearScreen :=
    nextOperation?_eq_some_iff.2 ⟨w, hWord, hDigits ▸ rfl⟩
  obtain ⟨w', -, -, hMachine, hResult⟩ := step_of_nextOperation hOp patience
  exact ⟨hMachine.trans m.advanced.clearScreen_machine, hResult⟩

theorem toUInt8_decide (p : Prop) [Decidable p] : (decide p).toUInt8 = if p then 1 else 0 := by
  split
  · rename_i hp
    rw [decide_eq_true hp]
    rfl
  · rename_i hp
    rw [decide_eq_false hp]
    rfl

/-- What the instructions that draw do on any device that does not abort on them. A drawing
instruction asks to flip each pixel of its sprite once, also behind a pixel that fails, and asks for
nothing else. It succeeds, and the flag is 1 if a pixel that did not fail was lit, and 0 if none
was. The instruction that clears the screen asks for that once and succeeds whatever the answer is.
Nothing else changes but the program counter. -/
theorem drawing_goes_on (hWord : m.nextWord? = some w) (patience : Nat) :
    (w.digits.family = 0xD → m.registers.i.toNat + w.digits.n ≤ m.ram.capacity →
      (∀ cause, Answer.aborted cause ∉ Device.toggleAnswers m.device (m.spritePixels w)) →
        m.asks patience [.step] = ((m.spritePixels w).map fun p => .toggle p.1 p.2) ∧
        (m.step patience).result = .ok .running ∧
        ∃ registers,
          (m.step patience).machine =
            { m with registers, device := Device.afterToggles m.device (m.spritePixels w) } ∧
          m.registers.Flagged
            (if Answer.value true ∈ Device.toggleAnswers m.device (m.spritePixels w) then 1 else 0)
            registers) ∧
    (w.digits = ⟨0x0, 0x0, 0xE, 0x0⟩ →
      (∀ cause, (Device.clear m.device).answer ≠ .aborted cause) →
        m.asks patience [.step] = [.clear] ∧
        (m.step patience).result = .ok .running ∧
        m.Moved 2 (Device.clear m.device).state (m.step patience).machine) := by
  refine ⟨fun hDraw hFits hAnswers => ?_, fun hDigits hAnswer => ?_⟩
  · obtain ⟨hResult, hMachine⟩ := step_draw_unaborted hWord hDraw hFits hAnswers patience
    refine ⟨asks_draw hWord hDraw hFits hAnswers patience, hResult, _, hMachine, ?_⟩
    rw [Registers.setFlag, toUInt8_decide]
    exact m.registers.flagged_setReg _
  · obtain ⟨hMachine, hResult⟩ := step_clearScreen hWord hDigits patience
    refine ⟨?_, ?_, hMachine ▸ m.moved_advanced _⟩
    · obtain ⟨hRecorded, -⟩ := step_clearScreen (m := m.recorded) hWord hDigits patience
      rw [asks_step, hRecorded]
      rfl
    · rcases m.advanced.clearScreen_result with hOk | ⟨cause, hAborted, -⟩
      · rw [hResult, hOk]
        rfl
      · exact absurd hAborted (hAnswer cause)

/-- Three rows of one pixel on a screen of one row, so that they are the same pixel: the device
fails on the second one, and at the third one the pixel is lit. Clearing the screen fails too, and
the program goes on. -/
theorem drawing_goes_on_failing :
    ∃ (m blanks : Machine ScriptedDevice) (w : Word),
      (m.nextWord? = some w ∧ w.digits.family = 0xD ∧
        m.registers.i.toNat + w.digits.n ≤ m.ram.capacity ∧
        Device.toggleAnswers m.device (m.spritePixels w) =
          [.value false, .failed ⟨.other, "pixel 1 lost"⟩, .value true] ∧
        m.asks 0 [.step] = [.toggle 5 9, .toggle 5 10, .toggle 5 11] ∧
        (m.step 0).result = .ok .running ∧
        (m.step 0).machine.registers.reg 0xF = 1) ∧
      blanks.nextWord? = some ⟨0x00E0⟩ ∧
        (Device.clear blanks.device).answer = .failed ⟨.other, "no screen"⟩ ∧
        blanks.asks 0 [.step] = [.clear] ∧
        (blanks.step 0).result = .ok .running ∧
        (blanks.step 0).machine.registers.pc.toNat = 0x202 := by
  let machine (code : Array UInt8) : Machine ScriptedDevice :=
    { ram := ⟨Array.replicate 0x200 0 ++ code⟩
      registers :=
        { Registers.initial with
          v := #v[5, 9, 0, 0, 0, 0, 0, 0, 0, 0, 0, 0, 0, 0, 0, 0]
          i := 0x202
          programEnd := 0x200 + code.size }
      depth := 0
      state := .running
      random := default
      device :=
        { script := { clearFails := true, failingToggles := [1] }, screen := Bitmap.dark 8 1 } }
  let m := machine #[0xD0, 0x13, 0x80, 0x80, 0x80]
  let blanks := machine #[0x00, 0xE0]
  have hWord : m.nextWord? = some ⟨0xD013⟩ := by decide +kernel
  have hBlanks : blanks.nextWord? = some ⟨0x00E0⟩ := by decide +kernel
  have hDraw : (Word.mk 0xD013).digits.family = 0xD := by decide
  have hFits : m.registers.i.toNat + (Word.mk 0xD013).digits.n ≤ m.ram.capacity := by
    decide +kernel
  have hPixels : m.spritePixels ⟨0xD013⟩ = [(5, 9), (5, 10), (5, 11)] := by decide +kernel
  have hAnswers : Device.toggleAnswers m.device (m.spritePixels ⟨0xD013⟩) =
      [.value false, .failed ⟨.other, "pixel 1 lost"⟩, .value true] := by
    decide +kernel
  have hUnaborted : ∀ cause, Answer.aborted cause ∉
      Device.toggleAnswers m.device (m.spritePixels ⟨0xD013⟩) := by
    intro cause
    rw [hAnswers]
    simp
  obtain ⟨hDrawn, -⟩ := drawing_goes_on hWord 0
  obtain ⟨hAsks, hResult, registers, hMachine, hFlagged⟩ := hDrawn hDraw hFits hUnaborted
  obtain ⟨-, hCleared⟩ := drawing_goes_on hBlanks 0
  obtain ⟨hClears, hGoesOn, hMoved⟩ := hCleared (by decide) (fun _ => nofun)
  refine ⟨m, blanks, ⟨0xD013⟩, ⟨hWord, hDraw, hFits, hAnswers, ?_, hResult, ?_⟩, hBlanks, rfl,
    hClears, hGoesOn, hMoved.toNat_pc⟩
  · rw [hAsks, hPixels]
    rfl
  · rw [hAnswers, if_pos (by simp)] at hFlagged
    rw [hMachine]
    exact hFlagged.flag

end Machine

end Chip8
