import Mathlib.Tactic
import Chip8.Proofs.SessionStart

/-!
# The picture that a session leaves behind

The terminal shows the screen as it was when the current frame began: a picture is drawn at the end
of every frame and at no other time. A session that ends at the end of a frame leaves its screen on
the terminal. One that ends inside a frame leaves the screen of the beginning of that frame, so the
last picture is out of date if anything was drawn since.
-/

namespace Chip8

namespace Session

variable {s₀ s t : Session} {patience : Nat}

/-- `f` is the beginning of the current frame of `s`: no instruction of it is executed, and since
then each one that was has left one less to the frame. -/
structure Began (s₀ f s : Session) : Prop where
  reaches : s₀.Reaches f
  leads : f.Reaches s
  whole : f.left = f.perFrame
  perFrame : f.perFrame = s.perFrame
  steps : f.steps + s.perFrame = s.steps + s.left
  left_le : s.left ≤ s.perFrame

/-- The canvas of a session shows the screen as it was when the current frame began, unless the
terminal did not accept the drawing. -/
def Pictured (s₀ s : Session) : Prop :=
  ∃ f, Began s₀ f s ∧ s.canvas = f.canvas ∧ (f.canvas.LastAccepted → f.canvas.Shows f.screen)

/-- What the terminal accepts does not change. -/
theorem accepts_advance (hSound : s.Sound) (hGoing : s.advance patience = .going t) :
    t.canvas.Accepts = s.canvas.Accepts := by
  rcases going_cases hSound hGoing with ⟨left, notices, -, -, -, rfl⟩ | ⟨notices, -, -, -, rfl⟩
  · exact congrArg Canvas.Accepts (hSound.step patience).device.display
  · exact s.canvas.accepts_draw hSound.device.screen

theorem Pictured.advance (h : Pictured s₀ s) (hReaches : s₀.Reaches s) (hSound : s.Sound)
    (hGoing : s.advance patience = .going t) : Pictured s₀ t := by
  have hNext := hReaches.advance hGoing
  rcases going_cases hSound hGoing with ⟨left, notices, hLeft, -, -, rfl⟩ | ⟨notices, -, -, -, rfl⟩
  · obtain ⟨f, hBegan, hCanvas, hShows⟩ := h
    have hSteps := hBegan.steps
    have hLe := hBegan.left_le
    have hSame := (hSound.step patience).device.display
    refine ⟨f, ⟨hBegan.reaches, hBegan.leads.advance hGoing, hBegan.whole, hBegan.perFrame, ?_, ?_⟩,
      hSame.trans hCanvas, hShows⟩
    · simp only
      omega
    · simp only
      omega
  · exact ⟨_, ⟨hNext, .start, rfl, rfl, rfl, le_rfl⟩, rfl, Canvas.draw_shows hSound.device.screen⟩

theorem Pictured.of_start {o : Options} {e : Environment} (hStart : start o e = .ok s₀) :
    Pictured s₀ s₀ := by
  have hDevice := device_of_start hStart
  have hWhole : s₀.left = s₀.perFrame := by
    obtain ⟨program, notices, -, -, rfl⟩ := eq_of_start hStart
    rfl
  refine ⟨s₀, ⟨.start, .start, hWhole, rfl, by rw [hWhole], hWhole.le⟩, rfl, fun _ p => ?_⟩
  rw [canvas, screen, hDevice]
  exact iff_of_false List.not_mem_nil (Bitmap.not_litAt_standard p)

theorem Reaches.pictured {o : Options} {e : Environment} (hReaches : s₀.Reaches s)
    (hStart : Session.start o e = .ok s₀) :
    Pictured s₀ s ∧ s.canvas.Accepts = e.canvas.Accepts := by
  refine hReaches.induct
    (P := fun s => Pictured s₀ s ∧ s.canvas.Accepts = e.canvas.Accepts) (sound_of_start hStart)
    ⟨.of_start hStart, ?_⟩ ?_
  · rw [canvas, device_of_start hStart]
    rfl
  · rintro s t patience hReaches hSound ⟨hPictured, hAccepts⟩ hGoing
    exact ⟨hPictured.advance hReaches hSound hGoing,
      (accepts_advance hSound hGoing).trans hAccepts⟩

/-- What a session leaves on a terminal that accepts its last drawing, whatever became of those
before it. A session that ends at an instruction, because its program halts, at its limit or
otherwise, leaves the screen as it was when the frame began: the picture is that of its screen if
and only if the screen has not changed since. A session that ends at the end of a frame leaves its
screen. -/
theorem last_picture_is_of_frame_start {o : Options} {e : Environment} (hStart : start o e = .ok s₀)
    {result : Except Stop Unit} (hReaches : s₀.Reaches s)
    (hEnded : s.advance patience = .ended t result)
    (hLast : ∀ n, t.canvas.drawCalls = n + 1 → .draw ∉ e.canvasRefuses ∧ e.canvasLoses n = none) :
    (0 < s.left → ∃ f, Began s₀ f s ∧ t.canvas.Shows f.screen ∧
      (t.canvas.Shows t.screen ↔ t.screen = f.screen)) ∧
    (s.left = 0 → t.canvas.Shows t.screen) := by
  have hSound := hReaches.sound (sound_of_start hStart)
  obtain ⟨⟨f, hBegan, hCanvas, hShows⟩, hAccepts⟩ := hReaches.pictured hStart
  have hFrame := (hBegan.reaches.sound (sound_of_start hStart)).device.screen
  have hScreen : s.screen.Standard := hSound.device.screen
  have hStep := (hSound.step patience).device
  have hUnchanged (u : Session) (hMachine : u.machine = (s.machine.step patience).machine)
      (hLast : ∀ n, u.canvas.drawCalls = n + 1 → e.canvas.Accepts n) :
      ∃ f, Began s₀ f s ∧ u.canvas.Shows f.screen ∧
        (u.canvas.Shows u.screen ↔ u.screen = f.screen) := by
    have hSame : u.canvas = s.canvas := by
      rw [canvas, hMachine]
      exact hStep.display
    have hScreen : u.screen.Standard := by
      rw [screen, hMachine]
      exact hStep.screen
    have hPicture : u.canvas.Shows f.screen := by
      rw [hSame, ← hAccepts] at hLast
      rw [hSame, hCanvas]
      exact hShows (hCanvas ▸ hLast)
    exact ⟨f, hBegan, hPicture, hPicture.iff_eq hFrame hScreen⟩
  have hDrawn (hLast : ∀ n, (s.canvas.draw s.screen).state.drawCalls = n + 1 →
      e.canvas.Accepts n) : (s.canvas.draw s.screen).state.Shows s.screen := by
    refine Canvas.draw_shows hScreen fun n hn => ?_
    rw [s.canvas.accepts_draw hScreen, hAccepts]
    exact hLast n hn
  rcases ended_cases hSound hEnded with ⟨left, notices, hLeft, -, -, rfl, -⟩ |
    ⟨left, notices, hLeft, -, -, rfl, -⟩ | ⟨notices, hLeft, -, rfl, -⟩ |
    ⟨notices, error, hLeft, -, -, rfl, -⟩
  · exact ⟨fun _ => hUnchanged _ rfl hLast, fun hNone => by omega⟩
  · exact ⟨fun _ => hUnchanged _ rfl hLast, fun hNone => by omega⟩
  · exact ⟨fun hSome => by omega, fun _ => hDrawn hLast⟩
  · exact ⟨fun hSome => by omega, fun _ => hDrawn hLast⟩

/-- A session that draws a glyph and reaches its limit in the first frame. -/
theorem last_picture_is_of_frame_start_limit :
    ∃ (o : Options) (e : Environment) (s₀ s t f : Session),
      start o e = .ok s₀ ∧ s₀.Reaches s ∧ s.advance 0 = .ended t (.ok ()) ∧
      (∀ n, t.canvas.drawCalls = n + 1 → .draw ∉ e.canvasRefuses ∧ e.canvasLoses n = none) ∧
      .stepLimitReached 2 ∈ t.notices.toList ∧
      Began s₀ f s ∧ f.steps = 0 ∧ t.canvas.Shows f.screen := by
  let o : Options := { program := "glyph.ch8", maxSteps := some 2 }
  let e : Environment := { program := some [0xD0, 0x05, 0x12, 0x02] }
  have hRun : ((reached? o e 0 1).bind fun s => (s.ending? 0).map fun (t, result) =>
      (s.steps, s.left, s.perFrame, result.toOption,
        decide (.stepLimitReached 2 ∈ t.notices.toList))) = some (1, 8, 9, some (), true) := by
    decide +kernel
  obtain ⟨s, hReached, hRun⟩ := Option.bind_eq_some_iff.1 hRun
  obtain ⟨⟨t, result⟩, hEnding, hFields⟩ := Option.map_eq_some_iff.1 hRun
  obtain ⟨s₀, hStart, -, hReaches⟩ := exists_of_reached? hReached
  obtain ⟨hOnce, hLeft, hAll, hOk, hTold⟩ : s.steps = 1 ∧ s.left = 8 ∧ s.perFrame = 9 ∧
      result.toOption = some () ∧ .stepLimitReached 2 ∈ t.notices.toList := by
    simpa using hFields
  have hEnded := ended_of_ending? hEnding
  rw [eq_ok_of_toOption hOk] at hEnded
  have hLast (n : Nat) (_ : t.canvas.drawCalls = n + 1) :
      .draw ∉ e.canvasRefuses ∧ e.canvasLoses n = none := ⟨List.not_mem_nil, rfl⟩
  obtain ⟨hInside, -⟩ := last_picture_is_of_frame_start hStart hReaches hEnded hLast
  obtain ⟨f, hBegan, hShows, -⟩ := hInside (by omega)
  have hSteps := hBegan.steps
  exact ⟨o, e, s₀, s, t, f, hStart, hReaches, hEnded, hLast, hTold, hBegan, by omega, hShows⟩

/-- A program that draws a glyph and then halts leaves an empty terminal. -/
theorem last_picture_is_not_of_end :
    ∃ (o : Options) (e : Environment) (s₀ s t : Session),
      e.program = some [0xD0, 0x05] ∧ start o e = .ok s₀ ∧
      (e.canvasRefuses = [] ∧ ∀ n, e.canvasLoses n = none) ∧ s₀.Reaches s ∧
      s.advance 0 = .ended t (.ok ()) ∧ t.machine.state = .halted ∧
      t.canvas.scenes = #[] ∧ t.screen.get 0 0 = .ok true ∧ ¬ t.canvas.Shows t.screen := by
  let o : Options := { program := "glyph.ch8", seed := some 1 }
  let e : Environment := { program := some [0xD0, 0x05] }
  have hRun : ((reached? o e 0 1).bind fun s => (s.ending? 0).map fun (t, result) =>
      (result.toOption, decide (t.machine.state = .halted ∧ t.canvas.scenes = #[] ∧
        t.screen.width = 64 ∧ t.screen.height = 32), (t.screen.get 0 0).toOption)) =
      some (some (), true, some true) := by
    decide +kernel
  obtain ⟨s, hReached, hRun⟩ := Option.bind_eq_some_iff.1 hRun
  obtain ⟨⟨t, result⟩, hEnding, hFields⟩ := Option.map_eq_some_iff.1 hRun
  obtain ⟨s₀, hStart, -, hReaches⟩ := exists_of_reached? hReached
  obtain ⟨hOk, ⟨hHalted, hScenes, hWidth, hHeight⟩, hLit⟩ : result.toOption = some () ∧
      (t.machine.state = .halted ∧ t.canvas.scenes = #[] ∧ t.screen.width = 64 ∧
        t.screen.height = 32) ∧ (t.screen.get 0 0).toOption = some true := by
    simpa using hFields
  have hEnded := ended_of_ending? hEnding
  rw [eq_ok_of_toOption hOk] at hEnded
  have hGet := eq_ok_of_toOption hLit
  refine ⟨o, e, s₀, s, t, rfl, hStart, ⟨rfl, fun _ => rfl⟩, hReaches, hEnded, hHalted, hScenes,
    hGet, ?_⟩
  intro hShows
  have hShown : (0, 0) ∈ t.canvas.shown :=
    (hShows _).2 ⟨0, 0, by omega, by omega, hGet, rfl⟩
  rw [Canvas.shown, hScenes] at hShown
  cases hShown

end Session

end Chip8
