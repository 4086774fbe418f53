import Mathlib.Tactic
import Chip8.Device.Keypad
import Chip8.Proofs.KeyWaits
import Chip8.Proofs.Torus

/-!
# Devices that do not abort

A device is safe for a set of its states if no question leads out of the set or to an abort. Drawing
a sprite and waiting for a key ask many questions; on a safe device they do not abort either. A
board is safe as long as its bitmap has room for all its pixels and its keys never abort.
-/

namespace Chip8

/-- A reply that stays in `P` and is no abort. -/
def Reply.Safe {σ α : Type} (P : σ → Prop) (r : Reply σ α) : Prop :=
  P r.state ∧ ∀ cause, r.answer ≠ .aborted cause

/-- No question leads from a state in `P` out of `P` or to an abort. -/
structure Device.Safe {σ : Type} [Device σ] (P : σ → Prop) : Prop where
  clear : ∀ d, P d → (Device.clear d).Safe P
  toggle : ∀ d x y, P d → (Device.toggle d x y).Safe P
  pressed : ∀ d key, P d → (Device.pressed d key).Safe P

/-- In any state in `P` a wait for one of the sixteen keys is decided at some question. -/
def Device.Answers {σ : Type} [Device σ] (P : σ → Prop) : Prop :=
  ∀ d, P d → ∀ key : UInt8, key.toNat < 16 → ∃ n, Device.Decides key n d

theorem Sprite.place_of_lt {x y : Nat} {cell : Nat × Nat} (hx : x + cell.1 < Checked.sizeLimit)
    (hy : y + cell.2 < Checked.sizeLimit) : place x y cell = .ok (x + cell.1, y + cell.2) := by
  rw [place, Checked.addSize_of_lt hx, Checked.addSize_of_lt hy]
  rfl

namespace Device.Safe

variable {σ : Type} [Device σ] {P : σ → Prop}

theorem afterQueries (h : Device.Safe P) (key : UInt8) (n : Nat) {d : σ} (hd : P d) :
    P (Device.afterQueries key n d) := by
  induction n generalizing d with
  | zero => exact hd
  | succ n ih => exact ih (h.pressed d key hd).1

theorem answerAt (h : Device.Safe P) (key : UInt8) (n : Nat) {d : σ} (hd : P d) (cause : Abort) :
    Device.answerAt key n d ≠ .aborted cause :=
  (h.pressed _ key (h.afterQueries key n hd)).2 cause

/-- Drawing does not abort as long as the coordinates can be counted. -/
theorem paint (h : Device.Safe P) {x y : Nat} (cells : List (Nat × Nat))
    (hCells : ∀ cell ∈ cells, x + cell.1 < Checked.sizeLimit ∧ y + cell.2 < Checked.sizeLimit)
    {p : Painting σ} (hp : P p.device) :
    P (Painting.paint x y p cells).1.device ∧ (Painting.paint x y p cells).2 = .ok () := by
  induction cells generalizing p with
  | nil => exact ⟨hp, rfl⟩
  | cons cell rest ih =>
      obtain ⟨hx, hy⟩ := hCells cell List.mem_cons_self
      have hRest := fun c hc => hCells c (List.mem_cons_of_mem cell hc)
      obtain ⟨hState, hAborted⟩ := h.toggle p.device (x + cell.1) (y + cell.2) hp
      simp only [Painting.paint, Sprite.place_of_lt hx hy]
      cases hAnswer : (Device.toggle p.device (x + cell.1) (y + cell.2)).answer with
      | value wasLit => exact ih hRest hState
      | failed error => exact ih hRest hState
      | aborted cause => exact absurd hAnswer (hAborted cause)

end Device.Safe

namespace KeySource

variable {κ : Type} [KeySource κ]

/-- The keys after questions about the given keys. -/
def afterQuestions (keys : κ) (asked : List UInt8) : κ :=
  asked.foldl (fun k key => (pressed k key).state) keys

/-- Whatever is asked, the keys do not abort. -/
def NeverAborts (keys : κ) : Prop :=
  ∀ asked key cause, (pressed (afterQuestions keys asked) key).answer ≠ .aborted cause

/-- Whatever was asked before, asking about one key again and again is answered by something else
than no in the end. -/
def AlwaysAnswers (keys : κ) : Prop :=
  ∀ asked key, key.toNat < 16 →
    ∃ n, (pressed (afterQuestions keys (asked ++ List.replicate n key)) key).answer ≠ .value false

theorem afterQuestions_append (keys : κ) (first second : List UInt8) :
    afterQuestions keys (first ++ second) = afterQuestions (afterQuestions keys first) second :=
  List.foldl_append

end KeySource

namespace Keypad

/-- Questions do not change the keys of a keypad. -/
theorem afterQuestions_eq (k : Keypad) (asked : List UInt8) :
    KeySource.afterQuestions k asked = k := by
  induction asked with
  | nil => rfl
  | cons key rest ih => exact ih

theorem neverAborts (k : Keypad) : KeySource.NeverAborts k := by
  intro asked key cause hAborted
  rw [k.afterQuestions_eq] at hAborted
  cases hAborted

/-- A keypad on which all sixteen keys are down always answers. -/
theorem alwaysAnswers {k : Keypad}
    (hHeld : ∀ key : UInt8, key.toNat < 16 → k.isPressed key = true) :
    KeySource.AlwaysAnswers k := by
  intro asked key hKey
  refine ⟨0, ?_⟩
  rw [k.afterQuestions_eq]
  change Answer.value (k.isPressed key) ≠ _
  rw [hHeld key hKey]
  exact fun h => nomatch h

end Keypad

namespace Board

variable {δ κ : Type} [KeySource κ]

/-- A board with a whole bitmap whose keys come from `keys` by questions. -/
structure From (keys : κ) (b : Board δ κ) : Prop where
  screen : b.screen.Whole
  keys : ∃ asked, b.keys = KeySource.afterQuestions keys asked

theorem from_ofParts (display : δ) (keys : κ) : (ofParts display keys).From keys where
  screen := Bitmap.whole_standard
  keys := ⟨[], rfl⟩

theorem toggle_of_whole {b : Board δ κ} (h : b.screen.Whole) (x y : Nat) :
    Device.toggle b x y =
      .value { b with screen := b.screen.flip (b.screen.index x y) }
        (b.screen.isLit (b.screen.index x y)) := by
  change Board.toggle b x y = _
  rw [Board.toggle, h.toggle_eq]

/-- A board with keys that never abort is safe. -/
theorem safe {keys : κ} (hKeys : KeySource.NeverAborts keys) :
    Device.Safe (From keys : Board δ κ → Prop) where
  clear b hb := by
    exact ⟨⟨hb.screen.congr rfl rfl, hb.keys⟩, fun _ h => nomatch h⟩
  toggle b x y hb := by
    rw [toggle_of_whole hb.screen]
    exact ⟨⟨hb.screen.congr rfl rfl, hb.keys⟩, fun _ h => nomatch h⟩
  pressed b key hb := by
    obtain ⟨asked, hAsked⟩ := hb.keys
    refine ⟨⟨hb.screen, asked ++ [key], ?_⟩, ?_⟩
    · change (KeySource.pressed b.keys key).state = _
      rw [KeySource.afterQuestions_append, ← hAsked]
      rfl
    · intro cause
      change (KeySource.pressed b.keys key).answer ≠ _
      rw [hAsked]
      exact hKeys asked key cause

/-- Questions to a board about a key are questions to its keys. -/
theorem keys_afterQueries (b : Board δ κ) (key : UInt8) (n : Nat) :
    (Device.afterQueries key n b).keys =
      KeySource.afterQuestions b.keys (List.replicate n key) := by
  induction n generalizing b with
  | zero => rfl
  | succ n ih => exact ih _

/-- With keys that always answer, a board answers every wait. -/
theorem answers {keys : κ} (hAnswers : KeySource.AlwaysAnswers keys) :
    Device.Answers (From keys : Board δ κ → Prop) := by
  intro b hb key hKey
  obtain ⟨asked, hAsked⟩ := hb.keys
  obtain ⟨n, hSpeaks⟩ := hAnswers asked key hKey
  rcases Device.decides_or_silent key (n + 1) b with ⟨k, -, hDecides⟩ | hSilent
  · exact ⟨k, hDecides⟩
  · have hLast : (KeySource.pressed (Device.afterQueries key n b).keys key).answer = .value false :=
      hSilent n (Nat.lt_succ_self n)
    rw [keys_afterQueries, hAsked, ← KeySource.afterQuestions_append] at hLast
    exact absurd hLast hSpeaks

end Board

end Chip8
