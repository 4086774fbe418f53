import Mathlib.Tactic
import Chip8.Machine.Execute
import Chip8.Proofs.Starting

/-!
# Loads change everything or nothing

A program that fits is copied and the machine starts over, whatever state it was in; a program that
does not fit changes nothing. It makes no difference in which pieces a source hands the program out,
and a source that fails halfway changes nothing either.
-/

namespace Chip8

/-- The bytes that an attempt to read gives. -/
def ReadAttempt.data : ReadAttempt → List UInt8
  | .bytes data => data
  | .interrupted => []

namespace ByteSource

/-- The attempts hand out the bytes `data` in pieces, with any number of interruptions. None of them
is the end of a source. -/
def HandOut (attempts : List ReadAttempt) (data : List UInt8) : Prop :=
  .bytes [] ∉ attempts ∧ attempts.flatMap ReadAttempt.data = data

/-- Attempts that go on give their bytes first, then what the rest of the source comes to. -/
theorem readAll_append (failure : Option IoError) {attempts : List ReadAttempt} {data : List UInt8}
    (h : HandOut attempts data) (rest : List ReadAttempt) :
    readAll failure (attempts ++ rest) = (readAll failure rest).map (data ++ ·) := by
  obtain ⟨hGoesOn, rfl⟩ := h
  induction attempts with
  | nil =>
      rw [List.nil_append]
      cases readAll failure rest with
      | error error => rfl
      | ok bytes => rfl
  | cons attempt later ih =>
      obtain ⟨hFirst, hLater⟩ := not_or.1 (mt List.mem_cons.2 hGoesOn)
      have hRest := ih hLater
      cases attempt with
      | interrupted => exact hRest
      | bytes piece =>
          cases piece with
          | nil => exact absurd rfl hFirst
          | cons b bs =>
              rw [List.cons_append, readAll, hRest]
              cases readAll failure rest with
              | error error => rfl
              | ok bytes =>
                  simp only [Except.map, List.flatMap_cons, ReadAttempt.data, List.append_assoc]

/-- A source without a failure gives the bytes that it hands out. -/
theorem contents_of_handOut {attempts : List ReadAttempt} {data : List UInt8}
    (h : HandOut attempts data) : contents { attempts } = .ok data := by
  have hAll := readAll_append none h []
  rw [List.append_nil] at hAll
  rw [contents, hAll]
  change Except.ok (data ++ []) = _
  rw [List.append_nil]

/-- Nothing is read after the end of a source. -/
theorem contents_of_end {attempts : List ReadAttempt} {data : List UInt8}
    (h : HandOut attempts data) (later : List ReadAttempt) (failure : Option IoError) :
    contents { attempts := attempts ++ .bytes [] :: later, failure } = .ok data := by
  rw [contents, readAll_append failure h]
  change Except.ok (data ++ []) = _
  rw [List.append_nil]

/-- The bytes before a failure are lost. -/
theorem contents_of_failure {attempts : List ReadAttempt} (h : .bytes [] ∉ attempts)
    (error : IoError) : contents { attempts, failure := some error } = .error error := by
  have hAll := readAll_append (some error) ⟨h, rfl⟩ []
  rw [List.append_nil] at hAll
  rw [contents, hAll]
  rfl

end ByteSource

namespace Machine

variable {σ : Type}

/-- A load that succeeds writes the program, and nothing else, into memory, and starts the machine
over; it succeeds exactly when the program fits, and otherwise changes nothing. A source that hands
the program out in pieces, whether interrupted or not, is as good as the program itself; one that
fails changes nothing. -/
theorem load_all_or_nothing (m : Machine σ) (program : List UInt8) :
    ((m.load program).result = .ok () ↔ 0x200 + program.length ≤ m.ram.capacity) ∧
    (0x200 + program.length ≤ m.ram.capacity →
      ∃ ram, (m.load program).machine =
          { m with
            ram
            registers := { Registers.initial with programEnd := 0x200 + program.length }
            depth := 0
            state := .running } ∧
        ram.capacity = m.ram.capacity ∧
        ∀ a, ram.cell a =
          if 0x200 ≤ a ∧ a < 0x200 + program.length then program.getD (a - 0x200) 0
          else m.ram.cell a) ∧
    (m.ram.capacity < 0x200 + program.length →
      m.load program =
        m.stop (.fault (.insufficientMemory (0x200 + program.length) m.ram.capacity))) ∧
    (∀ attempts, ByteSource.HandOut attempts program →
      m.loadFrom { attempts } = m.load program ∧
      ∀ later failure,
        m.loadFrom { attempts := attempts ++ .bytes [] :: later, failure } = m.load program) ∧
    (∀ attempts error, .bytes [] ∉ attempts → error.kind ≠ .interrupted →
      m.loadFrom { attempts, failure := some error } = m.stop (.fault (.device error))) := by
  refine ⟨?_, ?_, ?_, ?_, ?_⟩
  · rcases m.load_cases program with ⟨hLarge, hLoad⟩ | ⟨hFits, -, hResult⟩
    · rw [hLoad]
      exact iff_of_false (fun h => nomatch h) (Nat.not_le.2 hLarge)
    · exact iff_of_true hResult hFits
  · intro hFits
    rcases m.load_cases program with ⟨hLarge, -⟩ | ⟨-, hMachine, -⟩
    · exact absurd hFits (Nat.not_le.2 hLarge)
    · exact ⟨_, hMachine, Ram.capacity_store _ _ _, Ram.cell_store _ hFits⟩
  · intro hLarge
    rcases m.load_cases program with ⟨-, hLoad⟩ | ⟨hFits, -⟩
    · exact hLoad
    · exact absurd hLarge (Nat.not_lt.2 hFits)
  · intro attempts hHandOut
    constructor
    · rw [loadFrom, ByteSource.contents_of_handOut hHandOut]
    · intro later failure
      rw [loadFrom, ByteSource.contents_of_end hHandOut]
  · intro attempts error hGoesOn _
    rw [loadFrom, ByteSource.contents_of_failure hGoesOn]
    rfl

end Machine

end Chip8
