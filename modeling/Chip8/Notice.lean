import Chip8.Fault
import Chip8.Text.Quoted
import Chip8.Word

/-!
# Notices

Things worth telling that are no answers: what the machine executes, what it ignores, which failures
it survived. Every notice has a `Level` and one line of text; a reader picks a level and sees the
notices that are at least as grave.
-/

namespace Chip8

/-- How grave a notice is. -/
inductive Level where
  | error
  | warn
  | info
  | debug
  | trace
  deriving DecidableEq, Repr, Inhabited

namespace Level

/-- All levels, the gravest first. -/
def all : List Level := [.error, .warn, .info, .debug, .trace]

/-- Position in the order of gravity. -/
def rank : Level → Nat
  | error => 1
  | warn => 2
  | info => 3
  | debug => 4
  | trace => 5

/-- The name of a level in upper case. -/
def name : Level → String
  | error => "ERROR"
  | warn => "WARN"
  | info => "INFO"
  | debug => "DEBUG"
  | trace => "TRACE"

end Level

/-- The largest level that is let through; `none` lets nothing through. -/
abbrev Verbosity := Option Level

namespace Verbosity

/-- Whether notices of `level` are let through. -/
def admits (v : Verbosity) (level : Level) : Bool :=
  match v with
  | none => false
  | some limit => level.rank ≤ limit.rank

/-- Reads `off` or the name of a level, in any mixture of ASCII cases. -/
def parse? (s : String) : Option Verbosity :=
  let upper := String.ofList (s.toList.map Char.toUpper)
  if upper = "OFF" then some none
  else (Level.all.find? (·.name = upper)).map some

end Verbosity

/-- Something worth telling. -/
inductive Notice where
  | initialised (capacity : Nat)
  | reset
  | loaded (length programEnd : Nat)
  | pastEnd (pc : UInt16)
  | executing (pc : UInt16) (word : Word) (mnemonic : String)
  | unknownInstruction (word : Word) (pc : UInt16)
  | ignoredSystemCall (address : UInt16)
  | clearFailed (error : IoError)
  | spriteFailed (x y : Nat) (error : IoError)
  | waitingForKey (key : UInt8)
  | unmappedKey (key : Char)
  | terminalNotRestored (error : IoError)
  | finished (steps : Nat)
  | stepLimitReached (steps : Nat)
  | stopped (steps : Nat) (cause : Fault)
  | refreshFailed (error : IoError)
  deriving DecidableEq, Repr, Inhabited

namespace Notice

/-- How grave a notice is. -/
def level : Notice → Level
  | initialised .. => .info
  | reset => .debug
  | loaded .. => .debug
  | pastEnd .. => .debug
  | executing .. => .trace
  | unknownInstruction .. => .warn
  | ignoredSystemCall .. => .warn
  | clearFailed .. => .warn
  | spriteFailed .. => .warn
  | waitingForKey .. => .debug
  | unmappedKey .. => .warn
  | terminalNotRestored .. => .error
  | finished .. => .info
  | stepLimitReached .. => .info
  | stopped .. => .error
  | refreshFailed .. => .warn

/-- The wording of a notice. -/
def message : Notice → String
  | initialised capacity => s!"Chip8 initialised! Memory capacity: {capacity}B"
  | reset => "reset"
  | loaded length programEnd =>
    s!"loaded {length} byte program, ends at {Hex.upper 4 programEnd}"
  | pastEnd pc => s!"PC {Hex.upper 4 pc.toNat} is past the end of the program, halting"
  | executing pc word mnemonic => s!"{Hex.upper 4 pc.toNat}: {word.text}  {mnemonic}"
  | unknownInstruction word pc =>
    s!"unknown instruction {word.text} at {Hex.upper 4 pc.toNat}, skipping"
  | ignoredSystemCall address => s!"ignoring SYS {Hex.upper 3 address.toNat}"
  | clearFailed error => s!"failed to clear the screen: {error.text}"
  | spriteFailed x y error => s!"failed to draw sprite at ({x}, {y}): {error.text}"
  | waitingForKey key => s!"waiting for key {Hex.upper 1 key.toNat}"
  | unmappedKey key => s!"can't map {Quoted.character key} to a COSMAC key"
  | terminalNotRestored error => s!"couldn't restore terminal: {error.text}"
  | finished steps => s!"program finished after {steps} instructions"
  | stepLimitReached steps => s!"stopping after {steps} instructions"
  | stopped steps cause => s!"stopped at instruction {steps}: {cause.message}"
  | refreshFailed error => s!"failed to refresh the display: {error.text}"

/-- A notice as a line of a log. -/
def line (n : Notice) : String :=
  n.level.name ++ " " ++ n.message

end Notice

end Chip8
