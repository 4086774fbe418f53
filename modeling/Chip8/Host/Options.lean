import Chip8.Notice
import Chip8.Ram.Layout

/-!
# Options of the command line

    PROGRAM [--memory BYTES] [--hz N] [--max-steps N] [--seed N]
            [--log-file PATH] [--log-level LEVEL]

The value of an option follows it or is joined to it by `=`. Each option may be given once, and
numbers have to fit the width of what they set.
-/

namespace Chip8

/-- What a command line can get wrong. -/
inductive UsageError where
  | missingProgram
  | unexpectedArgument (argument : String)
  | missingValue (option : String)
  | repeatedOption (option : String)
  | invalidValue (option value : String)
  deriving DecidableEq, Repr, Inhabited

namespace UsageError

/-- The wording of a usage error. -/
def message : UsageError → String
  | missingProgram => "no program given"
  | unexpectedArgument argument => s!"unexpected argument {Quoted.text argument}"
  | missingValue option => s!"{option} needs a value"
  | repeatedOption option => s!"{option} is given twice"
  | invalidValue option value => s!"invalid value {Quoted.text value} for {option}"

end UsageError

/-- How a program is to be run. -/
structure Options where
  program : String
  memory : Nat := Layout.defaultCapacity
  /-- Instructions each second. -/
  hz : Nat := 540
  maxSteps : Option Nat := none
  /-- The seed of the random stream; without one it differs from run to run. -/
  seed : Option UInt64 := none
  logFile : String := "chip8.log"
  logLevel : String := "info"
  deriving DecidableEq, Repr, Inhabited

namespace Options

/-- Reads a decimal number below `limit`, with or without a plus sign. -/
def number? (limit : Nat) (text : String) : Option Nat :=
  let digits := match text.toList with
    | '+' :: rest => rest
    | all => all
  if digits.isEmpty || !digits.all Char.isDigit then none
  else
    let n := digits.foldl (fun n c => 10 * n + (c.toNat - '0'.toNat)) 0
    if n < limit then some n else none

/-- One past the largest 64-bit number: `2 ^ 64`. -/
def limit64 : Nat := 0x10000000000000000

/-- One past the largest 32-bit number: `2 ^ 32`. -/
def limit32 : Nat := 0x100000000

/-- Sets the option called `name`. -/
def set (o : Options) (name value : String) : Except UsageError Options :=
  let number (limit : Nat) (write : Nat → Options) : Except UsageError Options :=
    match number? limit value with
    | some n => .ok (write n)
    | none => .error (.invalidValue name value)
  if name = "--memory" then number limit64 fun n => { o with memory := n }
  else if name = "--hz" then number limit32 fun n => { o with hz := n }
  else if name = "--max-steps" then number limit64 fun n => { o with maxSteps := some n }
  else if name = "--seed" then number limit64 fun n => { o with seed := some (UInt64.ofNat n) }
  else if name = "--log-file" then .ok { o with logFile := value }
  else if name = "--log-level" then .ok { o with logLevel := value }
  else .error (.unexpectedArgument name)

/-- Whether an argument is an option and no value. -/
def isOption (argument : String) : Bool :=
  match argument.toList with
  | '-' :: _ :: _ => true
  | _ => false

/-- Parts an argument of the form `--name=value`. -/
def split? (argument : String) : Option (String × String) :=
  let name := argument.toList.takeWhile (· != '=')
  match argument.toList.drop name.length with
  | '=' :: value => some (String.ofList name, String.ofList value)
  | _ => none

/-- Pairs each option with its value, and lists the other arguments. -/
def pair : List String → Except UsageError (List (String × String) × List String)
  | [] => .ok ([], [])
  | argument :: rest =>
    if !isOption argument then
      (pair rest).map fun (options, others) => (options, argument :: others)
    else match split? argument with
      | some option => (pair rest).map fun (options, others) => (option :: options, others)
      | none =>
        match rest with
        | [] => .error (.missingValue argument)
        | value :: rest =>
          if isOption value then .error (.missingValue argument)
          else (pair rest).map fun (options, others) => ((argument, value) :: options, others)

/-- Sets options one after the other, each at most once. -/
def setAll (o : Options) (seen : List String) : List (String × String) → Except UsageError Options
  | [] => .ok o
  | (name, value) :: rest =>
    if seen.contains name then .error (.repeatedOption name)
    else do setAll (← o.set name value) (name :: seen) rest

/-- Reads the arguments of a command line. -/
def parse (arguments : List String) : Except UsageError Options := do
  let (options, others) ← pair arguments
  match others with
  | [program] => setAll { program } [] options
  | [] => .error .missingProgram
  | _ :: extra :: _ => .error (.unexpectedArgument extra)

/-- Which notices go to the log, if the level has the name of one. -/
def verbosity? (o : Options) : Option Verbosity :=
  Verbosity.parse? o.logLevel

end Options

end Chip8
