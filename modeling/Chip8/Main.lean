import Chip8.Host.Session

/-!
# The command line

Runs a program file on a terminal. Keys are typed in lines: what is typed before Enter arrives as
one batch, and an Escape character in it asks to quit. Each picture is printed in the place of the
one before it; notices go to the log file.
-/

namespace Chip8.CommandLine

/-- What a line of input reports. -/
def eventsOfLine (line : String) : List KeyEvent :=
  (line.toList.filter (fun c => c != '\n' && c != '\r')).map fun c =>
    if c.toNat = 0x1B then .escape else .character c

/-- Moves the cursor to the upper left corner. -/
def home : String := "\x1b[H"

/-- The text of a picture that replaces the one before it. -/
def pictureText (s : Scene) : String :=
  home ++ "\n".intercalate s.render

/-- What is told about a session that failed. -/
def failureText : SessionError → String
  | .badLogLevel text => SessionError.badLogLevelMessage text
  | .stopped (.fault fault) => fault.message
  | .stopped (.abort _) => "a bound of the program was broken"
  | .stopped .unanswered => "a key was waited for in vain"

/-- Hands the lines of input on until there are no more. -/
partial def readKeys (input : IO.FS.Stream) (typed : IO.Ref (List (List KeyEvent))) : IO Unit := do
  let line ← input.getLine
  if !line.isEmpty then
    typed.modify (· ++ [eventsOfLine line])
    readKeys input typed

/-- Writes the notices that the log lets through. -/
def writeLog (log : IO.FS.Handle) (v : Verbosity) (notices : Array Notice) : IO Unit := do
  for n in notices do
    if v.admits n.level then log.putStrLn n.line

/-- Plays a session to its end, with a sleep after every frame and every question about a key. -/
partial def play (log : IO.FS.Handle) (v : Verbosity) (typed : IO.Ref (List (List KeyEvent)))
    (s : Session) : IO Report := do
  let pause (s : Session) : IO Report := do
    IO.sleep 16
    play log v typed (s.receive (← typed.swap []))
  match s.advance 1 with
  | .ended s result => return s.finish result
  | .waiting s => pause s
  | .going next =>
    if s.left = 0 then
      let (scenes, notices, next) := next.collect
      for scene in scenes do
        IO.println (pictureText scene)
      writeLog log v notices
      pause next
    else play log v typed next

/-- Writes what is left to write and answers the exit code. -/
def conclude (r : Report) : IO UInt32 := do
  for _ in [0:r.trailingLines] do
    IO.println ""
  match r.result with
  | .ok () => return 0
  | .error error =>
    IO.eprintln s!"Error: {failureText error}"
    return 1

/-- Sixty-four random bits of the system. -/
def randomBits : IO UInt64 := do
  let bytes ← IO.getRandomBytes 8
  return bytes.foldl (fun bits byte => (bits <<< 8) ||| byte.toUInt64) 0

/-- Runs the program that the options name. -/
def runProgram (o : Options) (v : Verbosity) : IO UInt32 := do
  let log ← IO.FS.Handle.mk o.logFile .write
  let program ←
    try
      let bytes ← IO.FS.readBinFile o.program
      pure (some bytes.toList)
    catch _ => pure none
  let entropy : RandomStream := ⟨← randomBits, ← randomBits, ← randomBits, ← randomBits⟩
  let report ← match Session.start o { program, entropy } with
    | .error report => pure report
    | .ok s =>
      let typed ← IO.mkRef ([] : List (List KeyEvent))
      let _ ← IO.asTask (readKeys (← IO.getStdin) typed) .dedicated
      play log v typed s
  writeLog log v report.notices
  conclude report

end Chip8.CommandLine

open Chip8 in
def main (arguments : List String) : IO UInt32 := do
  match Options.parse arguments with
  | .error error =>
    IO.eprintln s!"Error: {error.message}"
    return 2
  | .ok o =>
    match o.verbosity? with
    | none => CommandLine.conclude { result := .error (.badLogLevel o.logLevel) }
    | some v => CommandLine.runProgram o v
