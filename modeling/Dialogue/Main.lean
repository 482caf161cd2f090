import Dialogue.CommandLine.Run
import Dialogue.Instant.Epoch
import Std.Time.DateTime.Timestamp

/-!
# The command

The outer layer of the command line: it reads files, variables, the clock and the
standard input, and writes what the console answers.
-/

namespace Dialogue.Main

open CommandLine

/-- What is found under the name of a file. -/
def content (name : String) : IO FileContent := do
  try
    match String.fromUTF8? (← IO.FS.readBinFile name) with
    | some text => return .text text
    | none => return .notText
  catch _ => return .absent

/-- What is found under the name of a file here or in one of the folders above, up
to a number of levels. -/
def contentAbove (name : String) : (levels : Nat) → IO FileContent
  | 0 => content name
  | levels + 1 => do
    match ← content name with
    | .absent => if name.startsWith "/" then return .absent else contentAbove ("../" ++ name) levels
    | found => return found

/-- The environment variables. -/
def environment : IO (List (String × String)) := do
  match ← content "/proc/self/environ" with
  | .text text =>
    return (text.splitOn "\x00").filterMap fun assignment =>
      match assignment.splitOn "=" with
      | name :: value :: values => some (name, "=".intercalate (value :: values))
      | _ => none
  | _ => return []

/-- The present instant. -/
def now : IO Instant := do
  let nanos := (← Std.Time.Timestamp.now).toNanosecondsSinceUnixEpoch
  match Instant.ofEpoch? nanos.val with
  | some instant => return instant
  | none => return ⟨⟨1970, 1, 1, by decide⟩, 0, 0, by decide⟩

/-- Eight random bytes as a number. -/
def entropy : IO Nat := do
  return (← IO.getRandomBytes 8).toList.foldl (fun n byte => n * 256 + byte.toNat) 0

/-- Writes to the two output streams. -/
def write (output : Output) : IO Unit := do
  let stdout ← IO.getStdout
  stdout.putStr output.stdout
  stdout.flush
  (← IO.getStderr).putStr output.stderr

/-- Reports a failure; its exit code is the result. -/
def fail (failure : RunFailure) : IO UInt32 := do
  write (.ofError failure.line)
  return UInt32.ofNat failure.exitCode

/-- The outer layer of a run, with the files that have been found. -/
abbrev Shell := StateT Folder IO

/-- Does what a routine does, and writes its output. -/
def perform {α : Type} (routine : Routine α) : Shell (Except RunFailure α) := do
  match routine.run { folder := ← get } with
  | .ok a world =>
    set world.folder
    write world.output
    return .ok a
  | .error failure world =>
    set world.folder
    write world.output
    return .error failure

/-- Answers a question and writes the answer. -/
def turn (console : Console) (question : String) : Shell (Except RunFailure Console) := do
  let start ← IO.monoNanosNow
  match ← perform (console.ask question) with
  | .error failure => return .error failure
  | .ok (answer, console) =>
    write (console.report answer ((← IO.monoNanosNow) - start))
    return .ok console

/-- Answers the lines of the standard input that are not blank. -/
partial def turns (isInteractive : Bool) (console : Console) :
    Shell (Except RunFailure Console) := do
  if isInteractive then write ⟨"> ", ""⟩
  let line ← try some <$> (← IO.getStdin).getLine catch _ => pure none
  match line with
  | none => return .error (.unreadableInput .notText)
  | some "" => return .ok console
  | some line =>
    match questions {} line with
    | question :: _ =>
      match ← turn console question with
      | .ok console => turns isInteractive console
      | .error failure => return .error failure
    | [] => turns isInteractive console

/-- Writes the session file of a run that has succeeded. -/
def save (console : Console) : Shell UInt32 := do
  match console.settings.session with
  | none => return 0
  | some name =>
    try
      if let .text text := (← get).files name then IO.FS.writeFile name text
      return 0
    catch _ => fail (.failure (.snapshot ⟨name, .file .absent⟩))

/-- Answers the questions of a run whose console has been started. -/
def converse (flags : Flags) (console : Console) : Shell UInt32 := do
  let result ←
    if flags.input.isEmpty then do turns (← (← IO.getStdin).isTty) console
    else turn console (" ".intercalate flags.input)
  match result with
  | .error failure => fail failure
  | .ok console =>
    match ← perform (console.close (← now)) with
    | .error failure => fail failure
    | .ok () => save console

/-- Loads the settings of a run and answers its questions. -/
def answer (flags : Flags) : IO UInt32 := do
  let config ← contentAbove (configFile flags) 64
  match settings (fun _ => config) (← environment) flags with
  | .error failure => fail failure
  | .ok settings =>
    let names := settings.sources ++ settings.session.toList
    let files ← names.mapM fun name => return (name, ← content name)
    let isTerminal ← (← IO.getStdout).isTty
    let start := Console.start settings flags.isVerbose (isColored flags isTerminal) (← entropy)
    let shell : Shell UInt32 := do
      match ← perform start with
      | .error failure => fail failure
      | .ok console => converse flags console
    shell.run' (Folder.putAll { hasFolders := true } files)

end Dialogue.Main

/-- The command. -/
def main (arguments : List String) : IO UInt32 := do
  match Dialogue.CommandLine.read arguments with
  | .ok flags => Dialogue.Main.answer flags
  | .error stop =>
    let finished := Dialogue.CommandLine.Finished.ofStop {} stop
    Dialogue.Main.write finished.output
    return UInt32.ofNat finished.exitCode
