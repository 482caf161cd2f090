import Dialogue.Failure
import Dialogue.Folder

/-!
# Routines

A run acts on a world: it writes to the two output streams, and it can change
files.  It may fail at any time, and then the world stays as the run has left it.

Main results:

- `RunFailure.exitCode_ne_zero`: no run that fails has the exit code of a success.
- `Routine.run_save`: a file is written, or left alone.
-/

namespace Dialogue.CommandLine

/-! ## Failures -/

/-- Why a run fails. -/
inductive RunFailure where
  | failure (cause : Failure)
  /-- The questions cannot be read. -/
  | unreadableInput (cause : FileFault)
  | noSources
  /-- An escape in an environment variable splits a character. -/
  | splitCharacter
  deriving DecidableEq, Repr

namespace RunFailure

/-- The code of a failure, if it has one. -/
def code : RunFailure → Option String
  | failure cause => some cause.code
  | unreadableInput _ => some "INPUT_ERROR"
  | noSources => some "NO_SOURCES"
  | splitCharacter => none

/-- The wording of a failure, if it has one. -/
def message : RunFailure → Option String
  | failure cause => cause.message
  | unreadableInput cause => some ("failed to read input: " ++ cause.message)
  | noSources => some "no rule sources given; pass --file or list `sources` in aimlite.toml"
  | splitCharacter => some "an escape in an environment variable splits a character"

/-- The line that reports a failure. -/
def line (f : RunFailure) : String :=
  ": ".intercalate ((f.code.map fun code => "error[" ++ code ++ "]").toList ++ f.message.toList)

/-- The exit code of a run that fails. -/
def exitCode : RunFailure → Nat
  | failure .configuration => 2
  | noSources => 2
  | failure _ => 1
  | unreadableInput _ => 1
  | splitCharacter => 101

/-- No run that fails has the exit code of a success. -/
theorem exitCode_ne_zero (f : RunFailure) : f.exitCode ≠ 0 := by
  cases f with
  | failure cause => cases cause <;> simp [exitCode]
  | unreadableInput => simp [exitCode]
  | noSources => simp [exitCode]
  | splitCharacter => simp [exitCode]

end RunFailure

/-! ## Output -/

/-- What is written to the two output streams. -/
structure Output where
  stdout : String := ""
  stderr : String := ""
  deriving DecidableEq, Repr

namespace Output

/-- One output after another. -/
def append (a b : Output) : Output := ⟨a.stdout ++ b.stdout, a.stderr ++ b.stderr⟩

/-- Lines as they are written. -/
def linesText (lines : List String) : String := String.join (lines.map (· ++ "\n"))

/-- Lines on the standard output. -/
def ofLines (lines : List String) : Output := ⟨linesText lines, ""⟩

/-- A line on the standard error stream. -/
def ofError (line : String) : Output := ⟨"", linesText [line]⟩

/-- Nothing is written after an output. -/
@[simp] theorem append_empty (a : Output) : a.append {} = a := by
  rw [append, String.append_empty, String.append_empty]

/-- Outputs can be regrouped. -/
theorem append_assoc (a b c : Output) : (a.append b).append c = a.append (b.append c) := by
  simp only [append, String.append_assoc]

end Output

/-! ## Routines -/

/-- What a run acts on. -/
structure World where
  folder : Folder
  /-- What has been written. -/
  output : Output := {}

/-- The world after something more has been written. -/
def World.write (world : World) (output : Output) : World :=
  { world with output := world.output.append output }

/-- Nothing has been written. -/
@[simp] theorem World.write_empty (world : World) : world.write {} = world := by
  rw [write, Output.append_empty]

/-- One output is written after another. -/
theorem World.write_write (world : World) (a b : Output) :
    (world.write a).write b = world.write (a.append b) := by
  simp only [write, Output.append_assoc]

/-- Something that a run does, and that may fail.  What it has done to the world until
then stays done. -/
abbrev Routine := EStateM RunFailure World

namespace Routine

/-- Writes to the output streams. -/
def write (output : Output) : Routine Unit := modify (·.write output)

/-- Writes a text to a file. -/
def save (name content : String) : Routine Unit := do
  match (← get).folder.save name content with
  | .ok folder => modify ({ · with folder := folder })
  | .error fault => throw (.failure (.snapshot ⟨name, .file fault⟩))

variable {α : Type}

/-- The world is looked at. -/
theorem run_get_bind (next : World → Routine α) (world : World) :
    ((get : Routine World) >>= next).run world = (next world).run world := rfl

/-- Something is written. -/
@[simp] theorem run_write (output : Output) (world : World) :
    (write output).run world = .ok () (world.write output) := rfl

/-- A file is written, or left alone. -/
theorem run_save (name content : String) (world : World) :
    (save name content).run world =
      match world.folder.save name content with
      | .ok folder => .ok () { world with folder := folder }
      | .error fault => .error (.failure (.snapshot ⟨name, .file fault⟩)) world := by
  rw [save, run_get_bind]
  cases world.folder.save name content with
  | ok folder => rfl
  | error fault => rfl

/-- A result that is known leaves the world alone. -/
theorem run_ofExcept (result : Except RunFailure α) (world : World) :
    (ofExcept result : Routine α).run world =
      match result with
      | .ok a => .ok a world
      | .error failure => .error failure world := by
  cases result with
  | ok a => rfl
  | error failure => rfl

end Routine

end Dialogue.CommandLine
