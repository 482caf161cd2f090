import Dialogue.Instant.Rfc3339
import Dialogue.Json.Text
import Dialogue.Snapshot.Basic

/-!
# Writing snapshots

A snapshot is written as a JSON object with one member on a line, indented by
two blanks for each level.  The variables stand in the order of their names.
-/

namespace Dialogue.Snapshot

/-- A member of an object on a line of its own, `level` levels deep. -/
def writeMember (level : Nat) (name : String) (value : List Char) : List Char :=
  List.replicate (2 * level) ' ' ++ Json.writeText name ++ [':', ' '] ++ value

/-- Members with the braces around them, the closing one `level` levels deep. -/
def writeObject (level : Nat) : List (List Char) → List Char
  | [] => ['\x7b', '\x7d']
  | members =>
    ['\x7b', '\n'] ++ [',', '\n'].intercalate members ++ ['\n'] ++ List.replicate (2 * level) ' ' ++
      ['\x7d']

/-- Variables as an object. -/
def writeVariables (vars : Bindings) : List Char :=
  writeObject 1 (vars.entries.map fun (name, value) =>
    writeMember 2 name (Json.writeText value))

/-- A snapshot as an object. -/
def writeChars (s : Snapshot) : List Char :=
  writeObject 0 [
    writeMember 1 "previous_answer" (Json.writeText s.previousAnswer),
    writeMember 1 "variables" (writeVariables s.vars),
    writeMember 1 "saved_at" (Json.writeText s.savedAt.write)]

/-- The text of a snapshot. -/
def write (s : Snapshot) : String := String.ofList s.writeChars

end Dialogue.Snapshot
