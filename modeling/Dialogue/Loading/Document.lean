import Dialogue.Category.OfMarkup
import Dialogue.Folder

/-!
# Documents

The categories of a document, or the reason why it has none.

Main results:

- `categoriesOfFile_text`: a readable document is parsed.
-/

namespace Dialogue

/-! ## Rule sources -/

/-- Why a rule source is not loaded. -/
inductive LoadFailure where
  | unreadable (name : String) (cause : FileFault)
  | malformed (cause : Markup.Error)
  deriving DecidableEq, Repr

/-- The wording of the reason why a rule source is not loaded. -/
def LoadFailure.message : LoadFailure → String
  | unreadable name cause => "Failed to read rule source '" ++ name ++ "': " ++ cause.message
  | malformed cause => "Malformed rule source: " ++ cause.message

/-- What a document comes to when it is loaded. -/
abbrev Parsed := Except LoadFailure (List Category)

/-- The categories of a document given as a text. -/
def categoriesOfText (text : String) : Parsed := (parseCategories text).mapError .malformed

/-- The categories of a document in a file. -/
def categoriesOfFile (files : Files) (name : String) : Parsed :=
  match (files name).read with
  | .error cause => .error (.unreadable name cause)
  | .ok text => categoriesOfText text

/-- A readable document is parsed. -/
theorem categoriesOfFile_text {files : Files} {name content : String}
    (h : files name = .text content) : categoriesOfFile files name = categoriesOfText content := by
  simp [categoriesOfFile, h, FileContent.read]

end Dialogue
