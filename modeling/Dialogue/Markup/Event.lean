import Dialogue.Markup.Attribute
import Dialogue.Markup.Piece
import Dialogue.Text.Blank

/-!
# Events of markup

The second step of reading turns pieces into events: elements are opened and
closed under matching names, entities are replaced and attributes are read.

Main results:

- `closeName_of_last`: blanks after the name of a closing tag do not count.
-/

namespace Dialogue.Markup

open Text

/-! ## Events -/

/-- What a reader meets, in the order of the text.  Names are qualified names as
they are written. -/
inductive Event where
  | opened (name : String) (attributes : Attributes)
  /-- An element without content, written as one tag. -/
  | empty (name : String) (attributes : Attributes)
  | closed (name : String)
  | text (content : String)
  | cdata (content : String)
  | comment (content : String)
  | instruction (content : String)
  | doctype (content : String)
  deriving DecidableEq, Repr

/-- The part of a qualified name after its first colon. -/
def localChars (name : List Char) : List Char :=
  match name.dropWhile (· != ':') with
  | [] => name
  | _ :: rest => rest

/-- The part of a qualified name after its first colon. -/
def localName (name : String) : String := String.ofList (localChars name.toList)

/-- The same attributes under their local names. -/
def localAttributes (attributes : Attributes) : Attributes :=
  attributes.map fun (key, value) => (localName key, value)

/-! ## Tags -/

/-- The name and the attributes in the content of a tag. -/
def readTag (content : List Char) : Except Error (String × Attributes) := do
  let name := content.takeWhile (!isTagBlank ·)
  let rest := content.dropWhile (!isTagBlank ·)
  let attributes ← readAttributes [] (byteLength name) (byteLength content) rest
  return (String.ofList name, attributes)

/-- The name in the content of a closing tag: blanks after it do not count,
unless there is nothing else. -/
def closeName (content : List Char) : List Char :=
  match dropEndWhile isTagBlank content with
  | [] => content
  | name => name

/-- Blanks after the name of a closing tag do not count. -/
theorem closeName_of_last {name blanks : List Char} {c : Char} (hc : isTagBlank c = false)
    (hb : ∀ b ∈ blanks, isTagBlank b = true) :
    closeName (name ++ [c] ++ blanks) = name ++ [c] := by
  have : dropEndWhile isTagBlank (name ++ [c] ++ blanks) = name ++ [c] := by
    have hr : ∀ b ∈ blanks.reverse, isTagBlank b = true := by simpa using hb
    simp [dropEndWhile, List.dropWhile_append_of_pos hr, List.dropWhile, hc]
  rw [closeName, this]
  cases name <;> rfl

/-! ## From pieces to events -/

/-- The event of a piece and the names of the open elements after it, the
innermost first. -/
def readPiece (names : List String) : Piece → Except Error (Event × List String)
  | .text content => do
    let text ← (unescape content).mapError .inEntity
    return (.text (String.ofList text), names)
  | .tag content =>
    if content.getLast? = some '/' then do
      let (name, attributes) ← readTag content.dropLast
      return (.empty name attributes, names)
    else do
      let (name, attributes) ← readTag content
      return (.opened name attributes, name :: names)
  | .closeTag content =>
    let found := String.ofList (closeName content)
    match names with
    | [] => .error (.unmatchedClose found)
    | expected :: names =>
      if found = expected then .ok (.closed found, names)
      else .error (.mismatchedClose expected found)
  | .instruction content => .ok (.instruction (String.ofList content), names)
  | .comment content => .ok (.comment (String.ofList content), names)
  | .cdata content => .ok (.cdata (String.ofList content), names)
  | .doctype content =>
    match content.dropWhile isTagBlank with
    | [] => .error .doctypeWithoutName
    | name => .ok (.doctype (String.ofList name), names)

/-- The events of a list of pieces, when the elements `names` are open. -/
def readPieces (names : List String) : List Piece → Except Error (List Event)
  | [] => .ok []
  | piece :: pieces => do
    let (event, names) ← readPiece names piece
    let events ← readPieces names pieces
    return event :: events

/-- The events of a text.  Of several faults the first one counts, and cutting
stops at a fault of its own. -/
def readEvents (text : String) : Except Error (List Event) := do
  let cut := cutText text
  let events ← readPieces [] cut.pieces
  match cut.fault with
  | some fault => .error fault
  | none => return events

end Dialogue.Markup
