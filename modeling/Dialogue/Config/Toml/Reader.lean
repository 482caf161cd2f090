import Dialogue.Config.Toml.Moment
import Dialogue.Config.Toml.Number
import Dialogue.Config.Toml.Table
import Dialogue.Config.Toml.Text
import Dialogue.Config.Toml.Wrapper

/-!
# Reading configuration files

A configuration file is a list of lines, each a header or a key with a value.
What is read is the table that the lines build, without its wrappers; a file that
is not well formed has none.
-/

namespace Dialogue.Config.Toml

/-! ## Blanks and comments -/

/-- What follows a comment, if there is one. -/
def afterComment (s : List Char) : List Char :=
  match s with
  | '#' :: s => s.dropWhile isShown
  | s => s

/-- What follows the end of a line, before which blanks and a comment may
stand; nothing if there is something else. -/
def afterLine (s : List Char) : Option (List Char) :=
  match afterComment (s.dropWhile isLineBlank) with
  | [] => some []
  | s => afterBreak? s

/-- What follows blanks, comments and line breaks.  The fuel is at least the
number of characters. -/
def skipLayout : (fuel : Nat) → List Char → List Char
  | 0, s => s
  | fuel + 1, s =>
    match s.dropWhile isLineBlank with
    | '#' :: s => skipLayout fuel (s.dropWhile isShown)
    | s =>
      match afterBreak? s with
      | some rest => skipLayout fuel rest
      | none => s

/-- What follows blanks, comments and line breaks. -/
def afterLayout (s : List Char) : List Char := skipLayout (s.length + 1) s

/-! ## Values -/

/-- A word that stands for a value, and what follows it. -/
def readWord (word : String) (value : Value) (s : List Char) : Option (Value × List Char) :=
  if word.toList.isPrefixOf s then some (value, s.drop word.length) else none

/-- A number, a date or a time, and what follows it. -/
def readNumberOrMoment (s : List Char) : Option (Value × List Char) :=
  if Moment.begins s then (Moment.read s).map fun (moment, rest) => (moment.toValue, rest)
  else readNumber s

/-- A value without parts, and what follows it. -/
def readLeaf (s : List Char) : Option (Value × List Char) :=
  match s with
  | [] => none
  | c :: _ =>
    if c = '"' ∨ c = '\'' then (readText s).map fun (text, rest) => (.text text, rest)
    else if c = 't' then readWord "true" (.boolean true) s
    else if c = 'f' then readWord "false" (.boolean false) s
    else readNumberOrMoment s

mutual

/-- A value inside of `depth` lists and tables, and what follows it.  The fuel is
at least twice the number of characters. -/
def readValue (depth : Nat) : (fuel : Nat) → List Char → Option (Value × List Char)
  | 0, _ => none
  | fuel + 1, s =>
    match s with
    | '[' :: s => do
      guard (depth + 1 < depthBound)
      let (items, rest) ← readItems (depth + 1) fuel (afterLayout s)
      return (.list items, rest)
    | '\x7b' :: s => do
      guard (depth + 1 < depthBound)
      match s.dropWhile isLineBlank with
      | '\x7d' :: rest => return (.table [], rest)
      | s => do
        let (table, rest) ← readPairs (depth + 1) fuel (.empty .header) s
        return (table.toValue, rest)
    | s => readLeaf s

/-- The items of a list up to its bracket, and what follows it. -/
def readItems (depth : Nat) : (fuel : Nat) → List Char → Option (List Value × List Char)
  | 0, _ => none
  | fuel + 1, s =>
    match s with
    | ']' :: rest => some ([], rest)
    | s => do
      let (item, rest) ← readValue depth fuel s
      match afterLayout rest with
      | ',' :: rest => do
        let (items, rest) ← readItems depth fuel (afterLayout rest)
        return (item :: items, rest)
      | ']' :: rest => return ([item], rest)
      | _ => none

/-- A table in braces, up to its last brace, after what `table` holds of it, and
what follows it. -/
def readPairs (depth fuel : Nat) (table : Table) (s : List Char) : Option (Table × List Char) :=
  match fuel with
  | 0 => none
  | fuel + 1 => do
    let (path, key, rest) ← readKey s
    let rest ← afterChar '=' rest
    let (value, rest) ← readValue depth fuel (rest.dropWhile isLineBlank)
    let table ← table.addPair path key value
    match rest.dropWhile isLineBlank with
    | ',' :: rest => readPairs depth fuel table rest
    | '\x7d' :: rest => return (table, rest)
    | _ => none

end

/-! ## Files -/

/-- The table of a file while it is read, and where its next keys go. -/
structure Progress where
  table : Table
  /-- The path of the header that was read last. -/
  header : List String

/-- What a header line does, after its opening brackets, and what follows it. -/
def readHeader (isItem : Bool) (progress : Progress) (s : List Char) :
    Option (Progress × List Char) := do
  let (path, key, rest) ← readKey s
  let rest ← afterChar ']' rest
  let rest ← if isItem then afterChar ']' rest else some rest
  let table ← if isItem then progress.table.addItem path key else progress.table.addTable path key
  return (⟨table, path ++ [key]⟩, rest)

/-- What a line with a key and a value does, and what follows it. -/
def readPair (progress : Progress) (s : List Char) : Option (Progress × List Char) := do
  let (path, key, rest) ← readKey s
  let rest ← afterChar '=' rest
  let s := rest.dropWhile isLineBlank
  let (value, rest) ← readValue 0 (2 * s.length + 2) s
  let table ← progress.table.alter false (·.addPair path key value) progress.header
  return (⟨table, progress.header⟩, rest)

/-- What a line does that is neither empty nor a comment, and what follows it. -/
def readStatement (progress : Progress) (s : List Char) : Option (Progress × List Char) :=
  match s with
  | '[' :: '[' :: s => readHeader true progress s
  | '[' :: s => readHeader false progress s
  | s => readPair progress s

/-- The table of a file, when the lines before `s` have been read.  The fuel is at
least the number of characters. -/
def readDocument (progress : Progress) : (fuel : Nat) → List Char → Option Table
  | 0, _ => none
  | fuel + 1, s =>
    match afterLayout s with
    | [] => some progress.table
    | s => do
      let (progress, rest) ← readStatement progress s
      let rest ← afterLine rest
      readDocument progress fuel rest

/-- The value of a configuration file, which may begin with a byte order mark.  The
file itself is no wrapper, but the tables in it can be. -/
def parse? (text : String) : Option Value := do
  let s :=
    match text.toList with
    | '\ufeff' :: s => s
    | s => s
  let table ← readDocument ⟨.empty .header, []⟩ (s.length + 1) s
  return .table (← unwrapEntries? table.entries)

end Dialogue.Config.Toml
