import Dialogue.Config.Variable.Reader

/-!
# Configuration by environment variables

An environment variable whose name begins with `AIMLITE_` gives one value.  The
rest of its name, in small letters, is the path of the value, with two
underscores between its parts.
-/

namespace Dialogue.Config.Variable

open Text

/-! ## Names -/

/-- What the name of a variable of the configuration begins with. -/
def nameStart : List Char := "AIMLITE_".toList

/-- A name with dots in place of double underscores. -/
def dotted : List Char → List Char
  | '_' :: '_' :: s => '.' :: dotted s
  | c :: s => c :: dotted s
  | [] => []

/-- The path of the value that a variable gives; nothing if the variable is none of
the configuration.  Capital and small letters count as the same. -/
def path? (name : String) : Option (List String) :=
  let name := trim name.toList
  let start := name.take nameStart.length
  if start.map Char.toUpper = nameStart then
    let parts := (trim (dotted (name.drop nameStart.length))).splitOn '.'
    if parts.any List.isEmpty then none
    else some (parts.map fun part => String.ofList (part.map Char.toLower))
  else none

/-! ## Layers -/

/-- The table that has a value at the end of a path. -/
def nest (value : Value) : List String → Value
  | [] => value
  | name :: path => .table [(name, nest value path)]

/-- The values that environment variables give, later ones over earlier ones;
nothing if a character would have to be split in one of them. -/
def layer? (environment : List (String × String)) : Option Value :=
  environment.foldlM (fun layer (name, text) =>
    match path? name with
    | some path => (valueOfText? text).map fun value => (nest value path).over layer
    | none => some layer) (.table [])

end Dialogue.Config.Variable
