import Dialogue.Pattern.Column

/-!
# Captures of a pattern

The public side of matching: a pattern is matched against an input text, and
the texts that its wildcards took are reported with the casing of the input.

Main results:

- `Pattern.isMatch_iff`: a pattern matches exactly when it has captures.
-/

namespace Dialogue

open Text

namespace Pattern

/-- A capture as it is reported: without blanks, commas, colons and semicolons
at its ends, and then without one question mark at its end. -/
def tidy (raw : List Char) : List Char :=
  let isEdge (c : Char) : Bool := isBlank c || c == ',' || c == ';' || c == ':'
  let trimmed := dropEndWhile isEdge (raw.dropWhile isEdge)
  if trimmed.getLast? = some '?' then trimmed.dropLast else trimmed

/-- The texts that the wildcards of a pattern take from an input that matches,
from left to right. -/
def captures? (p : Pattern) (input : String) : Option (List String) :=
  (captureTokens p.tokens (collapse input.toList)).map
    (·.map fun capture => String.ofList (tidy capture))

/-- Whether a pattern matches an input. -/
def isMatch (p : Pattern) (input : String) : Bool := (p.captures? input).isSome

/-- A pattern matches exactly when it has captures. -/
theorem isMatch_iff {p : Pattern} {input : String} :
    p.isMatch input = true ↔ ∃ captures, p.captures? input = some captures := by
  simp [isMatch, Option.isSome_iff_exists]

end Pattern

/-- The captures of an input under a pattern given as a text; a pattern that
cannot be used matches nothing. -/
def matchText (input pattern : String) : Option (List String) :=
  (Pattern.ofText? pattern).bind (·.captures? input)

end Dialogue
