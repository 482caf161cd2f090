import Dialogue.Text.Blank

/-!
# Patterns

A pattern is a text whose words are matched one by one against the words of an
input.  The words `*` and `_` are wildcards; every other word stands for
itself.  Closing punctuation of a pattern does not count.

Main results:

- `Pattern.ofText?_text`: a pattern keeps the text it was read from, without
  the blanks around it and its closing punctuation.
-/

namespace Dialogue

open Text

/-! ## Tokens -/

/-- One word of a pattern. -/
inductive Token where
  /-- A word that stands for itself. -/
  | literal (word : List Char)
  /-- A place for one or more words of the input. -/
  | wildcard
  deriving DecidableEq, Repr

namespace Token

/-- The token that a word is read as. -/
def ofWord (word : List Char) : Token :=
  if word = ['*'] ∨ word = ['_'] then wildcard else literal word

/-- Whether a token is a wildcard. -/
def isWildcard : Token → Bool
  | wildcard => true
  | literal _ => false

end Token

/-! ## Patterns -/

/-- The greatest number of wildcards in a pattern that can be used. -/
def maxWildcards : Nat := 128

/-- A pattern that can be matched. -/
structure Pattern where
  /-- The pattern as written, without the blanks around it and its closing
  punctuation. -/
  text : String
  /-- The words of the text. -/
  tokens : List Token
  tokens_eq : tokens = (words text.toList).map Token.ofWord
  wildcards_le : tokens.countP Token.isWildcard ≤ maxWildcards

namespace Pattern

/-- The part of a pattern's text that counts. -/
def strip (text : String) : String := String.ofList (dropClosing (trim text.toList))

/-- Reads a pattern; a pattern with too many wildcards is refused. -/
def ofText? (text : String) : Option Pattern :=
  let tokens := (words (strip text).toList).map Token.ofWord
  if h : tokens.countP Token.isWildcard ≤ maxWildcards then
    some ⟨strip text, tokens, rfl, h⟩
  else none

/-- The number of wildcards of a pattern. -/
def wildcardCount (p : Pattern) : Nat := p.tokens.countP Token.isWildcard

/-- A pattern keeps the part of its text that counts. -/
theorem ofText?_text {text : String} {p : Pattern} (h : ofText? text = some p) :
    p.text = strip text := by
  simp only [ofText?] at h
  split at h
  · exact (Option.some.inj h) ▸ rfl
  · simp at h

end Pattern

end Dialogue
