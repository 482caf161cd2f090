import Dialogue.Pattern.Basic
import Dialogue.Text.FoldTable
import Dialogue.Text.WordTable

/-!
# Matching by search

A pattern matches a text in which every run of blanks is one space: its tokens
follow each other with one space between them, literal words agree with the
text up to case, wildcards take words with the separators between them, and
what is left over is closing punctuation.  The captures of a match are found by
trying, for each wildcard from left to right, the longest text first.

Main results:

- `fill_eq_none_of_forall`: a wildcard takes nothing where the rest of the
  pattern cannot follow.
-/

namespace Dialogue

open Text

/-! ## Single tokens -/

/-- Whether a character can stand between the words that a wildcard takes. -/
def isSeparator (c : Char) : Bool :=
  c == ',' || c == ';' || c == ':' || isSentenceEnd c || isBlank c

/-- What follows a literal word at the beginning of a text, if the text begins
with the word up to case. -/
def dropLiteral : List Char → List Char → Option (List Char)
  | [], s => some s
  | _ :: _, [] => none
  | w :: word, c :: s => if sameFold w c then dropLiteral word s else none

/-- The captures of a match, in the order of the wildcards. -/
abbrev Captures := List (List Char)

/-- The rest of a capture that has been begun, and the captures after it, when
`next` says what can follow a capture: the longest rest that can be followed,
which ends with a word character. -/
def fill (next : List Char → Option Captures) : List Char → Option (List Char × Captures)
  | [] => none
  | c :: s =>
    if isWordChar c then
      ((fill next s).map fun (rest, more) => (c :: rest, more)) <|>
        ((next s).map fun more => ([c], more))
    else if isSeparator c then (fill next s).map fun (rest, more) => (c :: rest, more)
    else none

/-- The captures from one token on, when `next` says what can follow it. -/
def Token.take (token : Token) (next : List Char → Option Captures) :
    List Char → Option Captures :=
  match token with
  | .literal word => fun s => (dropLiteral word s).bind next
  | .wildcard => fun s =>
    match s with
    | [] => none
    | c :: _ => if isWordChar c then (fill next s).map fun (first, more) => first :: more else none

/-! ## Token lists -/

/-- The captures of the tokens that follow a token that has been matched. -/
def follow : List Token → List Char → Option Captures
  | [], s => if s.all isClosing then some [] else none
  | token :: tokens, s =>
    match s with
    | [] => none
    | c :: rest => if c = ' ' then token.take (follow tokens) rest else none

/-- The captures of a list of tokens matched against a whole text. -/
def search : List Token → List Char → Option Captures
  | [], s => if s.all isClosing then some [] else none
  | token :: tokens, s => token.take (follow tokens) s

/-- A wildcard takes nothing where the rest of the pattern cannot follow. -/
theorem fill_eq_none_of_forall {next : List Char → Option Captures} {s : List Char}
    (h : ∀ t, next t = none) : fill next s = none := by
  induction s with
  | nil => rfl
  | cons c s ih => simp [fill, ih, h]

end Dialogue
