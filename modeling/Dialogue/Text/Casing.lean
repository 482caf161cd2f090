import Dialogue.Text.CaseTable
import Dialogue.Text.CasedTable

/-!
# Changing the case of a text

A text can be written in capitals, in small letters, with every word
capitalised, or with its first letter capitalised.  A capital sigma at the end
of a word becomes the final small sigma.

Main results:

- `Casing.ofTag?_tag`: every casing is found again under its tag.
-/

namespace Dialogue.Text

/-! ## Capitals -/

/-- The text in capitals. -/
def upperChars (s : List Char) : List Char := s.flatMap upperChar

/-- The text in capitals. -/
def uppercase (s : String) : String := String.ofList (upperChars s.toList)

/-! ## Small letters -/

/-- Whether the first character that is not passed over has case. -/
def meetsCased : List Char → Bool
  | [] => false
  | c :: s => if isCaseIgnorable c then meetsCased s else isCased c

/-- Whether a letter between the texts `before` (read backwards) and `after`
stands at the end of a word. -/
def endsWord (before after : List Char) : Bool := meetsCased before && !meetsCased after

/-- The capital letter whose small form depends on where it stands. -/
def capitalSigma : Char := 'Σ'

/-- The small letters of a text that follows `before`, which is read
backwards. -/
def lowerAfter (before : List Char) : List Char → List Char
  | [] => []
  | c :: s =>
    let form :=
      if c = capitalSigma then (if endsWord before s then ['ς'] else ['σ']) else lowerChar c
    form ++ lowerAfter (c :: before) s

/-- The text in small letters. -/
def lowercase (s : String) : String := String.ofList (lowerAfter [] s.toList)

/-! ## Capitalised words -/

/-- The text with its first character in its upper-case form. -/
def capitaliseChars : List Char → List Char
  | [] => []
  | c :: s => upperChar c ++ s

/-- The text with every character in its upper-case form that follows a space,
or stands first when `fresh` is true. -/
def capitaliseEach (fresh : Bool) : List Char → List Char
  | [] => []
  | c :: s => (if fresh then upperChar c else [c]) ++ capitaliseEach (c == ' ') s

/-! ## The four casings -/

/-- A way to change the case of a text. -/
inductive Casing where
  | upper
  | lower
  | formal
  | sentence
  deriving DecidableEq, Repr

/-- The tag under which a casing appears in templates. -/
def Casing.tag : Casing → String
  | upper => "uppercase"
  | lower => "lowercase"
  | formal => "formal"
  | sentence => "sentence"

/-- The casing that a tag names, if any; tags are compared exactly. -/
def Casing.ofTag? (tag : String) : Option Casing :=
  [upper, lower, formal, sentence].find? (·.tag == tag)

/-- The text in a given casing. -/
def Casing.apply : Casing → String → String
  | upper, s => uppercase s
  | lower, s => lowercase s
  | formal, s => String.ofList (capitaliseEach true s.toList)
  | sentence, s => String.ofList (capitaliseChars s.toList)

/-- Every casing is found again under its tag. -/
theorem Casing.ofTag?_tag (casing : Casing) : ofTag? casing.tag = some casing := by
  cases casing <;> decide

end Dialogue.Text
