import Dialogue.Text.Blank
import Dialogue.Text.Casing

/-!
# Response templates

A template is a list of fragments: texts, references to what is known, and
instructions that redirect the question, choose between alternatives or change
variables.

Main results:

- `Fragment.isBlank_text`: a blank fragment is a text of blanks.
-/

namespace Dialogue

mutual

/-- A fragment of a template. -/
inductive Fragment where
  | text (content : String)
  /-- The value of a variable. -/
  | get (name : String)
  /-- Binds a variable and stands for its new value. -/
  | set (name : String) (value : List Fragment)
  /-- The value of an attribute of the bot. -/
  | bot (name : String)
  /-- The last text that a wildcard took during the request. -/
  | star
  /-- The answer to the last text that a wildcard took. -/
  | starAnswer
  /-- The answer to another question. -/
  | redirect (question : List Fragment)
  /-- One of several alternatives. -/
  | random (alternatives : List Fragment)
  /-- The first branch whose own variable has its value. -/
  | firstOf (branches : List Branch)
  /-- The content, if a variable has a value. -/
  | onlyIf (name value : String) (content : List Fragment)
  /-- The first branch whose value is that of one variable. -/
  | select (name : String) (branches : List Branch)
  /-- The content in another case. -/
  | recase (casing : Text.Casing) (content : List Fragment)
  | lineBreak
  /-- The effects of the content without its text. -/
  | think (content : List Fragment)
  /-- A list item outside of a list. -/
  | item (content : List Fragment)
  /-- A template inside a template. -/
  | group (content : List Fragment)
  /-- An element without a meaning of its own, which is part of the answer. -/
  | markup (tag : String) (attributes : List (String × String)) (content : List Fragment)

/-- A branch of a condition; a branch without a value is always taken. -/
inductive Branch where
  | mk (name value : Option String) (content : List Fragment)

end

namespace Branch

/-- The variable that a branch names. -/
def name : Branch → Option String
  | mk name _ _ => name

/-- The value that a branch asks for. -/
def value : Branch → Option String
  | mk _ value _ => value

/-- The content of a branch. -/
def content : Branch → List Fragment
  | mk _ _ content => content

/-- Whether a branch is taken whatever the variables are. -/
def isDefault (b : Branch) : Bool := b.value.isNone

end Branch

namespace Fragment

open Text

/-- Whether a fragment is a text of nothing but blanks. -/
def isBlank : Fragment → Bool
  | text content => isBlankText content.toList
  | _ => false

/-- Whether a fragment, as the value of a variable, stands for a capture: a star
reference, or a text that is one of the two wildcards. -/
def takesCapture : Fragment → Bool
  | star => true
  | text content => trim content.toList == ['*'] || trim content.toList == ['_']
  | _ => false

/-- A text is blank if it has no other characters than blanks. -/
@[simp] theorem isBlank_text (content : String) :
    (text content).isBlank = isBlankText content.toList := rfl

end Fragment

end Dialogue
