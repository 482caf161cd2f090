import Dialogue.Bindings
import Dialogue.Pattern.Captures
import Dialogue.Text.Casing

/-!
# Wordings

The pattern of a rule, and the answer that it may ask for, are written as
wordings: literal texts with references to attributes of the bot and to
variables of the conversation.  A reference stands for its value in capitals at
the time when the rule is tried.

Main results:

- `render_of_not_isDynamic`: a wording without references reads the same at all
  times.
-/

namespace Dialogue

/-- A part of a wording. -/
inductive Wording.Part where
  | text (content : String)
  /-- The value of an attribute of the bot. -/
  | bot (name : String)
  /-- The value of a variable. -/
  | get (name : String)
  deriving DecidableEq, Repr

/-- A pattern as it is written in a rule. -/
structure Wording where
  parts : List Wording.Part
  deriving DecidableEq, Repr

namespace Wording

/-- Whether a part is a reference. -/
def Part.isReference : Part → Bool
  | text _ => false
  | bot _ => true
  | get _ => true

/-- Whether what a wording says depends on attributes or variables. -/
def isDynamic (w : Wording) : Bool := w.parts.any Part.isReference

/-- What a part says. -/
def Part.render (profile vars : Bindings) : Part → String
  | text content => content
  | bot name => Text.uppercase (profile.get name)
  | get name => Text.uppercase (vars.get name)

/-- What a wording says: its parts with single spaces between them. -/
def render (w : Wording) (profile vars : Bindings) : String :=
  String.intercalate " " (w.parts.map (Part.render profile vars))

/-- A part as it is shown in reports. -/
def Part.display : Part → String
  | text content => content
  | bot name => "<bot name=\"" ++ name ++ "\"/>"
  | get name => "<get name=\"" ++ name ++ "\"/>"

/-- A wording as it is shown in reports. -/
def display (w : Wording) : String := String.join (w.parts.map Part.display)

/-- The captures of an input under a wording. -/
def captures? (w : Wording) (profile vars : Bindings) (input : String) :
    Option (List String) :=
  matchText input (w.render profile vars)

/-- A wording without references reads the same at all times. -/
theorem render_of_not_isDynamic {w : Wording} (h : w.isDynamic = false)
    (profile vars profile' vars' : Bindings) :
    w.render profile vars = w.render profile' vars' := by
  have : w.parts.map (Part.render profile vars) =
      w.parts.map (Part.render profile' vars') := by
    refine List.map_congr_left fun part hp => ?_
    have : part.isReference = false := by
      simpa using List.any_eq_false.1 h part hp
    cases part <;> simp_all [Part.isReference, Part.render]
  simp [render, this]

end Wording

end Dialogue
