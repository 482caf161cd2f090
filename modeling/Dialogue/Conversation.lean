import Dialogue.Bindings

/-!
# Conversations

What one conversation remembers from turn to turn: its variables, what the
wildcards of the last question took, and the last answer.

Main results:

- `noteCaptures_eq`: a match changes the last wildcard only, and only if it
  captures something.
-/

namespace Dialogue

/-- The memory of a conversation. -/
structure Conversation where
  vars : Bindings
  /-- What the wildcards took from the last question. -/
  captures : List String
  /-- The last text that a wildcard took while the last question was answered. -/
  lastWildcard : String
  /-- The last answer that was given. -/
  previousAnswer : String
  deriving DecidableEq

namespace Conversation

/-- The memory of a conversation that begins with given variables. -/
def start (vars : Bindings) : Conversation := ⟨vars, [], "", ""⟩

/-- The conversation with a variable bound. -/
def set (c : Conversation) (name value : String) : Conversation :=
  { c with vars := c.vars.insert name value }

/-- The conversation without a variable. -/
def remove (c : Conversation) (name : String) : Conversation :=
  { c with vars := c.vars.erase name }

/-- The conversation before a new question is matched: nothing of the wildcards
of earlier questions is left. -/
def forgetCaptures (c : Conversation) : Conversation :=
  { c with captures := [], lastWildcard := "" }

/-- The conversation after a match: the last capture, if there is one, becomes
the last wildcard. -/
def noteCaptures (c : Conversation) (captures : List String) : Conversation :=
  match captures.getLast? with
  | some last => { c with lastWildcard := last }
  | none => c

/-- The conversation after the match of the question itself, whose captures are
kept. -/
def keepCaptures (c : Conversation) (captures : List String) : Conversation :=
  { c.noteCaptures captures with captures := captures }

/-- A match changes the last wildcard only, and only if it captures something. -/
theorem noteCaptures_eq (c : Conversation) (captures : List String) :
    c.noteCaptures captures =
      { c with lastWildcard := captures.getLast?.getD c.lastWildcard } := by
  unfold noteCaptures
  cases captures.getLast? with
  | none => rfl
  | some last => rfl

end Conversation

end Dialogue
