import Dialogue.Choice
import Dialogue.Conversation

/-!
# Requests in progress

While a question is answered, the conversation changes, the work is counted,
and a journal records what happens: which categories match, which texts are
read and written, and when the limit on nested redirections is exceeded.

Main results:

- `Request.record_conversation`: keeping the journal does not touch the
  conversation.
-/

namespace Dialogue

/-- Counters of one request. -/
structure Metrics where
  /-- Categories tried, nested questions included. -/
  tried : Nat := 0
  /-- Matches that the previous answer ruled out. -/
  thatRejections : Nat := 0
  /-- Redirections to nested questions. -/
  redirects : Nat := 0
  /-- The deepest nesting that was reached. -/
  maxDepth : Nat := 0
  /-- Whether the limit on nesting was exceeded; after that no category is tried
  any more. -/
  limitHit : Bool := false
  deriving DecidableEq, Repr

/-- Something that happens while a question is answered. -/
inductive Happening where
  /-- A category matches a question at a depth and is evaluated from here on. -/
  | matched (depth index : Nat) (captures : List String)
  /-- The evaluation of the category at a depth is over. -/
  | finished (depth : Nat)
  /-- The last wildcard is read. -/
  | readWildcard (value : String)
  /-- The next capture of the category at a depth becomes the value of a
  variable. -/
  | tookCapture (depth : Nat) (value : String)
  /-- A variable is bound. -/
  | wrote (name value : String)
  /-- The limit on nesting is exceeded. -/
  | exceededLimit
  deriving DecidableEq, Repr

/-- A request in progress. -/
structure Request where
  conversation : Conversation
  metrics : Metrics := {}
  /-- What has happened so far, the latest first. -/
  journal : List Happening := []
  deriving DecidableEq

namespace Request

/-- The request with one more thing in its journal. -/
def record (r : Request) (happening : Happening) : Request :=
  { r with journal := happening :: r.journal }

/-- The request after a variable has been bound. -/
def write (r : Request) (name value : String) : Request :=
  { r with conversation := r.conversation.set name value }.record (.wrote name value)

/-- The request after the limit on nesting has been exceeded. -/
def exceedLimit (r : Request) : Request :=
  { r with metrics := { r.metrics with limitHit := true } }.record .exceededLimit

/-- The request after one more redirection. -/
def countRedirect (r : Request) : Request :=
  { r with metrics := { r.metrics with redirects := r.metrics.redirects + 1 } }

/-- Keeping the journal does not touch the conversation. -/
@[simp] theorem record_conversation (r : Request) (happening : Happening) :
    (r.record happening).conversation = r.conversation := rfl

end Request

/-- An action on a request that may choose. -/
abbrev Action := StateT Request Choice

end Dialogue
