import Dialogue.Category.Basic
import Dialogue.Resolution.Evaluation

/-!
# Scanning the knowledge base

Categories are tried in order, and the first one whose pattern matches the
question and whose wording for the previous answer, if it has one, matches that
answer is evaluated.  A template may redirect to another question, which is
scanned for one level deeper; the nesting is bounded.

Main results:

- `scan_zero`: below the last level the limit is exceeded and nothing is found.
-/

namespace Dialogue

/-! ## Trying categories -/

/-- How a category takes a question. -/
inductive Verdict where
  /-- The pattern does not match the question. -/
  | unmatched
  /-- The pattern matches, but the previous answer is not the one asked for. -/
  | rejected
  /-- The category matches with these captures. -/
  | matched (captures : List String)
  deriving DecidableEq, Repr

/-- How a category takes a question in a conversation. -/
def Category.verdict (category : Category) (profile : Bindings) (conversation : Conversation)
    (question : String) : Verdict :=
  match category.pattern.captures? profile conversation.vars question with
  | none => .unmatched
  | some captures =>
    match category.that with
    | none => .matched captures
    | some that =>
      match that.captures? profile conversation.vars conversation.previousAnswer with
      | none => .rejected
      | some _ => .matched captures

/-- The category that matches a question. -/
structure Winner where
  /-- Its position in the knowledge base. -/
  index : Nat
  category : Category
  captures : List String

/-- What trying the categories in order comes to. -/
structure Survey where
  tried : Nat
  rejected : Nat
  winner : Option Winner

/-- Tries categories in order, the first of which has position `index`. -/
def survey (profile : Bindings) (conversation : Conversation) (question : String) (index : Nat) :
    List Category → Survey
  | [] => ⟨0, 0, none⟩
  | category :: categories =>
    match category.verdict profile conversation question with
    | .matched captures => ⟨1, 0, some ⟨index, category, captures⟩⟩
    | .rejected =>
      let later := survey profile conversation question (index + 1) categories
      { later with tried := later.tried + 1, rejected := later.rejected + 1 }
    | .unmatched =>
      let later := survey profile conversation question (index + 1) categories
      { later with tried := later.tried + 1 }

/-! ## Scans -/

/-- A category that has been evaluated. -/
structure Hit where
  index : Nat
  captures : List String
  /-- The answer of its template, if any. -/
  text : Option String
  deriving DecidableEq, Repr

namespace Request

/-- The request when a scan begins at a depth. -/
def enter (r : Request) (depth : Nat) : Request :=
  { r with metrics := { r.metrics with maxDepth := max r.metrics.maxDepth depth } }

/-- The request after categories have been tried. -/
def count (r : Request) (found : Survey) : Request :=
  { r with metrics := { r.metrics with
      tried := r.metrics.tried + found.tried
      thatRejections := r.metrics.thatRejections + found.rejected } }

/-- The request when a category that matches at a depth is about to be
evaluated.  Only the captures of the question itself are kept. -/
def begin (r : Request) (depth : Nat) (winner : Winner) : Request :=
  let conversation :=
    if depth = 0 then r.conversation.keepCaptures winner.captures
    else r.conversation.noteCaptures winner.captures
  { r with conversation := conversation }.record (.matched depth winner.index winner.captures)

end Request

/-- Evaluates the category that matches at a depth; `answer` answers nested
questions. -/
def evaluateWinner (profile : Bindings) (depth : Nat) (answer : String → Action String)
    (winner : Winner) : Action Hit := do
  modify (·.begin depth winner)
  let setting : Setting := ⟨profile, depth, answer⟩
  let (text, frame) ← (respond setting winner.category.template).run ⟨winner.captures, ← get⟩
  set (frame.request.record (.finished depth))
  return ⟨winner.index, winner.captures, text⟩

/-- The answer to a nested question, which `scan` scans for. -/
def redirect (scan : String → Action (Option Hit)) (question : String) : Action String := do
  modify (·.countRedirect)
  match ← scan question with
  | some hit => return (hit.text.map Text.clean).getD ""
  | none => return ""

/-- Scans the knowledge base for a question at a depth, with `levels` levels left
from this one on.  After the limit has been exceeded nothing is scanned. -/
def scan (kb : KnowledgeBase) (profile : Bindings) :
    (levels depth : Nat) → String → Action (Option Hit)
  | 0, _, _ => do
    unless (← get).metrics.limitHit do modify (·.exceedLimit)
    return none
  | levels + 1, depth, question => do
    if (← get).metrics.limitHit then return none
    modify (·.enter depth)
    let found := survey profile (← get).conversation question 0 kb.categories
    modify (·.count found)
    match found.winner with
    | none => return none
    | some winner =>
      let answer := redirect (scan kb profile levels (depth + 1))
      return some (← evaluateWinner profile depth answer winner)

/-- Below the last level the limit is exceeded and nothing is found. -/
theorem scan_zero (kb : KnowledgeBase) (profile : Bindings) (depth : Nat) (question : String)
    (request : Request) (h : request.metrics.limitHit = false) :
    (scan kb profile 0 depth question).run request = .done (none, request.exceedLimit) := by
  simp only [scan, StateT.run_bind, StateT.run_get, pure_bind, h]
  rfl

end Dialogue
