import Dialogue.Resolution.Scan

/-!
# Resolving a question

A question is scanned for at depth zero.  What comes of it is classified: an
answer, an empty answer, no matching category, or too many nested
redirections.  Only an answer is remembered.

Main results:

- `Resolution.answer_isSome_iff`: there is an answer exactly if the outcome says
  so.
-/

namespace Dialogue

/-- How a request ends. -/
inductive Outcome where
  /-- A category matches and gives an answer. -/
  | matched
  /-- A category matches, but its template gives no text. -/
  | empty
  /-- No category matches. -/
  | noMatch
  /-- Redirections are nested too deeply. -/
  | redirectionLimit
  /-- The rule sources were not loaded in time. -/
  | loadTimeout
  deriving DecidableEq, Repr

/-- What a request comes to. -/
structure Resolution where
  answer : Option String
  /-- The captures of the category that won. -/
  captures : List String
  /-- The position of the category that won. -/
  winner : Option Nat
  outcome : Outcome
  deriving DecidableEq, Repr

/-- What the scan for a question comes to. -/
def Resolution.ofHit (limitHit : Bool) (hit : Option Hit) : Resolution :=
  if limitHit then ⟨none, [], none, .redirectionLimit⟩
  else
    match hit with
    | none => ⟨none, [], none, .noMatch⟩
    | some hit =>
      match (hit.text.map Text.clean).filter (· ≠ "") with
      | some text => ⟨some text, hit.captures, some hit.index, .matched⟩
      | none => ⟨none, hit.captures, some hit.index, .empty⟩

/-- The conversation after an answer has been given. -/
def Conversation.remember (c : Conversation) (answer : Option String) : Conversation :=
  match answer with
  | some text => { c with previousAnswer := text }
  | none => c

/-- A request at its end. -/
structure Resolved where
  resolution : Resolution
  request : Request
  deriving DecidableEq

/-- Resolves a question in a conversation; redirections may be nested `limit`
deep. -/
def resolve (kb : KnowledgeBase) (profile : Bindings) (limit : Nat) (conversation : Conversation)
    (question : String) : Choice Resolved := do
  let start : Request := { conversation := conversation.forgetCaptures }
  let (hit, request) ← (scan kb profile (limit + 1) 0 question).run start
  let resolution := Resolution.ofHit request.metrics.limitHit hit
  return ⟨resolution,
    { request with conversation := request.conversation.remember resolution.answer }⟩

/-- There is an answer exactly if the outcome says so. -/
theorem Resolution.answer_isSome_iff (limitHit : Bool) (hit : Option Hit) :
    (ofHit limitHit hit).answer.isSome ↔ (ofHit limitHit hit).outcome = .matched := by
  unfold ofHit
  split
  · simp
  · split
    · simp
    · split <;> simp

end Dialogue
