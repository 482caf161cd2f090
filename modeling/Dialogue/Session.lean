import Dialogue.Loading.Bot
import Dialogue.Resolution.Basic

/-!
# Sessions

A session is one conversation with a bot: its memory, its options and its
stream of draws.  A question is answered right away, or after the rule sources
that are still to be loaded.

Main results:

- `Session.askNow_notReady`: while rule sources are to be loaded, nothing is
  answered right away.
-/

namespace Dialogue

/-! ## Options and answers -/

/-- Options of a session. -/
structure Options where
  /-- How deep redirections may be nested. -/
  maxRedirectDepth : Nat := 32
  /-- The longest time between two looks at the load gate, in milliseconds. -/
  retryDelay : Nat := 1000
  /-- How often the load gate is looked at again before a request is given up. -/
  maxRetries : Nat := 10
  /-- The seed of the draws. -/
  seed : Option Nat := none
  deriving DecidableEq, Repr

/-- The category that answered a question. -/
structure MatchSummary where
  index : Nat
  source : Nat
  pattern : String
  that : Option String
  captures : List String
  deriving DecidableEq, Repr

/-- The answer to a question, with what is known about how it came about. -/
structure Answer where
  answer : Option String
  /-- The captures in capitals. -/
  capturesUpper : List String := []
  input : String
  outcome : Outcome
  winner : Option MatchSummary := none
  metrics : Metrics := {}
  deriving DecidableEq, Repr

/-- The answer to a question that is given up before it is resolved. -/
def Answer.unanswered (input : String) (outcome : Outcome) : Answer :=
  { answer := none, input := input, outcome := outcome }

/-- What is reported of the category that answered a question. -/
def KnowledgeBase.summary? (kb : KnowledgeBase) (resolution : Resolution) :
    Option MatchSummary := do
  let index ← resolution.winner
  let category ← kb.categories[index]?
  return {
    index := index
    source := category.source
    pattern := category.pattern.display
    that := category.that.map Wording.display
    captures := resolution.captures }

/-- The answer that a resolved question is reported as. -/
def Answer.ofResolved (kb : KnowledgeBase) (input : String) (resolved : Resolved) : Answer where
  answer := resolved.resolution.answer
  capturesUpper := resolved.resolution.captures.map Text.uppercase
  input := input
  outcome := resolved.resolution.outcome
  winner := kb.summary? resolved.resolution
  metrics := resolved.request.metrics

/-! ## Sessions -/

/-- One conversation with a bot. -/
structure Session where
  conversation : Conversation
  options : Options
  draws : Draws

namespace Session

/-- A session that has just begun; `entropy` is the seed if the options give
none. -/
def new (options : Options) (entropy : Nat) : Session where
  conversation := .start .empty
  options := options
  draws := .ofSeed (UInt64.ofNat (options.seed.getD entropy))

/-- The session with another conversation. -/
def withConversation (s : Session) (conversation : Conversation) : Session :=
  { s with conversation := conversation }

/-- The answers that a question can have, with the conversation after each. -/
def answers (bot : Bot) (options : Options) (conversation : Conversation) (input : String) :
    Choice (Answer × Conversation) := do
  let resolved ← resolve bot.knowledge bot.profile options.maxRedirectDepth conversation input
  return (Answer.ofResolved bot.knowledge input resolved, resolved.request.conversation)

/-- Answers a question with the rules that are loaded. -/
def ask (s : Session) (bot : Bot) (input : String) : Answer × Session :=
  let ((answer, conversation), draws) :=
    (answers bot s.options s.conversation input).follow s.draws
  (answer, { s with conversation := conversation, draws := draws })

/-- Answers a question, unless rule sources are still to be loaded. -/
def askNow (s : Session) (bot : Bot) (input : String) : Option (Answer × Session) :=
  if bot.isReady then some (s.ask bot input) else none

/-- The bot at the first look at the load gate that finds it open, among the
looks `bots 0` to `bots retries`. -/
def firstReady (bots : Nat → Bot) : (retries : Nat) → Option Bot
  | 0 => if (bots 0).isReady then some (bots 0) else none
  | retries + 1 =>
    if (bots 0).isReady then some (bots 0) else firstReady (fun i => bots (i + 1)) retries

/-- Answers a question after waiting for rule sources: `bots` says how the bot is
found at each look at the load gate.  A request that is given up leaves the
session alone. -/
def askWaiting (s : Session) (bots : Nat → Bot) (input : String) : Answer × Session :=
  match firstReady bots s.options.maxRetries with
  | some bot => s.ask bot input
  | none => (.unanswered input .loadTimeout, s)

/-- While rule sources are to be loaded, nothing is answered right away. -/
theorem askNow_notReady {s : Session} {bot : Bot} {input : String} (h : bot.isReady = false) :
    s.askNow bot input = none := by
  simp [askNow, h]

end Session

end Dialogue
