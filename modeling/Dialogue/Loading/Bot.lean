import Dialogue.Loading.Document
import Dialogue.Loading.Gate

/-!
# Bots and their rule sources

A bot has attributes, a knowledge base and a load gate.  Documents are loaded
in batches: all documents of a batch are requested at once, and then they are
committed one by one.  The first document that cannot be loaded ends its batch.
Reloading a bot begins a new generation, in which the batches under way have no
part.

Main results:

- `commit_eq_none_iff`: a document of an earlier generation has no effect.
-/

namespace Dialogue

/-- A bot. -/
structure Bot where
  profile : Bindings
  knowledge : KnowledgeBase
  gate : Gate

/-- Documents that have been requested together and are not settled yet. -/
structure Batch where
  generation : UInt64
  /-- The names of the documents, the next one first. -/
  pending : List String
  deriving DecidableEq, Repr

namespace Bot

/-- A bot with given attributes and no rules. -/
def new (profile : Bindings) : Bot := ⟨profile, .empty, {}⟩

/-- Requests documents that are going to be loaded. -/
def request (bot : Bot) (names : List String) : Bot × Batch :=
  ({ bot with gate := bot.gate.request names.length }, ⟨bot.gate.generation, names⟩)

/-- Adds the categories of a document of a generation and settles it: the number
of categories or the reason why there are none, and the bot afterwards.  Nothing
happens if the generation is over. -/
def commit (bot : Bot) (generation : UInt64) (parsed : Parsed) :
    Option (Except LoadFailure Nat × Bot) :=
  match parsed with
  | .ok categories =>
    (bot.gate.settle generation true).map fun gate =>
      (.ok categories.length,
        { bot with knowledge := bot.knowledge.append categories, gate := gate })
  | .error failure =>
    (bot.gate.settle generation false).map fun gate =>
      (.error failure, { bot with gate := gate })

/-- Gives up documents of a generation. -/
def abandon (bot : Bot) (generation : UInt64) (count : Nat) : Bot :=
  { bot with gate := bot.gate.abandon generation count }

/-- Loads the documents `names` of a generation in order, after `total`
categories of their batch have been added: the number of categories of the
batch, or the reason why it ended early, and the bot afterwards. -/
def loadEach (files : Files) (generation : UInt64) (bot : Bot) (total : Nat) :
    List String → Except LoadFailure Nat × Bot
  | [] => (.ok total, bot)
  | name :: names =>
    match bot.commit generation (categoriesOfFile files name) with
    | none => (.ok total, bot)
    | some (.ok count, bot) => loadEach files generation bot (total + count) names
    | some (.error failure, bot) => (.error failure, bot.abandon generation names.length)

/-- Runs a batch to its end. -/
def runBatch (files : Files) (bot : Bot) (batch : Batch) : Except LoadFailure Nat × Bot :=
  bot.loadEach files batch.generation 0 batch.pending

/-- Loads documents in order, up to the first that cannot be loaded. -/
def loadFiles (files : Files) (bot : Bot) (names : List String) : Except LoadFailure Nat × Bot :=
  let (bot, batch) := bot.request names
  bot.runBatch files batch

/-- Loads a document that is given as a text. -/
def loadText (bot : Bot) (text : String) : Except LoadFailure Nat × Bot :=
  let generation := bot.gate.generation
  let bot := { bot with gate := bot.gate.request 1 }
  (bot.commit generation (categoriesOfText text)).getD (.ok 0, bot)

/-- Forgets all rules and everything that was to be loaded. -/
def reload (bot : Bot) : Bot := { bot with knowledge := .empty, gate := bot.gate.reset }

/-- Whether no document is still to be loaded. -/
def isReady (bot : Bot) : Bool := bot.gate.isReady

/-- A document has no effect exactly if its generation is over. -/
theorem commit_eq_none_iff (bot : Bot) (generation : UInt64) (parsed : Parsed) :
    bot.commit generation parsed = none ↔ generation ≠ bot.gate.generation := by
  cases parsed <;> simp [commit, Gate.settle]

end Bot

end Dialogue
