import Dialogue.Pattern.Wording
import Dialogue.Template.Basic

/-!
# Categories and the knowledge base

A category is a rule: the pattern of the questions that it answers, the earlier
answer that it may depend on, and a template.  The knowledge base keeps the
categories of all rule sources in the order in which they were loaded.

Main results:

- `KnowledgeBase.categories_append`: a new source goes behind the old ones.
-/

namespace Dialogue

/-- A rule. -/
structure Category where
  /-- What a question must say. -/
  pattern : Wording
  /-- What the previous answer must have said, if it matters. -/
  that : Option Wording
  /-- How to answer. -/
  template : List Fragment
  /-- The number of the rule source. -/
  source : Nat := 0

/-- The categories of all rule sources. -/
structure KnowledgeBase where
  /-- The categories in the order in which they are tried. -/
  categories : List Category
  /-- The number of rule sources. -/
  sources : Nat

namespace KnowledgeBase

/-- The knowledge base before anything is loaded. -/
def empty : KnowledgeBase := ⟨[], 0⟩

/-- The knowledge base with the categories of one more source, which are marked
with its number. -/
def append (kb : KnowledgeBase) (categories : List Category) : KnowledgeBase where
  categories := kb.categories ++ categories.map ({ · with source := kb.sources })
  sources := kb.sources + 1

/-- The number of categories. -/
def size (kb : KnowledgeBase) : Nat := kb.categories.length

/-- A new source goes behind the old ones. -/
theorem categories_append (kb : KnowledgeBase) (categories : List Category) :
    (kb.append categories).categories =
      kb.categories ++ categories.map ({ · with source := kb.sources }) := rfl

end KnowledgeBase

end Dialogue
