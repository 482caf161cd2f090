import Dialogue.Proofs.Category.Grouping
import Dialogue.Proofs.Choice
import Dialogue.Proofs.Session.Turns

/-!
# Documents that are grouped in another way

A knowledge base keeps from a document nothing but its categories in their order, and the number of
the source that they are from.  How categories are divided among documents shows in these numbers
only, and the work on a question never looks at them.

Main results:

- Theorem `KnowledgeBase.unsourced_foldl_append`: the categories of several sources.
- Theorem `unsourced_askEach`: questions are answered alike, apart from the numbers of sources.
- Theorem `regroup_documents`: what does not depend on the grouping of documents.
-/

namespace Dialogue

open Markup

/-! ## Numbers of sources -/

/-- A category without the number of its source. -/
def Category.unsourced (category : Category) : Category := { category with source := 0 }

/-- An answer without the number of the source that it is from. -/
def Answer.unsourced (answer : Answer) : Answer :=
  { answer with winner := answer.winner.map ({ · with source := 0 }) }

/-- The categories of a knowledge base without the numbers of their sources. -/
def KnowledgeBase.unsourced (kb : KnowledgeBase) : List Category :=
  kb.categories.map Category.unsourced

/-- Categories that differ in the number of their source only are the same rule. -/
theorem Category.sameRule_of_unsourced {category category' : Category}
    (h : category.unsourced = category'.unsourced) : category.SameRule category' := by
  rcases category with ⟨pattern, that, template, source⟩
  rcases category' with ⟨pattern', that', template', source'⟩
  cases h
  exact ⟨fun _ _ _ => rfl, fun _ _ _ => rfl, fun _ => rfl⟩

namespace KnowledgeBase

variable {kb kb' : KnowledgeBase}

/-- The categories of one more source go behind the others. -/
theorem unsourced_append (kb : KnowledgeBase) (categories : List Category) :
    (kb.append categories).unsourced = kb.unsourced ++ categories.map Category.unsourced := by
  rw [unsourced, categories_append, List.map_append, List.map_map]
  rfl

/-- The categories of several sources go behind the others, one source after the other. -/
theorem unsourced_foldl_append (kb : KnowledgeBase) (sources : List (List Category)) :
    (sources.foldl append kb).unsourced =
      kb.unsourced ++ sources.flatten.map Category.unsourced := by
  induction sources generalizing kb with
  | nil => simp
  | cons categories sources ih =>
    rw [List.foldl_cons, ih, unsourced_append, List.flatten_cons, List.map_append,
      List.append_assoc]

/-- Knowledge bases that differ in the numbers of sources only have the same rules. -/
theorem forall₂_sameRule (h : kb.unsourced = kb'.unsourced) :
    List.Forall₂ Category.SameRule kb.categories kb'.categories := by
  have hsame : List.Forall₂ Eq kb.unsourced kb'.unsourced := by
    rw [h]
    exact List.forall₂_refl _
  rw [unsourced, unsourced, List.forall₂_map_left_iff, List.forall₂_map_right_iff] at hsame
  exact hsame.imp fun _ _ heq => Category.sameRule_of_unsourced heq

/-- What is reported of a winner shows the number of its source, but else nothing of it. -/
theorem summary?_unsourced (h : kb.unsourced = kb'.unsourced) (resolution : Resolution) :
    (kb.summary? resolution).map ({ · with source := 0 }) =
      (kb'.summary? resolution).map ({ · with source := 0 }) := by
  unfold summary?
  cases resolution.winner with
  | none => rfl
  | some index =>
    have hcategory : kb.categories[index]?.map Category.unsourced =
        kb'.categories[index]?.map Category.unsourced := by
      rw [← List.getElem?_map, ← List.getElem?_map]
      exact congrArg (·[index]?) h
    cases hfound : kb.categories[index]? with
    | none =>
      rw [hfound] at hcategory
      have hfound' : kb'.categories[index]? = none := Option.map_eq_none_iff.1 hcategory.symm
      simp [hfound, hfound']
    | some category =>
      rw [hfound, Option.map_some] at hcategory
      rcases Option.map_eq_some_iff.1 hcategory.symm with ⟨category', hfound', hsame⟩
      have hpattern : category'.pattern = category.pattern :=
        (congrArg Category.pattern hsame :)
      have hthat : category'.that = category.that := (congrArg Category.that hsame :)
      simp [hfound, hfound', hpattern, hthat]

end KnowledgeBase

/-! ## Questions -/

variable {kb kb' : KnowledgeBase} {bot bot' : Bot}

/-- A question is answered alike by bots that differ in the numbers of sources only, and the session
is the same afterwards. -/
theorem unsourced_ask (hprofile : bot.profile = bot'.profile)
    (hknowledge : bot.knowledge.unsourced = bot'.knowledge.unsourced) (s : Session)
    (question : String) :
    (s.ask bot question).1.unsourced = (s.ask bot' question).1.unsourced ∧
      (s.ask bot question).2 = (s.ask bot' question).2 := by
  have hresolve := resolve_sameRule (KnowledgeBase.forall₂_sameRule hknowledge) bot'.profile
    s.options.maxRedirectDepth s.conversation question
  simp only [Session.ask, Session.answers, Choice.follow_bind_pure, hprofile, hresolve, and_true]
  simp only [Answer.unsourced, Answer.ofResolved, KnowledgeBase.summary?_unsourced hknowledge]

/-- Questions are answered alike by bots that differ in the numbers of sources only. -/
theorem unsourced_askEach (hprofile : bot.profile = bot'.profile)
    (hknowledge : bot.knowledge.unsourced = bot'.knowledge.unsourced) (s : Session)
    (questions : List String) :
    (s.askEach bot questions).1.map Answer.unsourced =
        (s.askEach bot' questions).1.map Answer.unsourced ∧
      (s.askEach bot questions).2 = (s.askEach bot' questions).2 := by
  induction questions generalizing s with
  | nil => exact ⟨rfl, rfl⟩
  | cons question questions ih =>
    rcases unsourced_ask hprofile hknowledge s question with ⟨hanswer, hafter⟩
    rcases ih (s.ask bot' question).2 with ⟨hanswers, hend⟩
    rw [Session.askEach_cons, Session.askEach_cons, hafter, List.map_cons, List.map_cons, hanswer,
      hanswers]
    exact ⟨rfl, hend⟩

/-! ## Documents -/

/-- The bot with the categories of some documents, each of which is a source of its own, behind
those that it has. -/
def Bot.withDocuments (bot : Bot) (documents : List Element) : Bot :=
  { bot with knowledge := (documents.map categoriesIn).foldl KnowledgeBase.append bot.knowledge }

/-- The categories of documents are those of the documents one after the other. -/
theorem unsourced_withDocuments (bot : Bot) (documents : List Element) :
    (bot.withDocuments documents).knowledge.unsourced =
      bot.knowledge.unsourced ++ (documents.flatMap categoriesIn).map Category.unsourced := by
  rw [Bot.withDocuments, KnowledgeBase.unsourced_foldl_append, List.flatMap_def]

/-- The categories of a document are its outermost category elements that have a pattern, in the
order of the document.  It does not matter for them whether some nodes outside categories are
wrapped in another element that is not called a category.  If several documents have the categories
of the document one after the other, then a bot with these documents has the same categories in the
same order, apart from the numbers of their sources, and it answers every list of questions in every
session alike. -/
theorem regroup_documents (document : Element) :
    (∃ places : List (List Nat × Element),
      InOrder places ∧
      (∀ path category, (path, category) ∈ places ↔ Outermost document path category) ∧
      categoriesIn document = places.filterMap fun place => Category.ofElement? place.2) ∧
    (∀ element : Element, (Category.ofElement? element).isSome = true ↔
      ∃ child ∈ element.elements, child.is "pattern" = true) ∧
    (∀ (tag : String) (attributes : Attributes) (run : List Node) (tags : List String)
      (document' : Element), Element.sameTag tag "category" = false →
      Element.Differs run [.element (.mk tag attributes run)] tags document document' →
      (∀ outer ∈ tags.dropLast, Element.sameTag outer "category" = false) →
      categoriesIn document' = categoriesIn document) ∧
    ∀ documents : List Element, documents.flatMap categoriesIn = categoriesIn document →
      ∀ bot : Bot,
        (bot.withDocuments documents).knowledge.categories.map Category.unsourced =
            (bot.withDocuments [document]).knowledge.categories.map Category.unsourced ∧
          ∀ (s : Session) (questions : List String),
            (s.askEach (bot.withDocuments documents) questions).1.map Answer.unsourced =
                (s.askEach (bot.withDocuments [document]) questions).1.map Answer.unsourced ∧
              (s.askEach (bot.withDocuments documents) questions).2 =
                (s.askEach (bot.withDocuments [document]) questions).2 := by
  refine ⟨⟨placesIn document, inOrder_placesIn document, fun _ _ => mem_placesIn_iff document,
    categoriesIn_eq document⟩, fun _ => isSome_ofElement?_iff,
    fun _ _ _ _ _ htag h houtside => categoriesIn_wrap htag h houtside, ?_⟩
  intro documents hdocuments bot
  have hknowledge : (bot.withDocuments documents).knowledge.unsourced =
      (bot.withDocuments [document]).knowledge.unsourced := by
    rw [unsourced_withDocuments, unsourced_withDocuments, hdocuments, List.flatMap_singleton]
  have hprofile : (bot.withDocuments documents).profile =
      (bot.withDocuments [document]).profile := rfl
  exact ⟨hknowledge, fun s questions => unsourced_askEach hprofile hknowledge s questions⟩

/-- A category element that answers a word. -/
def answersWord (word answer : String) : Node :=
  .element (.mk "category" [] [.element (.mk "pattern" [] [.text word]),
    .element (.mk "template" [] [.text answer])])

/-- Three categories, the second of which belongs to a topic. -/
def countingDocument : Element :=
  .mk "" [] [.element (.mk "aiml" [] [answersWord "ONE" "1",
    .element (.mk "topic" [("name", "x")] [answersWord "TWO" "2"]), answersWord "ONE" "3"])]

/-- The same categories in two documents, without a topic. -/
def countingDocuments : List Element :=
  [.mk "" [] [answersWord "ONE" "1"], .mk "" [] [answersWord "TWO" "2", answersWord "ONE" "3"]]

/-- A session that begins with nothing but zeros. -/
def countingSession : Session := .fresh {} ⟨fun _ => 0, 0⟩

/-- The categories are the same in both, and so are the answers but for the number of the source. -/
theorem regroup_documents_counting :
    countingDocuments.flatMap categoriesIn = categoriesIn countingDocument ∧
    (let divided := countingSession.askEach ((Bot.new .empty).withDocuments countingDocuments)
        ["one?", "two?"]
      let whole := countingSession.askEach ((Bot.new .empty).withDocuments [countingDocument])
        ["one?", "two?"]
      divided.1.map Answer.unsourced = whole.1.map Answer.unsourced ∧
        divided.1.map Answer.answer = [some "1", some "2"] ∧
        divided.1.map (·.winner.map MatchSummary.source) = [some 0, some 1] ∧
        whole.1.map (·.winner.map MatchSummary.source) = [some 0, some 0]) := by
  have hsame : countingDocuments.flatMap categoriesIn = categoriesIn countingDocument := rfl
  rcases regroup_documents countingDocument with ⟨-, -, -, hdocuments⟩
  have hanswers := (hdocuments countingDocuments hsame (.new .empty)).2 countingSession
    ["one?", "two?"]
  exact ⟨hsame, hanswers.1, by decide +kernel, by decide +kernel, by decide +kernel⟩

end Dialogue
