import Dialogue.Proofs.Resolution.Ending
import Dialogue.Proofs.Resolution.Shelf
import Mathlib.Order.Bounds.Basic
import Mathlib.Order.Lattice.Nat

/-!
# What a scan should do

A category takes a question if the text of its pattern matches the question and, if it asks for
a previous answer, the text of that wording matches the previous answer.  The references in both
stand for what they stand for when the scan begins.  A scan evaluates the category at the least
position whose category takes the question.  Before that it counts the categories up to this one
as tried, and those of them as rejected whose pattern matches but whose wording for the previous
answer does not.

This says nothing about patterns that are kept, nor about an order in which anything is looked at.

Main results:

- Theorem `survey_of_isLeast`, `survey_of_takes_nobody`: what trying the categories comes to.
- Theorem `KeptCategory.pattern_captures?`: the captures of a category on a shelf.
- Theorem `scanShelf_isReference`: a scan does what it should, however it finds the shelf.
-/

namespace Dialogue

variable {kb : KnowledgeBase} {profile : Bindings} {conversation : Conversation}
  {question : String}

/-! ## How a category takes a question -/

namespace Category

/-- The category takes the question with these captures. -/
def Takes (category : Category) (profile : Bindings) (conversation : Conversation)
    (question : String) (captures : List String) : Prop :=
  matchText question (category.pattern.render profile conversation.vars) = some captures ∧
    ∀ that ∈ category.that,
      (matchText conversation.previousAnswer (that.render profile conversation.vars)).isSome

/-- The pattern of the category matches the question, but the previous answer is not the one
that the category asks for. -/
def Rejects (category : Category) (profile : Bindings) (conversation : Conversation)
    (question : String) : Prop :=
  (matchText question (category.pattern.render profile conversation.vars)).isSome ∧
    ∃ that ∈ category.that,
      matchText conversation.previousAnswer (that.render profile conversation.vars) = none

instance (category : Category) (profile : Bindings) (conversation : Conversation)
    (question : String) : Decidable (category.Rejects profile conversation question) :=
  inferInstanceAs (Decidable (_ ∧ _))

variable {category : Category}

/-- A category takes a question exactly if the verdict on it says so. -/
theorem takes_iff {captures : List String} :
    category.Takes profile conversation question captures ↔
      category.verdict profile conversation question = .matched captures := by
  unfold Takes verdict Wording.captures?
  cases matchText question (category.pattern.render profile conversation.vars) with
  | none => simp
  | some found =>
    cases category.that with
    | none => simp
    | some that =>
      cases hthat : matchText conversation.previousAnswer (that.render profile conversation.vars)
        with
      | none => simp [hthat]
      | some _ => simp [hthat]

/-- A category rejects a question exactly if the verdict on it says so. -/
theorem rejects_iff :
    category.Rejects profile conversation question ↔
      category.verdict profile conversation question = .rejected := by
  unfold Rejects verdict Wording.captures?
  cases matchText question (category.pattern.render profile conversation.vars) with
  | none => simp
  | some found =>
    cases category.that with
    | none => simp
    | some that =>
      cases hthat : matchText conversation.previousAnswer (that.render profile conversation.vars)
        with
      | none => simp [hthat]
      | some _ => simp [hthat]

end Category

/-! ## Trying the categories -/

/-- How many of some categories reject a question. -/
def rejections (profile : Bindings) (conversation : Conversation) (question : String)
    (categories : List Category) : Nat :=
  categories.countP (·.Rejects profile conversation question)

/-- A category in front is one more rejection if it rejects the question. -/
theorem rejections_cons (category : Category) (categories : List Category) :
    rejections profile conversation question (category :: categories) =
      rejections profile conversation question categories +
        if category.verdict profile conversation question = .rejected then 1 else 0 := by
  rw [rejections, List.countP_cons, rejections]
  exact congrArg _ (if_congr (decide_eq_true_iff.trans Category.rejects_iff) rfl rfl)

/-- All categories up to the one that wins are tried. -/
theorem survey_of_isFirst {winner : Winner} {categories : List Category} {start offset : Nat}
    (hindex : winner.index = start + offset)
    (hfirst : winner.IsFirst profile conversation question categories offset) :
    survey profile conversation question start categories =
      ⟨offset + 1, rejections profile conversation question (categories.take offset),
        some winner⟩ := by
  induction categories generalizing start offset with
  | nil => cases hfirst.category
  | cons category categories ih =>
    cases offset with
    | zero =>
      cases hfirst.category
      have hstart : start = winner.index := hindex.symm
      rw [hstart]
      exact survey_cons_of_matched winner.index categories hfirst.matched
    | succ offset =>
      have hrest : winner.IsFirst profile conversation question categories offset :=
        ⟨hfirst.category, hfirst.matched,
          fun index hlt => hfirst.first (index + 1) (Nat.succ_lt_succ hlt)⟩
      have hnext : winner.index = start + 1 + offset := by omega
      have hlater := ih hnext hrest
      unfold survey
      rw [hlater, List.take_succ_cons, rejections_cons]
      cases hverdict : category.verdict profile conversation question with
      | matched captures =>
        exact absurd hverdict (hfirst.first 0 (Nat.zero_lt_succ offset) category rfl captures)
      | rejected => rfl
      | unmatched => rfl

/-- If no category takes the question, then all of them are tried. -/
theorem survey_of_takes_nobody {categories : List Category} (start : Nat)
    (hnobody : ∀ category ∈ categories, ∀ captures,
      ¬ category.Takes profile conversation question captures) :
    survey profile conversation question start categories =
      ⟨categories.length, rejections profile conversation question categories, none⟩ := by
  induction categories generalizing start with
  | nil => rfl
  | cons category categories ih =>
    rw [List.forall_mem_cons] at hnobody
    unfold survey
    rw [ih (start + 1) hnobody.2, List.length_cons, rejections_cons]
    cases hverdict : category.verdict profile conversation question with
    | matched captures => exact absurd (Category.takes_iff.2 hverdict) (hnobody.1 captures)
    | rejected => rfl
    | unmatched => rfl

/-- The positions of the categories that take a question. -/
def KnowledgeBase.takers (kb : KnowledgeBase) (profile : Bindings) (conversation : Conversation)
    (question : String) : Set Nat :=
  {index | ∃ category ∈ kb.categories[index]?, ∃ captures,
    category.Takes profile conversation question captures}

/-- If the category at the least position takes the question with some captures, then it is the
first one that does. -/
theorem Winner.isFirst_of_isLeast {winner : Winner}
    (hleast : IsLeast (kb.takers profile conversation question) winner.index)
    (hcategory : kb.categories[winner.index]? = some winner.category)
    (htakes : winner.category.Takes profile conversation question winner.captures) :
    kb.Wins profile conversation question winner where
  category := hcategory
  matched := Category.takes_iff.1 htakes
  first := by
    intro index hlt rival hrival captures hmatched
    have hmem : index ∈ kb.takers profile conversation question :=
      ⟨rival, hrival, captures, Category.takes_iff.2 hmatched⟩
    exact absurd (hleast.2 hmem) (Nat.not_le.2 hlt)

/-- No position has a category that takes the question exactly if no category takes it. -/
theorem KnowledgeBase.takers_eq_empty_iff :
    kb.takers profile conversation question = ∅ ↔ ∀ category ∈ kb.categories, ∀ captures,
      ¬ category.Takes profile conversation question captures := by
  rw [Set.eq_empty_iff_forall_notMem]
  constructor
  · intro hempty category hcategory captures htakes
    obtain ⟨index, hindex⟩ := List.mem_iff_getElem?.1 hcategory
    exact hempty index ⟨category, hindex, captures, htakes⟩
  · rintro hnobody index ⟨category, hcategory, captures, htakes⟩
    exact hnobody category (List.mem_of_getElem? hcategory) captures htakes

/-! ## Patterns that are kept -/

/-- Whatever is kept of its patterns, the wordings of a category take what the patterns of their
texts take that are made anew. -/
structure KeptCategory.IsFresh (c : KeptCategory) : Prop where
  pattern : ∀ profile vars input,
    c.pattern.captures? profile vars input = matchText input (c.pattern.wording.render profile vars)
  that : ∀ that ∈ c.that, ∀ profile vars input,
    that.captures? profile vars input = matchText input (that.wording.render profile vars)

/-- So it is for every category on a shelf. -/
theorem KeptCategory.isFresh (c : KeptCategory) : c.IsFresh where
  pattern := c.pattern.captures?_eq
  that := fun that _ => that.captures?_eq

/-- The categories in order, before any pattern has been needed. -/
def Shelf.unread (categories : List Category) : Shelf := categories.map KeptCategory.unread

/-- They are the categories that have been put on the shelf. -/
@[simp] theorem Shelf.categories_unread (categories : List Category) :
    (Shelf.unread categories).categories = categories := by
  rw [Shelf.unread, Shelf.categories, List.map_map]
  exact List.map_id'' KeptCategory.category_unread categories

/-! ## The reference -/

namespace Request

/-- The request after categories have been tried at a depth, some of which rejected the
question. -/
def tried (request : Request) (depth count rejected : Nat) : Request :=
  { request with metrics := { request.metrics with
      tried := request.metrics.tried + count
      thatRejections := request.metrics.thatRejections + rejected
      maxDepth := max request.metrics.maxDepth depth } }

end Request

/-- What a scan for a question at a depth should do, if `answer` answers nested questions: from
`request` it should go on as `run`. -/
structure IsReferenceScan (kb : KnowledgeBase) (profile : Bindings)
    (answer : String → Action String) (depth : Nat) (question : String) (request : Request)
    (run : Choice (Option Hit × Request)) : Prop where
  /-- The category at the least position that takes the question is evaluated, with the captures
  with which it takes it, after it and all those before it have been tried. -/
  found : ∀ index, IsLeast (kb.takers profile request.conversation question) index →
    ∃ category captures, kb.categories[index]? = some category ∧
      category.Takes profile request.conversation question captures ∧
      run = do
        let out ← (evaluateWinner profile depth answer ⟨index, category, captures⟩).run
          (request.tried depth (index + 1)
            (rejections profile request.conversation question (kb.categories.take index)))
        return (some out.1, out.2)
  /-- If no category takes the question, then all are tried and none is evaluated. -/
  missed : kb.takers profile request.conversation question = ∅ →
    run = pure (none, request.tried depth kb.size
      (rejections profile request.conversation question kb.categories))
  /-- Nothing is found exactly if no category takes the question. -/
  none_iff : ∀ draws, (run.follow draws).1.1 = none ↔
    kb.takers profile request.conversation question = ∅

/-- The scan with the limit on nesting does what it should. -/
theorem scan_isReference {levels depth : Nat} {request : Request}
    (hlimit : request.metrics.limitHit = false) :
    IsReferenceScan kb profile (redirect (scan kb profile levels (depth + 1))) depth question
      request ((scan kb profile (levels + 1) depth question).run request) := by
  have hmissed (hempty : kb.takers profile request.conversation question = ∅) :
      (scan kb profile (levels + 1) depth question).run request =
        pure (none, request.tried depth kb.size
          (rejections profile request.conversation question kb.categories)) := by
    have hsurvey := survey_of_takes_nobody 0 (KnowledgeBase.takers_eq_empty_iff.1 hempty)
    rw [scan_of_no_winner hlimit (by rw [hsurvey]), Request.tryCategories, hsurvey]
    rfl
  have hfound (index : Nat)
      (hleast : IsLeast (kb.takers profile request.conversation question) index) :
      ∃ category captures, kb.categories[index]? = some category ∧
        category.Takes profile request.conversation question captures ∧
        (scan kb profile (levels + 1) depth question).run request = do
          let out ← (evaluateWinner profile depth (redirect (scan kb profile levels (depth + 1)))
            ⟨index, category, captures⟩).run (request.tried depth (index + 1)
              (rejections profile request.conversation question (kb.categories.take index)))
          return (some out.1, out.2) := by
    obtain ⟨category, hcategory, captures, htakes⟩ := hleast.1
    let winner : Winner := ⟨index, category, captures⟩
    have hfirst : kb.Wins profile request.conversation question winner :=
      Winner.isFirst_of_isLeast hleast hcategory htakes
    have hsurvey := survey_of_isFirst (Nat.zero_add index).symm hfirst
    refine ⟨category, captures, hcategory, htakes, ?_⟩
    rw [scan_of_winner hlimit (by rw [hsurvey]), Request.tryCategories, hsurvey]
    rfl
  refine ⟨hfound, hmissed, fun draws => ?_⟩
  rcases Set.eq_empty_or_nonempty (kb.takers profile request.conversation question) with
    hempty | hnonempty
  · rw [hmissed hempty]
    exact ⟨fun _ => hempty, fun _ => rfl⟩
  · obtain ⟨category, captures, -, -, hrun⟩ :=
      hfound _ ⟨Nat.sInf_mem hnonempty, fun _ => Nat.sInf_le⟩
    have hsome : (((scan kb profile (levels + 1) depth question).run request).follow draws).1.1 ≠
        none := by
      rw [hrun, Choice.follow_bind_pure]
      exact Option.some_ne_none _
    exact iff_of_false hsome hnonempty.ne_empty

/-- Whatever patterns have been read before, and whatever patterns are read by others while a
scan runs: in a request for which the limit has not been exceeded, a scan at a depth within the
limit does what it should, and what is kept of the patterns makes no difference to what they
take. -/
theorem scanShelf_isReference (kb : KnowledgeBase) (places : Nat → List ShelfPlace)
    (profile : Bindings) {limit depth : Nat} (question : String) {request : Request}
    (hlimit : request.metrics.limitHit = false) (hdepth : depth ≤ limit) :
    let found : Nat → Shelf := fun number =>
      (Shelf.unread kb.categories).lookUpAll (places number)
    IsReferenceScan kb profile (redirect (scanShelf found profile (limit - depth) (depth + 1)))
        depth question request
        ((scanShelf found profile (limit + 1 - depth) depth question).run request) ∧
      ∀ number, ∀ c ∈ found number, c.IsFresh := by
  intro found
  have hfound (number : Nat) : (found number).categories = kb.categories := by
    rw [Shelf.categories_lookUpAll, Shelf.categories_unread]
  refine ⟨?_, fun _ c _ => c.isFresh⟩
  rw [scanShelf_eq hfound, scanShelf_eq hfound, Nat.sub_add_comm hdepth]
  exact scan_isReference hlimit

/-- A request for "Hi Ann" one level deep, when one more level is allowed.  The pattern of the
second rule has been read before. -/
theorem scanShelf_isReference_nested :
    let greeting : Wording := ⟨[.text "HI *"]⟩
    let kb : KnowledgeBase :=
      ⟨[⟨greeting, some ⟨[.text "WHO ARE YOU"]⟩, [.text "I see"], 0⟩,
        ⟨greeting, none, [.text "Hello ", .star], 0⟩], 1⟩
    let found : Nat → Shelf := fun _ =>
      (Shelf.unread kb.categories).lookUpAll [⟨1, .pattern⟩]
    let request : Request := { conversation := .start .empty }
    request.metrics.limitHit = false ∧ 1 ≤ 2 ∧
      IsReferenceScan kb .empty (redirect (scanShelf found .empty (2 - 1) (1 + 1))) 1 "Hi Ann"
        request ((scanShelf found .empty (2 + 1 - 1) 1 "Hi Ann").run request) ∧
      ∀ number, ∀ c ∈ found number, c.IsFresh :=
  ⟨rfl, by decide, scanShelf_isReference _ (fun _ => [⟨1, .pattern⟩]) _ _ rfl (by decide)⟩

-- The second rule wins: two categories have been tried, and the first of them was rejected.
example :
    let greeting : Wording := ⟨[.text "HI *"]⟩
    let kb : KnowledgeBase :=
      ⟨[⟨greeting, some ⟨[.text "WHO ARE YOU"]⟩, [.text "I see"], 0⟩,
        ⟨greeting, none, [.text "Hello ", .star], 0⟩], 1⟩
    let out := (((scan kb .empty 2 1 "Hi Ann").run { conversation := .start .empty }).follow
      ⟨fun _ => 0, 0⟩).1
    out.1 = some ⟨1, ["Ann"], some "Hello Ann"⟩ ∧ out.2.metrics = ⟨2, 1, 0, 1, false⟩ := by
  decide +kernel

end Dialogue
