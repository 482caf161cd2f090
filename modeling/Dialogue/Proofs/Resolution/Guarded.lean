import Dialogue.Resolution.Evaluation

/-!
# Comparing evaluations under a guard

A template is evaluated by few kinds of steps: it returns texts that are made from others,
reads and binds variables, takes captures, chooses, and asks nested questions.  A relation on
evaluations that holds for the single steps and is kept by sequencing holds for the evaluation
of every template.  There may be a guard: a test that all fragments of the template pass, and a
class of texts to which all results belong.

Main results:

- Theorem `Fragment.every_true`: without a test every fragment passes.
- Theorem `GuardedComparison.respond`: the answers of a template whose fragments pass the test
  are related in two settings whose steps are.
-/

namespace Dialogue

/-! ## Fragments inside of fragments -/

mutual

/-- Whether a fragment and all fragments inside of it pass a test. -/
def Fragment.every (test : Fragment → Bool) : Fragment → Bool
  | .text content => test (.text content)
  | .get name => test (.get name)
  | .set name value => test (.set name value) && Fragment.everyOf test value
  | .bot name => test (.bot name)
  | .star => test .star
  | .starAnswer => test .starAnswer
  | .redirect question => test (.redirect question) && Fragment.everyOf test question
  | .random alternatives => test (.random alternatives) && Fragment.everyOf test alternatives
  | .firstOf branches => test (.firstOf branches) && Branch.everyOf test branches
  | .onlyIf name value content =>
    test (.onlyIf name value content) && Fragment.everyOf test content
  | .select name branches => test (.select name branches) && Branch.everyOf test branches
  | .recase casing content => test (.recase casing content) && Fragment.everyOf test content
  | .lineBreak => test .lineBreak
  | .think content => test (.think content) && Fragment.everyOf test content
  | .item content => test (.item content) && Fragment.everyOf test content
  | .group content => test (.group content) && Fragment.everyOf test content
  | .markup tag attributes content =>
    test (.markup tag attributes content) && Fragment.everyOf test content

/-- Whether all fragments of a list and inside of it pass a test. -/
def Fragment.everyOf (test : Fragment → Bool) : List Fragment → Bool
  | [] => true
  | fragment :: fragments => Fragment.every test fragment && Fragment.everyOf test fragments

/-- Whether all fragments inside of branches pass a test. -/
def Branch.everyOf (test : Fragment → Bool) : List Branch → Bool
  | [] => true
  | .mk _ _ content :: branches => Fragment.everyOf test content && Branch.everyOf test branches

end

mutual

/-- Without a test every fragment passes. -/
theorem Fragment.every_true : ∀ fragment : Fragment, fragment.every (fun _ => true) = true
  | .text _ | .get _ | .bot _ | .star | .starAnswer | .lineBreak => by simp only [Fragment.every]
  | .set _ content | .redirect content | .random content | .onlyIf _ _ content
  | .recase _ content | .think content | .item content | .group content
  | .markup _ _ content => by
    simp only [Fragment.every, Fragment.everyOf_true content, Bool.and_self]
  | .firstOf branches | .select _ branches => by
    simp only [Fragment.every, Branch.everyOf_true branches, Bool.and_self]

/-- Without a test all fragments pass. -/
theorem Fragment.everyOf_true :
    ∀ fragments : List Fragment, Fragment.everyOf (fun _ => true) fragments = true
  | [] => by simp only [Fragment.everyOf]
  | fragment :: fragments => by
    simp only [Fragment.everyOf, Fragment.every_true fragment, Fragment.everyOf_true fragments,
      Bool.and_self]

/-- Without a test all branches pass. -/
theorem Branch.everyOf_true :
    ∀ branches : List Branch, Branch.everyOf (fun _ => true) branches = true
  | [] => by simp only [Branch.everyOf]
  | .mk _ _ content :: branches => by
    simp only [Branch.everyOf, Fragment.everyOf_true content, Branch.everyOf_true branches,
      Bool.and_self]

end

/-! ## Classes of texts -/

/-- A kind of results that are made of texts. -/
class MadeOfTexts (α : Type) where
  /-- Whether all texts of a result are in a class. -/
  Meets : (String → Prop) → α → Prop
  /-- The class of all texts does not exclude a result. -/
  meets_of_forall : ∀ {good : String → Prop}, (∀ text, good text) → ∀ a, Meets good a

export MadeOfTexts (Meets)

/-- A text is its own text. -/
instance : MadeOfTexts String where
  Meets good text := good text
  meets_of_forall hall text := hall text

/-- An answer has a text, or none. -/
instance : MadeOfTexts (Option String) where
  Meets good answer := ∀ text ∈ answer, good text
  meets_of_forall hall _ text _ := hall text

/-- The texts of bindings are what names stand for. -/
instance : MadeOfTexts Bindings where
  Meets good b := ∀ name, good (b.get name)
  meets_of_forall hall b name := hall (b.get name)

/-- A number has no text. -/
instance (n : Nat) : MadeOfTexts (Fin n) where
  Meets _ _ := True
  meets_of_forall _ _ := trivial

/-- A class of texts that contains the texts of the fragments that pass a test, and what
templates make of the texts in it. -/
structure TextClass (test : Fragment → Bool) (good : String → Prop) : Prop where
  empty : good ""
  lineBreak : good "\n"
  append : ∀ {text text'}, good text → good text' → good (text ++ text')
  clean : ∀ {text}, good text → good (Text.clean text)
  recase : ∀ (casing : Text.Casing) {text}, good text → good (casing.apply text)
  text : ∀ content, test (.text content) = true → good content
  markup : ∀ tag attributes content, test (.markup tag attributes content) = true →
    ∀ {text}, good text → good (writeElement tag attributes text)

/-- Nothing leads out of the class of all texts. -/
theorem TextClass.all (test : Fragment → Bool) : TextClass test fun _ => True where
  empty := trivial
  lineBreak := trivial
  append _ _ := trivial
  clean _ := trivial
  recase _ _ _ := trivial
  text _ _ := trivial
  markup _ _ _ _ _ _ := trivial

/-! ## Equations -/

/-- Fragments other than a single template give the text of them all, or no answer
when they are all blank. -/
theorem respond_cons (setting : Setting) {fragment : Fragment} {fragments : List Fragment}
    (hother : ∀ content, fragment = .group content → fragments = [] → False) :
    respond setting (fragment :: fragments) =
      if fragment.isBlank && fragments.all Fragment.isBlank then pure none
      else do
        let text ← evaluateFragment setting fragment
        let rest ← concatenate setting fragments
        return answerOf (Text.clean (text ++ rest)) := by
  rw [respond.eq_3 _ _ _ hother]

/-- An alternative that is neither a list item nor a template is answered as it
stands. -/
theorem respondAt_zero (setting : Setting) {fragment : Fragment} (fragments : List Fragment)
    (hitem : ∀ content, fragment = .item content → False)
    (hgroup : ∀ content, fragment = .group content → False) :
    respondAt setting (fragment :: fragments) 0 =
      if fragment.isBlank then pure none
      else do
        let text ← evaluateFragment setting fragment
        return answerOf (Text.clean text) := by
  rw [respondAt.eq_5 _ _ _ hitem hgroup]

/-! ## Comparisons -/

/-- A relation between evaluations in two settings that holds for the single steps of an
evaluation and is kept by sequencing, as long as all fragments pass a test; all results are in
a class of texts. -/
structure GuardedComparison (test : Fragment → Bool) (good : String → Prop)
    (setting setting' : Setting)
    (Rel : (α : Type) → [MadeOfTexts α] → Evaluation α → Evaluation α → Prop) : Prop where
  texts : TextClass test good
  pure : ∀ {α : Type} [MadeOfTexts α] (a : α), Meets good a → Rel α (pure a) (pure a)
  bind : ∀ {α β : Type} [MadeOfTexts α] [MadeOfTexts β] {x y : Evaluation α}
    {f g : α → Evaluation β},
    Rel α x y → (∀ a, Meets good a → Rel β (f a) (g a)) → Rel β (x >>= f) (y >>= g)
  profile : setting.profile = setting'.profile
  botText : ∀ name, good (setting.profile.get name)
  vars : Rel Bindings Evaluation.vars Evaluation.vars
  readWildcard : Rel String Evaluation.readWildcard Evaluation.readWildcard
  takeCapture : Rel String (Evaluation.takeCapture setting.depth)
    (Evaluation.takeCapture setting'.depth)
  write : ∀ name {value}, good value →
    Rel String (Evaluation.write name value) (Evaluation.write name value)
  among : ∀ {alternatives n}, test (.random alternatives) = true → alternatives.length = n + 1 →
    Rel (Fin (n + 1)) (Choice.among n) (Choice.among n)
  answer : ∀ {question}, good question → Rel String (Evaluation.onRequest (setting.answer question))
    (Evaluation.onRequest (setting'.answer question))

namespace GuardedComparison

variable {test : Fragment → Bool} {good : String → Prop} {setting setting' : Setting}
  {Rel : (α : Type) → [MadeOfTexts α] → Evaluation α → Evaluation α → Prop}

/-- Results may be changed within the class after related evaluations. -/
theorem map (h : GuardedComparison test good setting setting' Rel) {α β : Type} [MadeOfTexts α]
    [MadeOfTexts β] {x y : Evaluation α} {f : α → β} (hf : ∀ a, Meets good a → Meets good (f a))
    (hxy : Rel α x y) : Rel β (f <$> x) (f <$> y) := by
  rw [map_eq_pure_bind, map_eq_pure_bind]
  exact h.bind hxy fun a ha => h.pure (f a) (hf a ha)

/-- The text of an answer, or the empty text, is in the class. -/
theorem getD (h : GuardedComparison test good setting setting' Rel) {answer : Option String}
    (hanswer : Meets good answer) : good (answer.getD "") := by
  cases answer with
  | none => exact h.texts.empty
  | some text => exact hanswer text rfl

/-- A text in the class is an answer in the class. -/
theorem answerOf {text : String} (htext : good text) : Meets good (answerOf text) := by
  intro answer hanswer
  unfold Dialogue.answerOf at hanswer
  split at hanswer
  · cases hanswer
  · cases hanswer
    exact htext

/-- Texts may be cleaned after related evaluations. -/
theorem clean (h : GuardedComparison test good setting setting' Rel) {x y : Evaluation String}
    (hxy : Rel String x y) : Rel String (Text.clean <$> x) (Text.clean <$> y) :=
  h.map (fun _ htext => h.texts.clean htext) hxy

mutual

/-- The texts of a fragment are related. -/
theorem evaluateFragment (h : GuardedComparison test good setting setting' Rel) :
    ∀ fragment : Fragment, fragment.every test = true →
      Rel String (evaluateFragment setting fragment) (evaluateFragment setting' fragment)
  | .text content, hevery => by
    simp only [Dialogue.evaluateFragment]
    simp only [Fragment.every] at hevery
    exact h.pure content (h.texts.text content hevery)
  | .bot name, _ => by
    simp only [Dialogue.evaluateFragment, ← h.profile]
    exact h.pure _ (h.botText name)
  | .get name, _ => by
    simp only [Dialogue.evaluateFragment]
    exact h.bind h.vars fun vars hvars => h.pure _ (hvars name)
  | .set name value, hevery => by
    simp only [Dialogue.evaluateFragment]
    simp only [Fragment.every, Bool.and_eq_true] at hevery
    cases value.head? with
    | none => exact h.bind (h.pure "" h.texts.empty) fun _ htext => h.write name htext
    | some first =>
      by_cases hfirst : first.takesCapture = true
      · simp only [if_pos hfirst]
        exact h.bind h.takeCapture fun _ htext => h.write name htext
      · simp only [if_neg hfirst]
        exact h.bind (h.clean (concatenate h value hevery.2)) fun _ htext => h.write name htext
  | .star, _ => by
    simp only [Dialogue.evaluateFragment]
    exact h.readWildcard
  | .starAnswer, _ => by
    simp only [Dialogue.evaluateFragment]
    refine h.bind h.readWildcard fun question hquestion => ?_
    by_cases hempty : question = ""
    · simp only [if_pos hempty]
      exact h.pure "" h.texts.empty
    · simp only [if_neg hempty]
      exact h.answer hquestion
  | .redirect question, hevery => by
    simp only [Dialogue.evaluateFragment]
    simp only [Fragment.every, Bool.and_eq_true] at hevery
    exact h.bind (h.clean (concatenate h question hevery.2)) fun _ hquestion => h.answer hquestion
  | .random alternatives, hevery => by
    simp only [Dialogue.evaluateFragment]
    simp only [Fragment.every, Bool.and_eq_true] at hevery
    cases hlength : alternatives.length with
    | zero => exact h.pure "" h.texts.empty
    | succ n =>
      refine h.bind (h.among hevery.1 hlength) fun i _ => ?_
      exact h.bind (respondAt h alternatives i hevery.2) fun answer hanswer =>
        h.pure _ (h.getD hanswer)
  | .firstOf branches, hevery => by
    simp only [Dialogue.evaluateFragment]
    simp only [Fragment.every, Bool.and_eq_true] at hevery
    refine h.bind h.vars fun vars _ => ?_
    exact h.bind (respondFirst h _ branches hevery.2) fun answer hanswer =>
      h.pure _ (h.getD hanswer)
  | .onlyIf name value content, hevery => by
    simp only [Dialogue.evaluateFragment]
    simp only [Fragment.every, Bool.and_eq_true] at hevery
    refine h.bind h.vars fun vars _ => ?_
    by_cases hvalue : vars.get? name = some value
    · simp only [if_pos hvalue]
      exact h.clean (concatenate h content hevery.2)
    · simp only [if_neg hvalue]
      exact h.pure "" h.texts.empty
  | .select name branches, hevery => by
    simp only [Dialogue.evaluateFragment]
    simp only [Fragment.every, Bool.and_eq_true] at hevery
    exact h.bind h.vars fun vars _ => evaluateFirst h _ branches hevery.2
  | .recase casing content, hevery => by
    simp only [Dialogue.evaluateFragment]
    simp only [Fragment.every, Bool.and_eq_true] at hevery
    refine h.map (fun _ htext => ?_) (concatenate h content hevery.2)
    exact h.texts.recase casing (h.texts.clean htext)
  | .lineBreak, _ => by
    simp only [Dialogue.evaluateFragment]
    exact h.pure "\n" h.texts.lineBreak
  | .think content, hevery => by
    simp only [Dialogue.evaluateFragment]
    simp only [Fragment.every, Bool.and_eq_true] at hevery
    exact h.bind (concatenate h content hevery.2) fun _ _ => h.pure "" h.texts.empty
  | .item content, hevery => by
    simp only [Dialogue.evaluateFragment]
    simp only [Fragment.every, Bool.and_eq_true] at hevery
    exact h.clean (concatenate h content hevery.2)
  | .group content, hevery => by
    simp only [Dialogue.evaluateFragment]
    simp only [Fragment.every, Bool.and_eq_true] at hevery
    exact h.clean (concatenate h content hevery.2)
  | .markup tag attributes content, hevery => by
    simp only [Dialogue.evaluateFragment]
    simp only [Fragment.every, Bool.and_eq_true] at hevery
    refine h.map (fun _ htext => ?_) (concatenate h content hevery.2)
    exact h.texts.markup tag attributes content hevery.1 (h.texts.clean htext)

/-- The texts of a list of fragments are related. -/
theorem concatenate (h : GuardedComparison test good setting setting' Rel) :
    ∀ fragments, Fragment.everyOf test fragments = true →
      Rel String (concatenate setting fragments) (concatenate setting' fragments)
  | [], _ => by
    simp only [Dialogue.concatenate]
    exact h.pure "" h.texts.empty
  | fragment :: fragments, hevery => by
    simp only [Dialogue.concatenate]
    simp only [Fragment.everyOf, Bool.and_eq_true] at hevery
    refine h.bind (evaluateFragment h fragment hevery.1) fun text htext => ?_
    exact h.bind (concatenate h fragments hevery.2) fun rest hrest =>
      h.pure (text ++ rest) (h.texts.append htext hrest)

/-- The answers of a template are related. -/
theorem respond (h : GuardedComparison test good setting setting' Rel) :
    ∀ fragments, Fragment.everyOf test fragments = true →
      Rel (Option String) (respond setting fragments) (respond setting' fragments)
  | [], _ => by
    simp only [Dialogue.respond]
    exact h.pure none nofun
  | fragment :: fragments, hevery => by
    simp only [Fragment.everyOf, Bool.and_eq_true] at hevery
    by_cases hgroup : ∃ content, fragment = .group content ∧ fragments = []
    · rcases hgroup with ⟨content, rfl, rfl⟩
      simp only [Dialogue.respond]
      simp only [Fragment.every, Bool.and_eq_true] at hevery
      exact respond h content hevery.1.2
    · have hother : ∀ content, fragment = .group content → fragments = [] → False :=
        fun content hfragment hfragments => hgroup ⟨content, hfragment, hfragments⟩
      rw [respond_cons _ hother, respond_cons _ hother]
      cases fragment.isBlank && fragments.all Fragment.isBlank with
      | true => exact h.pure none nofun
      | false =>
        refine h.bind (evaluateFragment h fragment hevery.1) fun text htext => ?_
        refine h.bind (concatenate h fragments hevery.2) fun rest hrest => ?_
        exact h.pure _ (answerOf (h.texts.clean (h.texts.append htext hrest)))

/-- The answers of one of several alternatives are related. -/
theorem respondAt (h : GuardedComparison test good setting setting' Rel) :
    ∀ fragments i, Fragment.everyOf test fragments = true →
      Rel (Option String) (respondAt setting fragments i) (respondAt setting' fragments i)
  | [], _, _ => by
    simp only [Dialogue.respondAt]
    exact h.pure none nofun
  | _ :: fragments, i + 1, hevery => by
    simp only [Dialogue.respondAt]
    simp only [Fragment.everyOf, Bool.and_eq_true] at hevery
    exact respondAt h fragments i hevery.2
  | fragment :: fragments, 0, hevery => by
    simp only [Fragment.everyOf, Bool.and_eq_true] at hevery
    by_cases hitem : ∃ content, fragment = .item content
    · rcases hitem with ⟨content, rfl⟩
      simp only [Dialogue.respondAt]
      simp only [Fragment.every, Bool.and_eq_true] at hevery
      exact respond h content hevery.1.2
    by_cases hgroup : ∃ content, fragment = .group content
    · rcases hgroup with ⟨content, rfl⟩
      simp only [Dialogue.respondAt]
      simp only [Fragment.every, Bool.and_eq_true] at hevery
      exact respond h content hevery.1.2
    have hitem' : ∀ content, fragment = .item content → False :=
      fun content heq => hitem ⟨content, heq⟩
    have hgroup' : ∀ content, fragment = .group content → False :=
      fun content heq => hgroup ⟨content, heq⟩
    rw [respondAt_zero _ _ hitem' hgroup', respondAt_zero _ _ hitem' hgroup']
    cases fragment.isBlank with
    | true => exact h.pure none nofun
    | false =>
      exact h.bind (evaluateFragment h fragment hevery.1) fun text htext =>
        h.pure _ (answerOf (h.texts.clean htext))

/-- The answers of the first branch that is taken are related. -/
theorem respondFirst (h : GuardedComparison test good setting setting' Rel)
    (isTaken : Branch → Bool) :
    ∀ branches, Branch.everyOf test branches = true →
      Rel (Option String) (respondFirst setting isTaken branches)
        (respondFirst setting' isTaken branches)
  | [], _ => by
    simp only [Dialogue.respondFirst]
    exact h.pure none nofun
  | .mk name value content :: branches, hevery => by
    simp only [Dialogue.respondFirst]
    simp only [Branch.everyOf, Bool.and_eq_true] at hevery
    split
    · exact respond h content hevery.1
    · exact respondFirst h isTaken branches hevery.2

/-- The texts of the first branch that is taken are related. -/
theorem evaluateFirst (h : GuardedComparison test good setting setting' Rel)
    (isTaken : Branch → Bool) :
    ∀ branches, Branch.everyOf test branches = true →
      Rel String (evaluateFirst setting isTaken branches) (evaluateFirst setting' isTaken branches)
  | [], _ => by
    simp only [Dialogue.evaluateFirst]
    exact h.pure "" h.texts.empty
  | .mk name value content :: branches, hevery => by
    simp only [Dialogue.evaluateFirst]
    simp only [Branch.everyOf, Bool.and_eq_true] at hevery
    split
    · exact h.clean (concatenate h content hevery.1)
    · exact evaluateFirst h isTaken branches hevery.2

end

end GuardedComparison

end Dialogue
