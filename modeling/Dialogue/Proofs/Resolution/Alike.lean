import Dialogue.Proofs.Resolution.Scanning
import Mathlib.Data.List.Forall2

/-!
# Knowledge bases that cannot be told apart

Two categories cannot be told apart if their patterns match the same questions with the same
captures, if they ask for the same previous answers, and if their templates give the same answers.
A request does not tell knowledge bases with such categories apart, whatever sources they are
from.

Main results:

- Theorem `survey_alike`: categories at the same position win.
- Theorem `resolve_sameRule`: a request comes to the same, whatever the sources are.
- Theorem `resolve_alike`: the same for categories that are from the same sources.
-/

namespace Dialogue

/-- Categories that match alike and answer alike. -/
structure Category.Alike (category category' : Category) : Prop where
  pattern : ∀ profile vars question,
    category.pattern.captures? profile vars question =
      category'.pattern.captures? profile vars question
  that : ∀ profile vars answer,
    category.that.map (·.captures? profile vars answer) =
      category'.that.map (·.captures? profile vars answer)
  template : ∀ setting, respond setting category.template = respond setting category'.template
  source : category.source = category'.source

/-- A category cannot be told apart from itself. -/
theorem Category.Alike.refl (category : Category) : Alike category category :=
  ⟨fun _ _ _ => rfl, fun _ _ _ => rfl, fun _ => rfl, rfl⟩

instance : Std.Refl Category.Alike := ⟨Category.Alike.refl⟩

/-- Categories that match alike and answer alike, whatever sources they are from. -/
structure Category.SameRule (category category' : Category) : Prop where
  pattern : ∀ profile vars question,
    category.pattern.captures? profile vars question =
      category'.pattern.captures? profile vars question
  that : ∀ profile vars answer,
    category.that.map (·.captures? profile vars answer) =
      category'.that.map (·.captures? profile vars answer)
  template : ∀ setting, respond setting category.template = respond setting category'.template

/-- Categories that cannot be told apart are the same rule. -/
theorem Category.Alike.sameRule {category category' : Category} (h : category.Alike category') :
    category.SameRule category' :=
  ⟨h.pattern, h.that, h.template⟩

/-- Categories that match alike win alike. -/
structure Winner.Alike (winner winner' : Winner) : Prop where
  index : winner.index = winner'.index
  captures : winner.captures = winner'.captures
  category : winner.category.SameRule winner'.category

variable {profile : Bindings} {question : String}

/-- Categories that match alike take a question alike. -/
theorem Category.SameRule.verdict {category category' : Category} (h : category.SameRule category')
    (conversation : Conversation) :
    category.verdict profile conversation question =
      category'.verdict profile conversation question := by
  have hthat := h.that profile conversation.vars conversation.previousAnswer
  unfold Category.verdict
  rw [h.pattern]
  cases hcategory : category.that with
  | none =>
    cases hcategory' : category'.that with
    | none => rfl
    | some that' => simp [hcategory, hcategory'] at hthat
  | some that =>
    cases hcategory' : category'.that with
    | none => simp [hcategory, hcategory'] at hthat
    | some that' =>
      have hcaptures : that.captures? profile conversation.vars conversation.previousAnswer =
          that'.captures? profile conversation.vars conversation.previousAnswer := by
        simpa [hcategory, hcategory'] using hthat
      simp only [hcaptures]

/-- Of categories that match alike, those at the same position are tried, ruled out and win. -/
theorem survey_alike {categories categories' : List Category}
    (h : List.Forall₂ Category.SameRule categories categories') (profile : Bindings)
    (conversation : Conversation) (question : String) (index : Nat) :
    (survey profile conversation question index categories).tried =
        (survey profile conversation question index categories').tried ∧
      (survey profile conversation question index categories).rejected =
        (survey profile conversation question index categories').rejected ∧
      Option.Rel Winner.Alike (survey profile conversation question index categories).winner
        (survey profile conversation question index categories').winner := by
  induction h generalizing index with
  | nil => exact ⟨rfl, rfl, .none⟩
  | @cons category category' categories categories' hfirst _ ih =>
    unfold survey
    rw [hfirst.verdict conversation]
    cases category'.verdict profile conversation question with
    | matched captures => exact ⟨rfl, rfl, .some ⟨rfl, rfl, hfirst⟩⟩
    | rejected =>
      rcases ih (index + 1) with ⟨htried, hrejected, hwinner⟩
      exact ⟨congrArg (· + 1) htried, congrArg (· + 1) hrejected, hwinner⟩
    | unmatched =>
      rcases ih (index + 1) with ⟨htried, hrejected, hwinner⟩
      exact ⟨congrArg (· + 1) htried, hrejected, hwinner⟩

/-- Categories that answer alike are evaluated alike. -/
theorem evaluateWinner_alike {winner winner' : Winner} (h : winner.Alike winner') (depth : Nat)
    (answer : String → Action String) :
    evaluateWinner profile depth answer winner = evaluateWinner profile depth answer winner' := by
  refine StateT.ext fun request => ?_
  have hbegin : request.begin depth winner = request.begin depth winner' := by
    rw [Request.begin, Request.begin, h.index, h.captures]
  rw [evaluateWinner_run, evaluateWinner_run, hbegin, h.index, h.captures, h.category.template]

variable {kb kb' : KnowledgeBase}

/-- Categories that match alike are counted alike. -/
theorem Request.tryCategories_alike
    (h : List.Forall₂ Category.SameRule kb.categories kb'.categories) (request : Request)
    (profile : Bindings) (depth : Nat) (question : String) :
    request.tryCategories kb profile depth question =
      request.tryCategories kb' profile depth question := by
  rcases survey_alike h profile request.conversation question 0 with ⟨htried, hrejected, -⟩
  rw [tryCategories, tryCategories, count, count, htried, hrejected]

/-- A scan does not tell knowledge bases apart whose categories are the same rules. -/
theorem scan_alike (h : List.Forall₂ Category.SameRule kb.categories kb'.categories)
    (levels depth : Nat) (question : String) :
    scan kb profile levels depth question = scan kb' profile levels depth question := by
  induction levels generalizing depth question with
  | zero => rfl
  | succ levels ih =>
    have hdeeper : scan kb profile levels (depth + 1) = scan kb' profile levels (depth + 1) :=
      funext (ih (depth + 1))
    refine StateT.ext fun request => ?_
    cases hlimit : request.metrics.limitHit with
    | true => rw [scan_of_limitHit hlimit, scan_of_limitHit hlimit]
    | false =>
      have hcount := request.tryCategories_alike h profile depth question
      rcases survey_alike h profile request.conversation question 0 with ⟨-, -, hwinner⟩
      cases hfound : (survey profile request.conversation question 0 kb.categories).winner with
      | none =>
        cases hfound' : (survey profile request.conversation question 0 kb'.categories).winner with
        | none => rw [scan_of_no_winner hlimit hfound, scan_of_no_winner hlimit hfound', hcount]
        | some winner' =>
          rw [hfound, hfound'] at hwinner
          cases hwinner
      | some winner =>
        cases hfound' : (survey profile request.conversation question 0 kb'.categories).winner with
        | none =>
          rw [hfound, hfound'] at hwinner
          cases hwinner
        | some winner' =>
          rw [hfound, hfound'] at hwinner
          rcases hwinner with ⟨halike⟩ | -
          rw [scan_of_winner hlimit hfound, scan_of_winner hlimit hfound', hcount, hdeeper,
            evaluateWinner_alike halike]

/-- A request does not tell knowledge bases apart whose categories are the same rules. -/
theorem resolve_sameRule (h : List.Forall₂ Category.SameRule kb.categories kb'.categories)
    (profile : Bindings) (limit : Nat) (conversation : Conversation) (question : String) :
    resolve kb profile limit conversation question =
      resolve kb' profile limit conversation question := by
  rw [resolve, resolve, scan_alike h]

/-- A request does not tell knowledge bases apart whose categories cannot be told apart. -/
theorem resolve_alike (h : List.Forall₂ Category.Alike kb.categories kb'.categories)
    (profile : Bindings) (limit : Nat) (conversation : Conversation) (question : String) :
    resolve kb profile limit conversation question =
      resolve kb' profile limit conversation question :=
  resolve_sameRule (h.imp fun _ _ halike => halike.sameRule) profile limit conversation question

/-! ## More sources -/

/-- Categories that cannot be told apart are marked with the same source. -/
theorem KnowledgeBase.append_alike (kb : KnowledgeBase) {categories categories' : List Category}
    (h : List.Forall₂ Category.Alike categories categories') :
    List.Forall₂ Category.Alike (kb.append categories).categories
      (kb.append categories').categories := by
  rw [categories_append, categories_append]
  refine List.rel_append (List.forall₂_refl _) ?_
  rw [List.forall₂_map_left_iff, List.forall₂_map_right_iff]
  exact h.imp fun _ _ halike => ⟨halike.pattern, halike.that, halike.template, rfl⟩

/-- Knowledge bases that cannot be told apart still cannot after the same categories have been
added. -/
theorem KnowledgeBase.foldl_append_alike
    (h : List.Forall₂ Category.Alike kb.categories kb'.categories)
    (hsources : kb.sources = kb'.sources) (later : List (List Category)) :
    List.Forall₂ Category.Alike (later.foldl append kb).categories
      (later.foldl append kb').categories := by
  induction later generalizing kb kb' with
  | nil => exact h
  | cons categories later ih =>
    refine ih ?_ ?_
    · rw [categories_append, categories_append, hsources]
      exact List.rel_append h (List.forall₂_refl _)
    · exact congrArg (· + 1) hsources

end Dialogue
