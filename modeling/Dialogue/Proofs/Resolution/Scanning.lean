import Dialogue.Resolution.Basic

/-!
# The steps of a request

A request is a scan at depth zero.  A scan that is not cut short tries the categories
and evaluates the one that wins, if there is one.  Each part has one equation here,
by which later proofs take a request apart.

Main results:

- Theorem `scan_of_limitHit`: after the limit has been exceeded nothing is scanned.
- Theorem `scan_of_winner`, `scan_of_no_winner`: what a scan does otherwise.
- Theorem `scan_induction`: what holds of all scans if it holds of those that find nothing, and
  is kept by the evaluation of the category that wins.
- Theorem `resolve_congr`: what comes of a question depends on the variables and on the
  previous answer only.
- Theorem `survey_congr`: so does which category wins.
-/

namespace Dialogue

variable {kb : KnowledgeBase} {profile : Bindings} {levels depth : Nat} {question : String}
  {request : Request}

/-- The request after the categories have been tried for a question at a depth. -/
def Request.tryCategories (request : Request) (kb : KnowledgeBase) (profile : Bindings)
    (depth : Nat) (question : String) : Request :=
  (request.enter depth).count (survey profile request.conversation question 0 kb.categories)

/-! ## Equations -/

/-- After the limit has been exceeded nothing is scanned. -/
theorem scan_of_limitHit (hlimit : request.metrics.limitHit = true) :
    (scan kb profile levels depth question).run request = pure (none, request) := by
  cases levels with
  | zero =>
    simp only [scan, StateT.run_bind, StateT.run_get, pure_bind, hlimit]
    rfl
  | succ levels =>
    simp only [scan, StateT.run_bind, StateT.run_get, pure_bind, hlimit]
    rfl

/-- A scan for which no category wins. -/
theorem scan_of_no_winner (hlimit : request.metrics.limitHit = false)
    (hwinner : (survey profile request.conversation question 0 kb.categories).winner = none) :
    (scan kb profile (levels + 1) depth question).run request =
      pure (none, request.tryCategories kb profile depth question) := by
  have hentered : (survey profile (request.enter depth).conversation question 0
      kb.categories).winner = none := hwinner
  simp only [scan, StateT.run_bind, StateT.run_get, StateT.run_modify, pure_bind, hlimit,
    Bool.false_eq_true, if_false, StateT.run_pure, hentered]
  rfl

/-- A scan for which a category wins. -/
theorem scan_of_winner {winner : Winner} (hlimit : request.metrics.limitHit = false)
    (hwinner : (survey profile request.conversation question 0 kb.categories).winner =
      some winner) :
    (scan kb profile (levels + 1) depth question).run request = do
      let out ← (evaluateWinner profile depth (redirect (scan kb profile levels (depth + 1)))
        winner).run (request.tryCategories kb profile depth question)
      return (some out.1, out.2) := by
  have hentered : (survey profile (request.enter depth).conversation question 0
      kb.categories).winner = some winner := hwinner
  simp only [scan, StateT.run_bind, StateT.run_get, StateT.run_modify, pure_bind, hlimit,
    Bool.false_eq_true, if_false, StateT.run_pure, hentered]
  rfl

/-- What holds of a scan from which nothing comes, and of the evaluation of a category that wins
if it holds of the scans for nested questions, holds of every scan. -/
theorem scan_induction {P : Request → Choice (Option Hit × Request) → Prop}
    (missed : ∀ request after : Request, after.conversation = request.conversation →
      P request (pure (none, after)))
    (won : ∀ (levels depth : Nat) (question : String) (request : Request) (winner : Winner),
      (∀ nested request, P request ((scan kb profile levels (depth + 1) nested).run request)) →
      (survey profile request.conversation question 0 kb.categories).winner = some winner →
      P request (do
        let out ← (evaluateWinner profile depth (redirect (scan kb profile levels (depth + 1)))
          winner).run (request.tryCategories kb profile depth question)
        return (some out.1, out.2)))
    (levels depth : Nat) (question : String) (request : Request) :
    P request ((scan kb profile levels depth question).run request) := by
  induction levels generalizing depth question request with
  | zero =>
    cases hlimit : request.metrics.limitHit with
    | true =>
      rw [scan_of_limitHit hlimit]
      exact missed request request rfl
    | false =>
      rw [scan_zero _ _ _ _ _ hlimit]
      exact missed request request.exceedLimit rfl
  | succ levels ih =>
    cases hlimit : request.metrics.limitHit with
    | true =>
      rw [scan_of_limitHit hlimit]
      exact missed request request rfl
    | false =>
      cases hwinner : (survey profile request.conversation question 0 kb.categories).winner with
      | none =>
        rw [scan_of_no_winner hlimit hwinner]
        exact missed request (request.tryCategories kb profile depth question) rfl
      | some winner =>
        rw [scan_of_winner hlimit hwinner]
        exact won levels depth question request winner (ih (depth + 1)) hwinner

/-- The category that wins is evaluated on its captures and on the request in which
its match has been noted. -/
theorem evaluateWinner_run (answer : String → Action String) (winner : Winner) :
    (evaluateWinner profile depth answer winner).run request = do
      let out ← (respond ⟨profile, depth, answer⟩ winner.category.template).run
        ⟨winner.captures, request.begin depth winner⟩
      return (⟨winner.index, winner.captures, out.1⟩,
        out.2.request.record (.finished depth)) := by
  simp only [evaluateWinner, StateT.run_bind, StateT.run_get, StateT.run_modify, pure_bind,
    StateT.run_monadLift, StateT.run_set, StateT.run_pure, monadLift_self, bind_assoc]

/-- An action on the request of a frame leaves the captures of the frame alone. -/
theorem Evaluation.run_onRequest {α : Type} (action : Action α) (frame : Frame) :
    (Evaluation.onRequest action).run frame = do
      let out ← action.run frame.request
      return (out.1, { frame with request := out.2 }) := rfl

/-- The answer that a nested question gets: the text of the category that wins, or the
empty text. -/
def nestedAnswer (hit : Option Hit) : String := ((hit.bind Hit.text).map Text.clean).getD ""

/-- A nested question is scanned for. -/
theorem redirect_run (scan : String → Action (Option Hit)) :
    (redirect scan question).run request = do
      let out ← (scan question).run request.countRedirect
      return (nestedAnswer out.1, out.2) := by
  simp only [redirect, StateT.run_bind, StateT.run_modify, pure_bind]
  congr
  funext out
  rcases out with ⟨hit, request⟩
  cases hit with
  | none => rfl
  | some hit => rfl

/-! ## Ends of requests -/

/-- A hit comes to its cleaned text, or to an empty answer. -/
theorem Resolution.ofHit_some (hit : Hit) :
    ofHit false (some hit) =
      ⟨answerOf (nestedAnswer (some hit)), hit.captures, some hit.index,
        if nestedAnswer (some hit) = "" then .empty else .matched⟩ := by
  rcases hit with ⟨index, captures, text⟩
  cases text with
  | none => rfl
  | some text =>
    have hnested : nestedAnswer (some ⟨index, captures, some text⟩) = Text.clean text := rfl
    rw [hnested]
    by_cases hempty : Text.clean text = ""
    · rw [hempty]
      simp [ofHit, hempty, answerOf, Option.filter]
    · simp [ofHit, hempty, answerOf, Option.filter]

/-- A request at its end, after a scan has come to a hit or to none. -/
def Request.conclude (request : Request) (hit : Option Hit) : Resolved :=
  let resolution := Resolution.ofHit request.metrics.limitHit hit
  ⟨resolution, { request with conversation := request.conversation.remember resolution.answer }⟩

/-- A request is a scan at depth zero. -/
theorem resolve_eq (limit : Nat) (conversation : Conversation) :
    resolve kb profile limit conversation question = do
      let out ← (scan kb profile (limit + 1) 0 question).run
        { conversation := conversation.forgetCaptures }
      return out.2.conclude out.1 := rfl

/-- What comes of a question depends on the variables and on the previous answer only. -/
theorem resolve_congr (limit : Nat) {conversation conversation' : Conversation}
    (hvars : conversation.vars = conversation'.vars)
    (hprevious : conversation.previousAnswer = conversation'.previousAnswer) :
    resolve kb profile limit conversation question =
      resolve kb profile limit conversation' question := by
  have hforgotten : conversation.forgetCaptures = conversation'.forgetCaptures := by
    rw [Conversation.forgetCaptures, Conversation.forgetCaptures, hvars, hprevious]
  rw [resolve_eq, resolve_eq, hforgotten]

/-! ## Surveys -/

/-- The first category wins if it matches. -/
theorem survey_cons_of_matched {conversation : Conversation} {category : Category}
    {captures : List String} (index : Nat) (categories : List Category)
    (hverdict : category.verdict profile conversation question = .matched captures) :
    survey profile conversation question index (category :: categories) =
      ⟨1, 0, some ⟨index, category, captures⟩⟩ := by
  unfold survey
  rw [hverdict]

/-- Which category wins depends on the variables and on the previous answer only. -/
theorem survey_congr (profile : Bindings) (question : String)
    {conversation conversation' : Conversation}
    (hvars : conversation.vars = conversation'.vars)
    (hprevious : conversation.previousAnswer = conversation'.previousAnswer) (index : Nat)
    (categories : List Category) :
    survey profile conversation question index categories =
      survey profile conversation' question index categories := by
  have hverdict : ∀ category : Category, category.verdict profile conversation question =
      category.verdict profile conversation' question := by
    intro category
    unfold Category.verdict
    rw [hvars, hprevious]
  induction categories generalizing index with
  | nil => rfl
  | cons category categories ih =>
    unfold survey
    rw [hverdict, ih]

/-- The captures of earlier questions do not matter for which category wins. -/
@[simp] theorem survey_forgetCaptures (profile : Bindings) (question : String)
    (conversation : Conversation) (index : Nat) (categories : List Category) :
    survey profile conversation.forgetCaptures question index categories =
      survey profile conversation question index categories := by
  have hvars : conversation.forgetCaptures.vars = conversation.vars := rfl
  have hprevious : conversation.forgetCaptures.previousAnswer = conversation.previousAnswer := rfl
  exact survey_congr profile question hvars hprevious index categories

end Dialogue
