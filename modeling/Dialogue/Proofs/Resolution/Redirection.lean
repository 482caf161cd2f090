import Dialogue.Proofs.Resolution.Agreement
import Dialogue.Proofs.Text.Cleaning
import Dialogue.Resolution.Basic

/-!
# Asking through a redirection

A category whose pattern captures nothing and whose template only redirects to a
literal text adds nothing of its own: asking its question is asking that text, one
level deeper.

Main results:

- Theorem `related_scan_redirect`: the scan that goes through the redirection runs in
  lockstep with the scan for the text itself.
- Theorem `resolve_redirect`: both requests come to the same.
-/

namespace Dialogue

/-! ## The template -/

/-- Literal texts are joined. -/
theorem concatenate_texts (setting : Setting) (texts : List String) :
    concatenate setting (texts.map .text) = pure (String.join texts) := by
  induction texts with
  | nil =>
    rw [List.map_nil, concatenate, String.join_nil]
  | cons text texts ih =>
    rw [List.map_cons, concatenate, ih, evaluateFragment, pure_bind, pure_bind, String.join_cons]

/-- A template that only redirects to a literal text gives the answer to that text. -/
theorem respond_redirect_texts (setting : Setting) (texts : List String) (frame : Frame) :
    (respond setting [.redirect (texts.map .text)]).run frame = do
      let out ← (setting.answer (Text.clean (String.join texts))).run frame.request
      return (answerOf (Text.clean out.1), { frame with request := out.2 }) := by
  have hother : ∀ content, Fragment.redirect (texts.map .text) = .group content →
      ([] : List Fragment) = [] → False := by
    intro content heq
    cases heq
  have hquestion : Text.clean <$> concatenate setting (texts.map .text) =
      pure (Text.clean (String.join texts)) := by
    rw [concatenate_texts, map_pure]
  rw [respond_cons setting hother]
  simp only [Fragment.isBlank, Bool.false_and, Bool.false_eq_true, if_false, evaluateFragment,
    hquestion, concatenate, pure_bind, String.append_empty, StateT.run_bind, StateT.run_pure,
    Evaluation.run_onRequest, bind_assoc]

/-! ## The scan -/

/-- An answer to a nested question is clean. -/
theorem clean_nestedAnswer (hit : Option Hit) :
    Text.clean (nestedAnswer hit) = nestedAnswer hit := by
  unfold nestedAnswer
  cases hit.bind Hit.text with
  | none => exact Text.clean_empty
  | some text => exact Text.clean_clean text

variable {kb : KnowledgeBase} {profile : Bindings} {question : String} {winner : Winner}
  {texts : List String}

/-- The scan that goes through the redirection runs in lockstep with the scan for the
text itself, and answers with what that one comes to. -/
theorem related_scan_redirect (request : Request) (levels : Nat)
    (hlimit : request.metrics.limitHit = false)
    (hwinner : (survey profile request.conversation question 0 kb.categories).winner =
      some winner)
    (hcaptures : winner.captures = [])
    (htemplate : winner.category.template = [.redirect (texts.map .text)]) :
    Choice.Related
      (fun out out' =>
        out.1 = some ⟨winner.index, [], answerOf (nestedAnswer out'.1)⟩ ∧ out.2.Agrees out'.2)
      ((scan kb profile (levels + 1) 0 question).run request)
      ((scan kb profile levels 0 (Text.clean (String.join texts))).run request) := by
  rw [scan_of_winner hlimit hwinner, evaluateWinner_run, htemplate, respond_redirect_texts]
  simp only [redirect_run, bind_assoc, pure_bind, hcaptures]
  have htried : (request.tryCategories kb profile 0 question).Agrees request := ⟨.refl _, rfl⟩
  have hbegun := htried.begin_left 0 hcaptures
  have hcounted :
      ((request.tryCategories kb profile 0 question).begin 0 winner).countRedirect.Agrees request :=
    ⟨hbegun.conversation, hbegun.limitHit⟩
  have hnested := lockstep_scan kb profile levels 1 0 (Text.clean (String.join texts)) _ _ hcounted
  refine hnested.bind_pure_left ?_
  rintro ⟨hit, request⟩ ⟨hit', request'⟩ ⟨hhit, hrequest⟩
  cases hhit
  exact ⟨by rw [clean_nestedAnswer], hrequest.conversation, hrequest.limitHit⟩

/-! ## The request -/

/-- How a request ends that goes through a redirection, if it ends in a certain way
without: a category has matched in any case. -/
def Outcome.throughRedirection : Outcome → Outcome
  | .noMatch => .empty
  | outcome => outcome

/-- A request through a redirection comes to the same as a request without. -/
structure Resolved.AgreesThroughRedirection (redirected direct : Resolved) : Prop where
  answer : redirected.resolution.answer = direct.resolution.answer
  vars : redirected.request.conversation.vars = direct.request.conversation.vars
  lastWildcard :
    redirected.request.conversation.lastWildcard = direct.request.conversation.lastWildcard
  previousAnswer :
    redirected.request.conversation.previousAnswer = direct.request.conversation.previousAnswer
  outcome : redirected.resolution.outcome = direct.resolution.outcome.throughRedirection
  redirectionLimit : redirected.resolution.outcome = .redirectionLimit ↔
    direct.resolution.outcome = .redirectionLimit

/-- An answer to a nested question is the answer that a hit with it gives. -/
theorem nestedAnswer_answerOf (index : Nat) (captures : List String) (hit : Option Hit) :
    nestedAnswer (some ⟨index, captures, answerOf (nestedAnswer hit)⟩) = nestedAnswer hit := by
  by_cases hempty : nestedAnswer hit = ""
  · rw [hempty]
    rfl
  · rw [answerOf, if_neg hempty]
    exact clean_nestedAnswer hit

/-- What a request comes to through a redirection, if the scan for the text itself
comes to a certain hit. -/
theorem Resolution.ofHit_redirect (limitHit : Bool) (index : Nat) (hit : Option Hit) :
    let redirected := ofHit limitHit (some ⟨index, [], answerOf (nestedAnswer hit)⟩)
    let direct := ofHit limitHit hit
    redirected.answer = direct.answer ∧
      redirected.outcome = direct.outcome.throughRedirection := by
  cases limitHit with
  | true => exact ⟨rfl, rfl⟩
  | false =>
    cases hit with
    | none => exact ⟨rfl, rfl⟩
    | some hit =>
      rw [ofHit_some, ofHit_some, nestedAnswer_answerOf]
      refine ⟨rfl, ?_⟩
      dsimp only
      split <;> rfl

/-- Conversations agree after the same answer has been remembered. -/
theorem Conversation.Agrees.remember {c c' : Conversation} (h : c.Agrees c')
    (answer : Option String) : (c.remember answer).Agrees (c'.remember answer) := by
  cases answer with
  | none => exact h
  | some text => exact ⟨h.vars, h.lastWildcard, rfl⟩

/-- A request ends at the limit through a redirection exactly if it does without. -/
theorem Outcome.throughRedirection_eq_redirectionLimit_iff (outcome : Outcome) :
    outcome.throughRedirection = .redirectionLimit ↔ outcome = .redirectionLimit := by
  cases outcome <;> decide

/-- Requests that agree come to the same when one of them has gone through a
redirection. -/
theorem Request.Agrees.conclude {r r' : Request} (h : r.Agrees r') (index : Nat)
    (hit : Option Hit) :
    (r.conclude (some ⟨index, [], answerOf (nestedAnswer hit)⟩)).AgreesThroughRedirection
      (r'.conclude hit) := by
  rcases Resolution.ofHit_redirect r'.metrics.limitHit index hit with ⟨hanswer, houtcome⟩
  simp only [Request.conclude, h.limitHit, hanswer]
  have hremember := h.conversation.remember (Resolution.ofHit r'.metrics.limitHit hit).answer
  exact {
    answer := hanswer
    vars := hremember.vars
    lastWildcard := hremember.lastWildcard
    previousAnswer := hremember.previousAnswer
    outcome := houtcome
    redirectionLimit := by
      rw [houtcome]
      exact Outcome.throughRedirection_eq_redirectionLimit_iff _ }

/-- Asking a question whose category captures nothing and only redirects to a literal
text comes to the same as asking that text with one level less. -/
theorem resolve_redirect (conversation : Conversation) (draws : Draws) (limit : Nat)
    (hwinner : (survey profile conversation question 0 kb.categories).winner = some winner)
    (hcaptures : winner.captures = [])
    (htemplate : winner.category.template = [.redirect (texts.map .text)]) :
    let redirected := (resolve kb profile (limit + 1) conversation question).follow draws
    let direct := (resolve kb profile limit conversation
      (Text.clean (String.join texts))).follow draws
    redirected.1.AgreesThroughRedirection direct.1 ∧ redirected.2 = direct.2 := by
  have hforgotten : (survey profile conversation.forgetCaptures question 0
      kb.categories).winner = some winner := by
    rw [survey_forgetCaptures]
    exact hwinner
  have hscan := related_scan_redirect { conversation := conversation.forgetCaptures }
    (limit + 1) rfl hforgotten hcaptures htemplate
  have hresolve : Choice.Related Resolved.AgreesThroughRedirection
      (resolve kb profile (limit + 1) conversation question)
      (resolve kb profile limit conversation (Text.clean (String.join texts))) := by
    rw [resolve_eq, resolve_eq]
    refine hscan.bind ?_
    rintro ⟨hit, request⟩ ⟨hit', request'⟩ ⟨hhit, hrequest⟩
    cases hhit
    exact .done (hrequest.conclude winner.index hit')
  exact hresolve.follow draws

/-- A rule that redirects a greeting. -/
def redirectedGreeting : Category where
  pattern := ⟨[.text "GOOD MORNING"]⟩
  that := none
  template := [.redirect [.text " HI\n", .text "there "]]

/-- A rule that answers a greeting. -/
def answeredGreeting : Category where
  pattern := ⟨[.text "HI *"]⟩
  that := none
  template := [.text "Hello ", .set "guest" [.star], .text "!"]

/-- A greeting is answered the same through a redirection and without one. -/
theorem resolve_redirect_greeting :
    let kb : KnowledgeBase := ⟨[redirectedGreeting, answeredGreeting], 1⟩
    let redirected := (resolve kb .empty 1 (.start .empty) "Good morning!").follow ⟨fun _ => 0, 0⟩
    let direct := (resolve kb .empty 0 (.start .empty) "HI\nthere").follow ⟨fun _ => 0, 0⟩
    redirected.1.resolution.answer = some "Hello there!" ∧
      redirected.1.AgreesThroughRedirection direct.1 ∧ redirected.2 = direct.2 := by
  intro kb redirected direct
  have hverdict : redirectedGreeting.verdict .empty (.start .empty) "Good morning!" =
      .matched [] := by
    decide +kernel
  have hwinner : (survey .empty (.start .empty) "Good morning!" 0 kb.categories).winner =
      some ⟨0, redirectedGreeting, []⟩ := by
    rw [survey_cons_of_matched 0 _ hverdict]
  have htext : Text.clean (String.join [" HI\n", "there "]) = "HI\nthere" := by
    decide +kernel
  have htemplate : redirectedGreeting.template =
      [.redirect ([" HI\n", "there "].map .text)] := rfl
  have hagrees := resolve_redirect (.start .empty) ⟨fun _ => 0, 0⟩ 0 hwinner rfl htemplate
  rw [htext] at hagrees
  exact ⟨by decide +kernel, hagrees⟩

end Dialogue
