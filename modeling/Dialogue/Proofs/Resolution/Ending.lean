import Dialogue.Proofs.Resolution.Limit
import Dialogue.Proofs.Resolution.Redirection

/-!
# How requests end

A request for which no category matches leaves everything but the captures as it was.
Otherwise the first category that matches has been evaluated, to an answer, to the empty
text, or to the limit on nested redirections.  Only an answer is remembered.

Main results:

- Theorem `wins_of_survey`: what it is to win.
- Theorem `Request.Reaches.previousAnswer`: nothing on the way changes the previous
  answer.
- Theorem `ends_of_resolve`: how a request ends.
-/

namespace Dialogue

variable {kb : KnowledgeBase} {profile : Bindings} {question : String}
  {conversation : Conversation}

/-! ## The category that wins -/

/-- The category at an offset takes the question, with its captures, and none before it
does. -/
structure Winner.IsFirst (winner : Winner) (profile : Bindings) (conversation : Conversation)
    (question : String) (categories : List Category) (offset : Nat) : Prop where
  category : categories[offset]? = some winner.category
  matched : winner.category.verdict profile conversation question = .matched winner.captures
  first : ∀ index < offset, ∀ rival ∈ categories[index]?, ∀ captures,
    rival.verdict profile conversation question ≠ .matched captures

/-- A category wins if it is the first one of the knowledge base that takes the
question. -/
abbrev KnowledgeBase.Wins (kb : KnowledgeBase) (profile : Bindings) (conversation : Conversation)
    (question : String) (winner : Winner) : Prop :=
  winner.IsFirst profile conversation question kb.categories winner.index

namespace Winner.IsFirst

variable {winner : Winner} {category : Category} {categories : List Category} {offset : Nat}

/-- A category at the beginning is the first one that takes the question if it does. -/
theorem head {index : Nat} {captures : List String}
    (hverdict : category.verdict profile conversation question = .matched captures) :
    IsFirst ⟨index, category, captures⟩ profile conversation question (category :: categories) 0
    where
  category := rfl
  matched := hverdict
  first := by
    intro index hlt
    exact absurd hlt (Nat.not_lt_zero index)

/-- A category in front that does not take the question comes before the first one that
does. -/
theorem tail (h : winner.IsFirst profile conversation question categories offset)
    (hnot : ∀ captures, category.verdict profile conversation question ≠ .matched captures) :
    winner.IsFirst profile conversation question (category :: categories) (offset + 1) where
  category := h.category
  matched := h.matched
  first := by
    intro index hlt rival hrival
    cases index with
    | zero =>
      cases hrival
      exact hnot
    | succ index => exact h.first index (by omega) rival hrival

/-- The captures of the first category that takes the question are those of its
pattern. -/
theorem captures? (h : winner.IsFirst profile conversation question categories offset) :
    winner.category.pattern.captures? profile conversation.vars question =
      some winner.captures := by
  have hmatched := h.matched
  unfold Category.verdict at hmatched
  split at hmatched
  · cases hmatched
  · rename_i captures hcaptures
    split at hmatched
    · cases hmatched
      exact hcaptures
    · split at hmatched
      · cases hmatched
      · cases hmatched
        exact hcaptures

end Winner.IsFirst

/-- What a survey finds is the first category that takes the question. -/
theorem isFirst_of_survey {start : Nat} {categories : List Category} {winner : Winner}
    (hwinner : (survey profile conversation question start categories).winner = some winner) :
    ∃ offset, winner.index = start + offset ∧
      winner.IsFirst profile conversation question categories offset := by
  induction categories generalizing start with
  | nil => cases hwinner
  | cons category categories ih =>
    unfold survey at hwinner
    cases hverdict : category.verdict profile conversation question with
    | matched captures =>
      rw [hverdict] at hwinner
      cases hwinner
      exact ⟨0, rfl, .head hverdict⟩
    | rejected =>
      rw [hverdict] at hwinner
      rcases ih hwinner with ⟨offset, hindex, hfirst⟩
      exact ⟨offset + 1, by omega, hfirst.tail (by simp [hverdict])⟩
    | unmatched =>
      rw [hverdict] at hwinner
      rcases ih hwinner with ⟨offset, hindex, hfirst⟩
      exact ⟨offset + 1, by omega, hfirst.tail (by simp [hverdict])⟩

/-- If a survey finds nothing, then no category takes the question. -/
theorem verdict_ne_matched_of_survey {start : Nat} {categories : List Category}
    (hnone : (survey profile conversation question start categories).winner = none) :
    ∀ category ∈ categories, ∀ captures,
      category.verdict profile conversation question ≠ .matched captures := by
  induction categories generalizing start with
  | nil => simp
  | cons category categories ih =>
    rw [List.forall_mem_cons]
    unfold survey at hnone
    cases hverdict : category.verdict profile conversation question with
    | matched captures =>
      rw [hverdict] at hnone
      cases hnone
    | rejected =>
      rw [hverdict] at hnone
      exact ⟨by simp, ih hnone⟩
    | unmatched =>
      rw [hverdict] at hnone
      exact ⟨by simp, ih hnone⟩

/-- What a survey of the knowledge base finds wins. -/
theorem wins_of_survey {winner : Winner}
    (hwinner : (survey profile conversation question 0 kb.categories).winner = some winner) :
    kb.Wins profile conversation question winner := by
  rcases isFirst_of_survey hwinner with ⟨offset, hindex, hfirst⟩
  rw [Nat.zero_add] at hindex
  rw [KnowledgeBase.Wins, hindex]
  exact hfirst

/-! ## The previous answer -/

/-- Nothing that happens changes the previous answer. -/
theorem Conversation.previousAnswer_replay (c : Conversation) (happenings : List Happening) :
    (c.replay happenings).previousAnswer = c.previousAnswer := by
  induction happenings with
  | nil => rfl
  | cons happening earlier ih =>
    rw [replay, ← ih]
    cases happening with
    | matched depth index captures =>
      cases depth with
      | zero => rw [after, keepCaptures, noteCaptures_eq]
      | succ depth => rw [after, noteCaptures_eq]
    | _ => rfl

/-- Wherever a request leads, the previous answer is that of the start. -/
theorem Request.Reaches.previousAnswer {r : Request}
    (hreach : Request.Reaches kb profile { conversation := conversation } r) :
    r.conversation.previousAnswer = conversation.previousAnswer := by
  rw [(Request.Chronicled.of_reaches hreach).conversation]
  exact conversation.previousAnswer_replay r.journal

/-! ## Whole requests -/

/-- How a request for a question can end. -/
inductive Resolved.Ends (kb : KnowledgeBase) (profile : Bindings) (conversation : Conversation)
    (question : String) : Resolved → Prop
  /-- No category takes the question, and nothing but the captures has changed. -/
  | noMatch (request : Request)
    (hnone : ∀ category ∈ kb.categories, ∀ captures,
      category.verdict profile conversation question ≠ .matched captures)
    (hconversation : request.conversation = conversation.forgetCaptures) :
    Ends kb profile conversation question ⟨⟨none, [], none, .noMatch⟩, request⟩
  | redirectionLimit (request : Request)
    (hprevious : request.conversation.previousAnswer = conversation.previousAnswer) :
    Ends kb profile conversation question ⟨⟨none, [], none, .redirectionLimit⟩, request⟩
  | empty (request : Request) (winner : Winner)
    (hwins : kb.Wins profile conversation question winner)
    (hprevious : request.conversation.previousAnswer = conversation.previousAnswer) :
    Ends kb profile conversation question
      ⟨⟨none, winner.captures, some winner.index, .empty⟩, request⟩
  /-- There is an answer, which is remembered. -/
  | matched (request : Request) (winner : Winner) (text : String)
    (hwins : kb.Wins profile conversation question winner)
    (hnonempty : text ≠ "") (hclean : Text.clean text = text)
    (hprevious : request.conversation.previousAnswer = text) :
    Ends kb profile conversation question
      ⟨⟨some text, winner.captures, some winner.index, .matched⟩, request⟩

/-- A request ends in one of these ways once its category has been evaluated. -/
theorem ends_of_hit {request : Request} {winner : Winner} (text : Option String)
    (hwins : kb.Wins profile conversation question winner)
    (hlimit : request.metrics.limitHit = false)
    (hprevious : request.conversation.previousAnswer = conversation.previousAnswer) :
    (request.conclude (some ⟨winner.index, winner.captures, text⟩)).Ends
      kb profile conversation question := by
  let hit : Hit := ⟨winner.index, winner.captures, text⟩
  rw [Request.conclude, hlimit, Resolution.ofHit_some]
  by_cases hempty : nestedAnswer (some hit) = ""
  · rw [hempty, answerOf, if_pos rfl, if_pos rfl]
    exact .empty request winner hwins hprevious
  · rw [answerOf, if_neg hempty, if_neg hempty]
    exact .matched _ winner _ hwins hempty (clean_nestedAnswer (some hit)) rfl

/-- A request ends in one of these ways. -/
theorem ends_of_resolve {limit : Nat} {resolved : Resolved}
    (hresolved : resolved ∈ (resolve kb profile limit conversation question).outcomes) :
    resolved.Ends kb profile conversation question := by
  rw [resolve_eq, Choice.mem_outcomes_bind] at hresolved
  rcases hresolved with ⟨⟨hit, request⟩, hscan, hresolved⟩
  cases Choice.mem_outcomes_pure.1 hresolved
  have hprevious : request.conversation.previousAnswer = conversation.previousAnswer :=
    (steps_scan (limit + 1) 0 question _ _ hscan).reaches.previousAnswer
  rcases scan_cases rfl hscan with ⟨hnone, hout⟩ | ⟨winner, text, hwinner, hhit, -⟩
  · rw [survey_forgetCaptures] at hnone
    cases hout
    exact .noMatch _ (verdict_ne_matched_of_survey hnone) rfl
  · cases hlimit : request.metrics.limitHit with
    | true =>
      rw [Request.conclude_of_limitHit hit hlimit]
      exact .redirectionLimit request hprevious
    | false =>
      rw [survey_forgetCaptures] at hwinner
      cases hhit
      exact ends_of_hit text (wins_of_survey hwinner) hlimit hprevious

end Dialogue
