import Dialogue.Proofs.Resolution.Ending
import Dialogue.Proofs.Session.Turns

/-!
# Answers and sessions

The outcome of an answer tells what else is in it, and what has become of the session.

Main results:

- Theorem `Answer.Consistent.of_ends`: however a request ends, its answer is consistent.
- Theorem `Session.consistent_ask`: so is every reply to a question.
-/

namespace Dialogue

/-! ## Consistent answers -/

/-- What is reported of a category that has won. -/
def Winner.summary (winner : Winner) : MatchSummary where
  index := winner.index
  source := winner.category.source
  pattern := winner.category.pattern.display
  that := winner.category.that.map Wording.display
  captures := winner.captures

/-- An answer to a question that is consistent with its outcome, with the bot that has
been found at the load gate, if any, and with the session before and after. -/
structure Answer.Consistent (found : Option Bot) (before : Session) (answer : Answer)
    (after : Session) : Prop where
  answer_isSome : answer.answer.isSome ↔ answer.outcome = .matched
  /-- A text is clean, and is remembered. -/
  text : ∀ text ∈ answer.answer, text ≠ "" ∧ Text.HasBareEnds text.toList ∧
    '\r' ∉ text.toList ∧ after.conversation.previousAnswer = text
  previousAnswer : answer.outcome ≠ .matched →
    after.conversation.previousAnswer = before.conversation.previousAnswer
  winner_isSome : answer.winner.isSome ↔ answer.outcome = .matched ∨ answer.outcome = .empty
  capturesUpper : answer.winner = none → answer.capturesUpper = []
  /-- The captures are those of the first category that takes the question. -/
  winner : ∀ summary ∈ answer.winner, ∃ bot ∈ found, ∃ winner,
    bot.knowledge.Wins bot.profile before.conversation answer.input winner ∧
      winner.category.pattern.captures? bot.profile before.conversation.vars answer.input =
        some winner.captures ∧
      summary = winner.summary ∧ answer.capturesUpper = winner.captures.map Text.uppercase
  noMatch : answer.outcome = .noMatch →
    (∃ bot ∈ found, ∀ category ∈ bot.knowledge.categories, ∀ captures,
      category.verdict bot.profile before.conversation answer.input ≠ .matched captures) ∧
    after.conversation.vars = before.conversation.vars ∧
    after.conversation.captures = [] ∧ after.conversation.lastWildcard = ""
  loadTimeout : answer.outcome = .loadTimeout ↔ found = none
  untouched : found = none → after = before

/-- A category that has won is reported. -/
theorem KnowledgeBase.Wins.summary? {kb : KnowledgeBase} {profile : Bindings}
    {conversation : Conversation} {question : String} {winner : Winner}
    (hwins : kb.Wins profile conversation question winner) (answer : Option String)
    (outcome : Outcome) :
    kb.summary? ⟨answer, winner.captures, some winner.index, outcome⟩ = some winner.summary := by
  simp only [KnowledgeBase.summary?, Option.bind_eq_bind, Option.bind_some, hwins.category]
  rfl

/-- A text that cleaning leaves alone has bare ends and no carriage return. -/
theorem Text.hasBareEnds_of_clean {text : String} (hclean : Text.clean text = text) :
    Text.HasBareEnds text.toList ∧ '\r' ∉ text.toList := by
  have hchars : Text.cleanChars text.toList = text.toList := by
    rw [← String.toList_ofList (l := Text.cleanChars text.toList)]
    exact congrArg String.toList hclean
  rw [← hchars]
  exact ⟨Text.hasBareEnds_cleanChars _, Text.not_mem_cleanChars _⟩

/-- An answer without a category that has won is consistent if it tells so. -/
theorem Answer.Consistent.of_no_winner {found : Option Bot} {before after : Session}
    {answer : Answer} (hanswer : answer.answer = none) (hwinner : answer.winner = none)
    (hcaptures : answer.capturesUpper = [])
    (houtcome : answer.outcome ≠ .matched ∧ answer.outcome ≠ .empty)
    (hprevious : after.conversation.previousAnswer = before.conversation.previousAnswer)
    (hnoMatch : answer.outcome = .noMatch →
      (∃ bot ∈ found, ∀ category ∈ bot.knowledge.categories, ∀ captures,
        category.verdict bot.profile before.conversation answer.input ≠ .matched captures) ∧
      after.conversation.vars = before.conversation.vars ∧
      after.conversation.captures = [] ∧ after.conversation.lastWildcard = "")
    (hloadTimeout : answer.outcome = .loadTimeout ↔ found = none)
    (huntouched : found = none → after = before) :
    answer.Consistent found before after where
  answer_isSome := by simp [hanswer, houtcome]
  text := by simp [hanswer]
  previousAnswer _ := hprevious
  winner_isSome := by simp [hwinner, houtcome]
  capturesUpper _ := hcaptures
  winner := by simp [hwinner]
  noMatch := hnoMatch
  loadTimeout := hloadTimeout
  untouched := huntouched

/-- An answer with the category that has won is consistent if it has the captures of that
category, and a text only if it tells so. -/
theorem Answer.Consistent.of_winner {bot : Bot} {before after : Session} {answer : Answer}
    {winner : Winner}
    (hwins : bot.knowledge.Wins bot.profile before.conversation answer.input winner)
    (hwinner : answer.winner = some winner.summary)
    (hcaptures : answer.capturesUpper = winner.captures.map Text.uppercase)
    (houtcome : answer.outcome = .matched ∨ answer.outcome = .empty)
    (hanswer : answer.answer.isSome ↔ answer.outcome = .matched)
    (htext : ∀ text ∈ answer.answer, text ≠ "" ∧ Text.HasBareEnds text.toList ∧
      '\r' ∉ text.toList ∧ after.conversation.previousAnswer = text)
    (hprevious : answer.outcome ≠ .matched →
      after.conversation.previousAnswer = before.conversation.previousAnswer) :
    answer.Consistent (some bot) before after where
  answer_isSome := hanswer
  text := htext
  previousAnswer := hprevious
  winner_isSome := by simp [hwinner, houtcome]
  capturesUpper := by simp [hwinner]
  winner := by
    intro summary hmem
    rw [hwinner] at hmem
    cases hmem
    exact ⟨bot, rfl, winner, hwins, hwins.captures?, rfl, hcaptures⟩
  noMatch := by
    intro hnoMatch
    simp [hnoMatch] at houtcome
  loadTimeout := by
    rcases houtcome with houtcome | houtcome <;> simp [houtcome]
  untouched := by simp

/-- However a request ends, its answer is consistent with the session before and after. -/
theorem Answer.Consistent.of_ends {bot : Bot} {before after : Session} {input : String}
    {resolved : Resolved}
    (hends : resolved.Ends bot.knowledge bot.profile before.conversation input)
    (hafter : after.conversation = resolved.request.conversation) :
    (Answer.ofResolved bot.knowledge input resolved).Consistent (some bot) before after := by
  cases hends with
  | noMatch request hnone hconversation =>
    have hforgotten : after.conversation = before.conversation.forgetCaptures :=
      hafter.trans hconversation
    have hprevious : after.conversation.previousAnswer = before.conversation.previousAnswer := by
      rw [hforgotten, Conversation.forgetCaptures]
    refine .of_no_winner rfl rfl rfl ?_ hprevious ?_ ?_ ?_
    · simp [Answer.ofResolved]
    · intro _
      rw [hforgotten]
      exact ⟨⟨bot, rfl, hnone⟩, rfl, rfl, rfl⟩
    · simp [Answer.ofResolved]
    · simp
  | redirectionLimit request hprevious =>
    rw [← hafter] at hprevious
    refine .of_no_winner rfl rfl rfl ?_ hprevious ?_ ?_ ?_ <;> simp [Answer.ofResolved]
  | empty request winner hwins hprevious =>
    have hsummary := hwins.summary? none .empty
    rw [← hafter] at hprevious
    refine .of_winner hwins hsummary rfl (.inr rfl) ?_ ?_ fun _ => hprevious
    · simp [Answer.ofResolved]
    · simp [Answer.ofResolved]
  | matched request winner text hwins hnonempty hclean hprevious =>
    have hsummary := hwins.summary? (some text) .matched
    rw [← hafter] at hprevious
    rcases Text.hasBareEnds_of_clean hclean with ⟨hbare, hreturn⟩
    refine .of_winner hwins hsummary rfl (.inl rfl) ?_ ?_ ?_
    · simp [Answer.ofResolved]
    · intro other hmem
      cases hmem
      exact ⟨hnonempty, hbare, hreturn, hprevious⟩
    · simp [Answer.ofResolved]

/-! ## Questions -/

namespace Session

/-- A question that is resolved has a consistent answer. -/
theorem consistent_of_found (session : Session) (bot : Bot) (input : String) :
    (session.ask bot input).1.input = input ∧
      (session.ask bot input).1.Consistent (some bot) session (session.ask bot input).2 := by
  rcases session.exists_resolved_ask bot input with ⟨resolved, hresolved, hanswer, hafter⟩
  rw [hanswer]
  exact ⟨rfl, .of_ends (ends_of_resolve hresolved) hafter⟩

/-- A question that is given up has a consistent answer. -/
theorem consistent_unanswered (session : Session) (input : String) :
    (Answer.unanswered input .loadTimeout).Consistent none session session := by
  refine .of_no_winner rfl rfl rfl ?_ rfl ?_ ?_ fun _ => rfl <;> simp [Answer.unanswered]

/-- Whatever the session and the bot, a question either is refused, because rule sources
are still to be loaded, and leaves the session as it is, or its answer is consistent. -/
theorem consistent_ask (session : Session) (manner : Manner) (input : String) :
    let found := manner.found session.options
    let reply := (session.perform (.ask manner input)).1
    let after := (session.perform (.ask manner input)).2
    (reply = .failed .notReady ∧ after = session ∧
        ∃ bot, manner = .now bot ∧ bot.isReady = false) ∨
      ∃ answer, reply = .answer answer ∧ answer.input = input ∧
        answer.Consistent found session after := by
  intro found reply after
  have hreply : reply = (session.perform (.ask manner input)).1 := rfl
  have hafter : after = (session.perform (.ask manner input)).2 := rfl
  cases hfound : found with
  | some bot =>
    rw [perform_ask_of_found hfound] at hreply hafter
    rcases consistent_of_found session bot input with ⟨hinput, hconsistent⟩
    rw [hafter]
    exact .inr ⟨_, hreply, hinput, hconsistent⟩
  | none =>
    rw [perform_ask_of_not_found hfound] at hreply hafter
    rw [hafter]
    cases manner with
    | now bot =>
      refine .inl ⟨hreply, rfl, bot, rfl, ?_⟩
      cases hready : bot.isReady with
      | false => rfl
      | true =>
        have hopen : found = some bot := if_pos hready
        rw [hopen] at hfound
        cases hfound
    | waiting looks =>
      exact .inr ⟨_, hreply, rfl, consistent_unanswered session input⟩

end Session

end Dialogue
