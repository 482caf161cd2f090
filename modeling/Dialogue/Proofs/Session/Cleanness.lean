import Dialogue.Proofs.Resolution.Cleanness
import Dialogue.Proofs.Session.Turns

/-!
# Sessions that stay clean

In a session that has only been asked questions, every text of the conversation is clean, whatever
the questions say, whichever bots answer them and whatever is drawn.  Variables that a host binds
need not be.

Main results:

- Theorem `Session.clean_perform`: a question keeps a session clean.
- Theorem `Session.clean_run`: what is clean after any questions.
-/

namespace Dialogue

namespace Session

/-- Whether a turn is a question. -/
def Turn.isQuestion : Turn → Bool
  | ask _ _ => true
  | _ => false

/-- An answer leaves a clean conversation, and its text is clean. -/
theorem clean_ask {s : Session} (hclean : s.conversation.Clean) (bot : Bot) (input : String) :
    (s.ask bot input).2.conversation.Clean ∧
      ∀ text ∈ (s.ask bot input).1.answer, IsClean text := by
  rcases s.exists_resolved_ask bot input with ⟨resolved, hresolved, hanswer, hafter⟩
  rcases clean_of_resolve hclean hresolved with ⟨hconversation, htext, -⟩
  rw [hanswer, hafter]
  exact ⟨hconversation, htext⟩

/-- A question keeps a session clean, whether it is resolved or not. -/
theorem clean_perform {s : Session} (hclean : s.conversation.Clean) {turn : Turn}
    (hquestion : turn.isQuestion = true) : (s.perform turn).2.conversation.Clean := by
  cases turn with
  | ask manner input =>
    cases hfound : manner.found s.options with
    | some bot =>
      rw [perform_ask_of_found hfound]
      exact (clean_ask hclean bot input).1
    | none =>
      rw [perform_ask_of_not_found hfound]
      exact hclean
  | set => cases hquestion
  | remove => cases hquestion

/-- In a session that began new and has only been asked questions, every variable, the previous
answer, the last wildcard and every capture is clean, and no capture is empty.  The texts of lists
of fragments, their answers and the answers to nested questions are clean as well, wherever they
come from.  A text is clean if it has no carriage returns, and no blanks at its ends. -/
theorem clean_run {s : Session} (hnew : s.conversation = .start .empty) {turns : List Turn}
    (hquestions : ∀ turn ∈ turns, turn.isQuestion = true) :
    (s.run turns).2.conversation.Clean ∧
    (∀ (setting : Setting) (fragments : List Fragment) (before after : Frame) (text : String),
      Yields (evaluate setting fragments) before text after → IsClean text) ∧
    (∀ (setting : Setting) (fragments : List Fragment) (before after : Frame) (text : String),
      Yields (respond setting fragments) before (some text) after → IsClean text ∧ text ≠ "") ∧
    (∀ (scan : String → Action (Option Hit)) (question : String) (before after : Request)
      (text : String), Yields (redirect scan question) before text after → IsClean text) ∧
    (∀ text : String, IsClean text ↔ '\r' ∉ text.toList ∧ Text.HasBareEnds text.toList) := by
  refine ⟨?_, fun _ _ _ _ _ h => isClean_of_evaluate h, fun _ fragments _ _ _ h =>
    isClean_of_respond fragments h, fun _ _ _ _ _ h => isClean_of_redirect h,
    fun _ => isClean_iff⟩
  have hclean : s.conversation.Clean := by
    rw [hnew]
    exact Conversation.Clean.start
  clear hnew
  induction turns generalizing s with
  | nil => exact hclean
  | cons turn turns ih =>
    rw [List.forall_mem_cons] at hquestions
    exact ih hquestions.2 (clean_perform hclean hquestions.1)

/-- A rule that keeps a name between blanks. -/
def keepsSpacedName : Category where
  pattern := ⟨[.text "MY NAME IS *"]⟩
  that := none
  template := [.text " Hi\r\n", .set "name" [.text " ", .star, .lineBreak], .text "!\r"]

/-- A bot of this rule. -/
def spacedNameBot : Bot := ⟨.empty, ⟨[keepsSpacedName], 1⟩, {}⟩

/-- A session that begins. -/
def spacedNameSession : Session := ⟨.start .empty, {}, ⟨fun _ => 0, 0⟩⟩

/-- A question with carriage returns and blanks around a name. -/
def spacedNameTurns : List Turn := [.ask (.now spacedNameBot) "My name\ris \t Ann\r\n  Lee .\r"]

/-- The blanks around the name and the carriage returns are gone. -/
theorem clean_run_spacedName :
    spacedNameSession.conversation = .start .empty ∧
    (∀ turn ∈ spacedNameTurns, turn.isQuestion = true) ∧
    (spacedNameSession.run spacedNameTurns).2.conversation.vars.get? "name" = some "Ann Lee" ∧
    (spacedNameSession.run spacedNameTurns).2.conversation.previousAnswer = "HiAnn Lee!" ∧
    (spacedNameSession.run spacedNameTurns).2.conversation.Clean := by
  have hquestions : ∀ turn ∈ spacedNameTurns, turn.isQuestion = true := by
    intro turn hturn
    cases List.mem_singleton.1 hturn
    rfl
  exact ⟨rfl, hquestions, by decide +kernel, by decide +kernel, (clean_run rfl hquestions).1⟩

end Session

end Dialogue
