import Dialogue.Proofs.Resolution.Scanning
import Dialogue.Proofs.Session.Turns
import Dialogue.Snapshot.Basic

/-!
# Sessions that go on from a snapshot

A snapshot does not keep what the wildcards of the last question took.  Nothing of it is
read before the next question is resolved, and that question begins with new captures.
So a session that goes on from a snapshot gives the replies that it would have given
without.

Main results:

- Theorem `GoesOnLike.ask`: a question that is resolved leaves the same session behind.
- Theorem `replies_restored`: turns after a snapshot come to what they come to without.
-/

namespace Dialogue.Session

/-- Sessions that differ at most in what the wildcards of the last question took. -/
structure GoesOnLike (s s' : Session) : Prop where
  vars : s.conversation.vars = s'.conversation.vars
  previousAnswer : s.conversation.previousAnswer = s'.conversation.previousAnswer
  options : s.options = s'.options
  draws : s.draws = s'.draws

namespace GoesOnLike

variable {s s' : Session}

/-- A question has the same answer in both sessions, and leaves the same session behind. -/
theorem ask (h : s.GoesOnLike s') (bot : Bot) (input : String) :
    s.ask bot input = s'.ask bot input := by
  have hanswers : answers bot s.options s.conversation input =
      answers bot s'.options s'.conversation input := by
    rw [answers, answers, resolve_congr s.options.maxRedirectDepth h.vars h.previousAnswer,
      h.options]
  rw [Session.ask, Session.ask, hanswers, h.options, h.draws]

/-- A turn has the same reply in both sessions, and they go on alike.  If the turn is a
question that is resolved, then no difference is left. -/
theorem perform (h : s.GoesOnLike s') (turn : Turn) :
    (s.perform turn).1 = (s'.perform turn).1 ∧
      (s.perform turn).2.GoesOnLike (s'.perform turn).2 ∧
      (turn.isResolved s.options = true → (s.perform turn).2 = (s'.perform turn).2) := by
  cases turn with
  | ask manner input =>
    rw [Turn.isResolved]
    cases hfound : manner.found s.options with
    | some bot =>
      have hfound' : manner.found s'.options = some bot := h.options ▸ hfound
      rw [perform_ask_of_found hfound, perform_ask_of_found hfound', h.ask bot input]
      exact ⟨rfl, ⟨rfl, rfl, rfl, rfl⟩, fun _ => rfl⟩
    | none =>
      have hfound' : manner.found s'.options = none := h.options ▸ hfound
      rw [perform_ask_of_not_found hfound, perform_ask_of_not_found hfound']
      exact ⟨rfl, h, nofun⟩
  | set name value =>
    have hvars : s.conversation.vars.insert name value = s'.conversation.vars.insert name value :=
      congrArg (·.insert name value) h.vars
    exact ⟨rfl, ⟨hvars, h.previousAnswer, h.options, h.draws⟩, nofun⟩
  | remove name =>
    have hvars : s.conversation.vars.erase name = s'.conversation.vars.erase name :=
      congrArg (·.erase name) h.vars
    exact ⟨rfl, ⟨hvars, h.previousAnswer, h.options, h.draws⟩, nofun⟩

/-- Turns have the same replies in both sessions, and they go on alike.  Once a question
has been resolved, no difference is left. -/
theorem run (h : s.GoesOnLike s') (turns : List Turn) :
    (s.run turns).1 = (s'.run turns).1 ∧
      (s.run turns).2.GoesOnLike (s'.run turns).2 ∧
      (turns.any (·.isResolved s.options) = true → (s.run turns).2 = (s'.run turns).2) := by
  induction turns generalizing s s' with
  | nil => exact ⟨rfl, h, nofun⟩
  | cons turn turns ih =>
    rcases h.perform turn with ⟨hreply, hafter, hsame⟩
    rcases ih hafter with ⟨hreplies, hend, hsameEnd⟩
    rw [run_cons, run_cons, hreply, hreplies, List.any_cons]
    refine ⟨rfl, hend, ?_⟩
    intro hresolved
    rcases Bool.or_eq_true_iff.1 hresolved with hfirst | hlater
    · rw [hsame hfirst]
    · rw [options_perform] at hsameEnd
      exact hsameEnd hlater

end GoesOnLike

/-- A session that goes on from a snapshot has no captures any more, but it gives the
same replies to whatever turns come, and after the first question that is resolved it is
the session that it would have been without the snapshot. -/
theorem replies_restored (session : Session) (now : Instant) (turns : List Turn) :
    let restored := session.withConversation (Snapshot.capture now session.conversation).restore
    let resumed := restored.run turns
    let continued := session.run turns
    restored.conversation = session.conversation.forgetCaptures ∧
      resumed.1 = continued.1 ∧ resumed.2.GoesOnLike continued.2 ∧
      (turns.any (·.isResolved session.options) = true → resumed.2 = continued.2) := by
  intro restored resumed continued
  have h : restored.GoesOnLike session := ⟨rfl, rfl, rfl, rfl⟩
  exact ⟨Snapshot.restore_capture now session.conversation, h.run turns⟩

/-- A rule that greets somebody after somebody else has been greeted. -/
def greetsAgain : Category where
  pattern := ⟨[.text "I AM *"]⟩
  that := some ⟨[.text "HELLO *"]⟩
  template := [.text "Hello ", .star, .text ", not ", .get "friend", .text "."]

/-- A session that has greeted Tom goes on from a snapshot and greets Ann. -/
theorem replies_restored_greetsAgain :
    let bot : Bot := ⟨.empty, ⟨[greetsAgain], 1⟩, {}⟩
    let session : Session := ⟨⟨.empty, ["Tom"], "Tom", "Hello Tom"⟩, {}, ⟨fun _ => 0, 0⟩⟩
    let now : Instant := ⟨⟨1970, 1, 1, by decide⟩, 0, 0, by decide⟩
    let restored := session.withConversation (Snapshot.capture now session.conversation).restore
    let turns : List Turn := [.set "friend" "Tom", .ask (.now bot) "I am Ann", .remove "friend"]
    restored.conversation ≠ session.conversation ∧
      (session.run turns).2.conversation.previousAnswer = "Hello Ann, not Tom." ∧
      restored.run turns = session.run turns := by
  intro bot session now restored turns
  obtain ⟨-, hreplies, -, hsession⟩ := replies_restored session now turns
  refine ⟨by decide +kernel, by decide +kernel, Prod.ext hreplies (hsession ?_)⟩
  decide +kernel

end Dialogue.Session
