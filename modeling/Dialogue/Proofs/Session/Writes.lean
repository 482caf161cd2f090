import Dialogue.Proofs.Resolution.Writes
import Dialogue.Proofs.Session.Turns

/-!
# What a question changes in a session

However a question is asked and whatever comes of it, the variables that no template binds keep
their values or stay unbound, no variable is removed, and the previous answer is replaced only if
there is an answer.

Main results:

- Theorem `Session.writesWithin_ask`: what an answer changes.
- Theorem `Session.writesWithin_perform`: what a question changes, resolved or not.
-/

namespace Dialogue

/-- The outcome that a reply reports, if it is that of a question. -/
def Reply.outcome? : Reply → Option Outcome
  | .answer given => some given.outcome
  | _ => none

namespace Session

/-- The rules by which a question is resolved; none if it is not resolved. -/
def Manner.rules (options : Options) (manner : Manner) : KnowledgeBase :=
  (manner.found options).elim .empty Bot.knowledge

/-- What a question with an outcome may change in a session, if it is resolved by some rules. -/
structure WritesWithin (rules : KnowledgeBase) (outcome : Option Outcome)
    (before after : Session) : Prop where
  /-- No variable is removed. -/
  bound : ∀ name, (before.conversation.vars.get? name).isSome →
    (after.conversation.vars.get? name).isSome
  /-- A variable that no template binds keeps its value, or stays unbound. -/
  spared : ∀ name, rules.spares name = true →
    after.conversation.vars.get? name = before.conversation.vars.get? name
  /-- Only an answer replaces the previous one. -/
  previousAnswer : after.conversation.previousAnswer ≠ before.conversation.previousAnswer →
    outcome = some .matched

/-- Nothing may always be changed. -/
theorem WritesWithin.refl (rules : KnowledgeBase) (outcome : Option Outcome) (s : Session) :
    WritesWithin rules outcome s s where
  bound _ := id
  spared _ _ := rfl
  previousAnswer hchanged := absurd rfl hchanged

/-- An answer changes what it may. -/
theorem writesWithin_ask (s : Session) (bot : Bot) (input : String) :
    WritesWithin bot.knowledge (some (s.ask bot input).1.outcome) s (s.ask bot input).2 := by
  rcases s.exists_resolved_ask bot input with ⟨resolved, hresolved, hoffered, hafter⟩
  refine ⟨?_, ?_, ?_⟩ <;> rw [hafter]
  · exact fun name => isSome_get?_of_resolve hresolved
  · exact fun name => get?_of_spares hresolved
  · intro hchanged
    rw [hoffered, Answer.ofResolved]
    have hmatched : resolved.resolution.outcome = .matched :=
      by_contra fun hother => hchanged (previousAnswer_of_resolve hresolved hother)
    exact congrArg some hmatched

/-- For all rules, sessions, questions, options and draws, however a question is asked and
whatever comes of it: no variable is removed, a variable that no template of the rules binds keeps
its value or stays unbound, and the previous answer changes only if the question is answered. -/
theorem writesWithin_perform (s : Session) (manner : Manner) (input : String) :
    WritesWithin (manner.rules s.options) (s.perform (.ask manner input)).1.outcome? s
      (s.perform (.ask manner input)).2 := by
  cases hfound : manner.found s.options with
  | some bot =>
    rw [perform_ask_of_found hfound, Manner.rules, hfound]
    exact writesWithin_ask s bot input
  | none =>
    rw [perform_ask_of_not_found hfound]
    exact WritesWithin.refl _ _ s

end Session

end Dialogue
