import Dialogue.Host.Command
import Dialogue.Proofs.Resolution.Steps

/-!
# Turns of a session

A session goes on turn by turn: a question is asked, or a variable is bound or removed.
What comes of a question depends on the bot at the look that finds the load gate open,
if there is one.

Main results:

- Theorem `perform_ask_of_found`, `perform_ask_of_not_found`: what comes of a question.
- Theorem `exists_resolved_ask`: an answer reports an outcome of the request.
- Theorem `Host.performWith_of_turn?`: a host goes on in a session by turns.
-/

namespace Dialogue

namespace Session

/-! ## Turns -/

/-- How a question is asked. -/
inductive Manner where
  /-- The bot answers right away, or not at all. -/
  | now (bot : Bot)
  /-- The question waits for rule sources; `looks` says how the bot is found at each look
  at the load gate. -/
  | waiting (looks : Nat → Bot)

namespace Manner

/-- The bot that resolves a question, if the load gate is found open. -/
def found (options : Options) : Manner → Option Bot
  | now bot => if bot.isReady then some bot else none
  | waiting looks => firstReady looks options.maxRetries

/-- The reply to a question that is not resolved. -/
def refusal (input : String) : Manner → Reply
  | now _ => .failed .notReady
  | waiting _ => .answer (.unanswered input .loadTimeout)

end Manner

/-- A turn of a session. -/
inductive Turn where
  | ask (manner : Manner) (input : String)
  | set (name value : String)
  | remove (name : String)

/-- Whether a turn is a question that is resolved. -/
def Turn.isResolved (options : Options) : Turn → Bool
  | ask manner _ => (manner.found options).isSome
  | _ => false

/-- The reply to a turn, and the session afterwards. -/
def perform (s : Session) : Turn → Reply × Session
  | .ask (.now bot) input =>
    match s.askNow bot input with
    | some (answer, session) => (.answer answer, session)
    | none => (.failed .notReady, s)
  | .ask (.waiting looks) input =>
    let (answer, session) := s.askWaiting looks input
    (.answer answer, session)
  | .set name value => (.done, s.withConversation (s.conversation.set name value))
  | .remove name => (.done, s.withConversation (s.conversation.remove name))

/-- The replies to turns in their order, and the session afterwards. -/
def run (s : Session) : List Turn → List Reply × Session
  | [] => ([], s)
  | turn :: turns =>
    let (reply, session) := s.perform turn
    let (replies, session) := session.run turns
    (reply :: replies, session)

/-- A question is resolved by the bot that is found at the load gate; if none is found,
it is refused, and the session stays as it is. -/
theorem perform_ask (s : Session) (manner : Manner) (input : String) :
    s.perform (.ask manner input) =
      match manner.found s.options with
      | some bot => (.answer (s.ask bot input).1, (s.ask bot input).2)
      | none => (manner.refusal input, s) := by
  cases manner with
  | now bot =>
    rw [perform, askNow, Manner.found]
    cases bot.isReady with
    | true => rfl
    | false => rfl
  | waiting looks =>
    rw [perform, askWaiting, Manner.found]
    cases firstReady looks s.options.maxRetries with
    | some bot => rfl
    | none => rfl

/-- A question is resolved by the bot that is found. -/
theorem perform_ask_of_found {s : Session} {manner : Manner} {bot : Bot}
    (hfound : manner.found s.options = some bot) (input : String) :
    s.perform (.ask manner input) = (.answer (s.ask bot input).1, (s.ask bot input).2) := by
  rw [perform_ask, hfound]

/-- If no bot is found, the session stays as it is. -/
theorem perform_ask_of_not_found {s : Session} {manner : Manner}
    (hfound : manner.found s.options = none) (input : String) :
    s.perform (.ask manner input) = (manner.refusal input, s) := by
  rw [perform_ask, hfound]

/-- An answer reports an outcome of the request, which leaves its conversation to the session. -/
theorem exists_resolved_ask (s : Session) (bot : Bot) (input : String) :
    ∃ resolved ∈ (resolve bot.knowledge bot.profile s.options.maxRedirectDepth s.conversation
        input).outcomes,
      (s.ask bot input).1 = Answer.ofResolved bot.knowledge input resolved ∧
        (s.ask bot input).2.conversation = resolved.request.conversation := by
  have hmem := Choice.follow_mem_outcomes (answers bot s.options s.conversation input) s.draws
  rcases Choice.mem_outcomes_bind.1 hmem with ⟨resolved, hresolved, hpure⟩
  have hpair := Choice.mem_outcomes_pure.1 hpure
  exact ⟨resolved, hresolved, congrArg Prod.fst hpair, congrArg Prod.snd hpair⟩

/-- Turns come one after another. -/
theorem run_cons (s : Session) (turn : Turn) (turns : List Turn) :
    s.run (turn :: turns) =
      ((s.perform turn).1 :: ((s.perform turn).2.run turns).1,
        ((s.perform turn).2.run turns).2) := rfl

/-- No turn changes the options. -/
@[simp] theorem options_perform (s : Session) (turn : Turn) :
    (s.perform turn).2.options = s.options := by
  cases turn with
  | ask manner input =>
    cases hfound : manner.found s.options with
    | some bot => rw [perform_ask_of_found hfound, ask]
    | none => rw [perform_ask_of_not_found hfound]
  | set name value => rfl
  | remove name => rfl

/-! ## Questions one after the other -/

/-- A session that has just begun with a stream of draws. -/
def fresh (options : Options) (draws : Draws) : Session := ⟨.start .empty, options, draws⟩

/-- The answers to questions that are asked one after the other, and the session afterwards. -/
def askEach (s : Session) (bot : Bot) : List String → List Answer × Session
  | [] => ([], s)
  | question :: questions =>
    let (answer, session) := s.ask bot question
    let (answers, session) := session.askEach bot questions
    (answer :: answers, session)

/-- Questions are asked one after the other. -/
theorem askEach_cons (s : Session) (bot : Bot) (question : String) (questions : List String) :
    s.askEach bot (question :: questions) =
      ((s.ask bot question).1 :: ((s.ask bot question).2.askEach bot questions).1,
        ((s.ask bot question).2.askEach bot questions).2) := rfl

end Session

/-! ## Hosts -/

namespace Host

/-- Waiting for a load does not touch the sessions. -/
theorem session?_await (host : Host) (retries index : Nat) :
    (host.await retries).session? index = host.session? index := by
  unfold await
  split
  · rfl
  · unfold settle
    cases host.background with
    | idle => rfl
    | running batch => rfl
    | ended result => rfl

/-- A session that exists can be gone on with. -/
theorem session?_setSession_self {host : Host} {index : Nat} {session : Session}
    (hsession : host.session? index = some session) (after : Session) :
    (host.setSession index after).session? index = some after := by
  have hlt : index < host.sessions.length := (List.getElem?_eq_some_iff.1 hsession).1
  exact List.getElem?_set_self hlt

/-- The turn that a command takes in a session, unless it is about something else than
questions and variables. -/
def turn? (host : Host) : SessionCommand → Option Session.Turn
  | .ask input => some (.ask (.now host.bot) input)
  | .askWaiting input => some (.ask (.waiting host.looks) input)
  | .set name value => some (.set name value)
  | .remove name => some (.remove name)
  | _ => none

/-- A host goes on in a session by the turn that a command takes. -/
theorem performWith_of_turn? {now : Instant} {host : Host} {index : Nat} {session : Session}
    {command : SessionCommand} {turn : Session.Turn} (hturn : host.turn? command = some turn)
    (hsession : host.session? index = some session) :
    let performed := host.performWith now index session command
    performed.1 = (session.perform turn).1 ∧
      performed.2.session? index = some (session.perform turn).2 := by
  cases command with
  | ask input =>
    cases hturn
    simp only [performWith, Session.perform]
    cases session.askNow host.bot input with
    | some asked => exact ⟨rfl, session?_setSession_self hsession _⟩
    | none => exact ⟨rfl, hsession⟩
  | askWaiting input =>
    cases hturn
    simp only [performWith, Session.perform]
    have hawaited := fun retries => (session?_await host retries index).trans hsession
    exact ⟨trivial, session?_setSession_self (hawaited _) _⟩
  | set name value =>
    cases hturn
    exact ⟨rfl, session?_setSession_self hsession _⟩
  | remove name =>
    cases hturn
    exact ⟨rfl, session?_setSession_self hsession _⟩
  | _ => cases hturn

end Host

end Dialogue
