import Dialogue.Proofs.Resolution.Markup
import Dialogue.Proofs.Session.Turns

/-!
# Sessions that bring in no markup

A user cannot bring a character of markup into a conversation.  If neither the templates nor the
attributes of the bots that answer have the character, and neither do the variables at the
beginning, then no turn shows it: not in an answer, not in a capture, not in a variable, and not
in the last wildcard.

Main results:

- Theorem `freeOf_perform`: what one turn keeps out.
- Theorem `markup_free_run`: what all turns keep out, in every reply and in what is left.
-/

namespace Dialogue

variable {c : Char}

/-- Whether a bot brings a character neither from its templates nor from its attributes. -/
structure Bot.FreeOf (c : Char) (bot : Bot) : Prop where
  knowledge : bot.knowledge.FreeOf c
  profile : bot.profile.FreeOf c

/-- An answer whose text and captures do not have a character; the question that it repeats
may have it. -/
structure Answer.FreeOf (c : Char) (answer : Answer) : Prop where
  text : ∀ text ∈ answer.answer, Lacks c text
  capturesUpper : ∀ capture ∈ answer.capturesUpper, Lacks c capture
  winner : ∀ summary ∈ answer.winner, ∀ capture ∈ summary.captures, Lacks c capture

/-- A reply without a character, if it is an answer. -/
def Reply.FreeOf (c : Char) : Reply → Prop
  | .answer given => given.FreeOf c
  | _ => True

namespace Session

/-- A turn that brings a character at most with a question: the bot that is found does not have
it, and neither does a text that a variable is bound to. -/
def Turn.FreeOf (c : Char) (options : Options) : Turn → Prop
  | .ask manner _ => ∀ bot ∈ manner.found options, bot.FreeOf c
  | .set _ value => Lacks c value
  | .remove _ => True

/-- The answer that is reported has no character of markup if what is resolved has not. -/
theorem freeOf_ofResolved (hc : c ∈ markupChars) (kb : KnowledgeBase) (input : String)
    {resolved : Resolved} (hanswer : ∀ text ∈ resolved.resolution.answer, Lacks c text)
    (hcaptures : ∀ capture ∈ resolved.resolution.captures, Lacks c capture) :
    (Answer.ofResolved kb input resolved).FreeOf c where
  text := hanswer
  capturesUpper := by
    intro capture hcapture
    rcases List.mem_map.1 hcapture with ⟨original, hmem, rfl⟩
    exact (hcaptures original hmem).uppercase hc
  winner := by
    intro summary hsummary
    rcases Option.bind_eq_some_iff.1 hsummary with ⟨index, _, hindex⟩
    rcases Option.bind_eq_some_iff.1 hindex with ⟨category, _, hcategory⟩
    cases hcategory
    exact hcaptures

/-- A question brings no character of markup into the answer or the conversation. -/
theorem freeOf_ask (hc : c ∈ markupChars) {s : Session} (hvars : s.conversation.vars.FreeOf c)
    {bot : Bot} (hbot : bot.FreeOf c) (input : String) :
    (s.ask bot input).1.FreeOf c ∧ (s.ask bot input).2.conversation.FreeOf c := by
  have hmem := Choice.follow_mem_outcomes (answers bot s.options s.conversation input) s.draws
  unfold answers at hmem
  rcases Choice.mem_outcomes_bind.1 hmem with ⟨resolved, hresolved, hout⟩
  have hout := Choice.mem_outcomes_pure.1 hout
  rcases freeOf_of_resolve hc hbot.knowledge hbot.profile hvars hresolved with
    ⟨hanswer, hcaptures, hkept⟩
  have hreported := freeOf_ofResolved hc bot.knowledge input hanswer hcaptures
  simp only [ask, answers, hout]
  exact ⟨hreported, hkept⟩

/-- A turn brings no character of markup into its reply or into the conversation. -/
theorem freeOf_perform (hc : c ∈ markupChars) {s : Session} (hs : s.conversation.FreeOf c)
    {turn : Turn} (hturn : turn.FreeOf c s.options) :
    (s.perform turn).1.FreeOf c ∧ (s.perform turn).2.conversation.FreeOf c := by
  cases turn with
  | ask manner input =>
    cases hfound : manner.found s.options with
    | none =>
      rw [perform_ask_of_not_found hfound]
      refine ⟨?_, hs⟩
      cases manner with
      | now bot => exact trivial
      | waiting looks => exact ⟨nofun, nofun, nofun⟩
    | some bot =>
      rw [perform_ask_of_found hfound]
      exact freeOf_ask hc hs.vars (hturn bot hfound) input
  | set name value => exact ⟨trivial, hs.set name hturn⟩
  | remove name => exact ⟨trivial, hs.remove name⟩

/-- In a session that begins, or goes on from a snapshot, with variables that do not have a
character of markup, no turns bring it in, whatever the questions say and whatever is drawn: it
is in no answer, in no capture, in no variable and not in the last wildcard. -/
theorem markup_free_run (hc : c ∈ markupChars) {s : Session}
    (hbegins : s.conversation.forgetCaptures = s.conversation)
    (hvars : s.conversation.vars.FreeOf c) {turns : List Turn}
    (hturns : ∀ turn ∈ turns, turn.FreeOf c s.options) :
    (∀ reply ∈ (s.run turns).1, reply.FreeOf c) ∧ (s.run turns).2.conversation.FreeOf c := by
  have hs : s.conversation.FreeOf c := by
    rw [← hbegins]
    exact Conversation.FreeOf.forgetCaptures hvars
  clear hbegins hvars
  induction turns generalizing s with
  | nil => exact ⟨fun _ hreply => absurd hreply List.not_mem_nil, hs⟩
  | cons turn turns ih =>
    rw [List.forall_mem_cons] at hturns
    rcases freeOf_perform hc hs hturns.1 with ⟨hreply, hafter⟩
    have hlater : ∀ later ∈ turns, later.FreeOf c (s.perform turn).2.options := by
      rw [options_perform]
      exact hturns.2
    rcases ih hlater hafter with ⟨hreplies, hend⟩
    rw [run_cons]
    exact ⟨List.forall_mem_cons.2 ⟨hreply, hreplies⟩, hend⟩

/-- A rule that keeps a name in capitalised form. -/
def keepsFormalName : Category where
  pattern := ⟨[.text "MY <B>NAME</B> IS *"]⟩
  that := none
  template := [.text "Hi ", .set "name" [.recase .formal [.star]], .text "!"]

/-- A rule that repeats the name in capitals. -/
def repeatsName : Category where
  pattern := ⟨[.text "WHO < *"]⟩
  that := none
  template := [.recase .upper [.get "name"], .text " & ", .star]

/-- A bot of both rules. -/
def namesBot : Bot := ⟨.empty, ⟨[keepsFormalName, repeatsName], 1⟩, {}⟩

/-- A session that begins. -/
def namesSession : Session := ⟨.start .empty, {}, ⟨fun _ => 0, 0⟩⟩

/-- Two questions with markup in them. -/
def namesTurns : List Turn :=
  [.ask (.now namesBot) "My <b>name</b> is ann", .ask (.waiting fun _ => namesBot) "Who < bob?"]

/-- The bot has no angle bracket but in its patterns. -/
theorem freeOf_namesBot : namesBot.FreeOf '<' where
  knowledge := by
    intro category hcategory
    have hall : namesBot.knowledge.categories.all
        (fun category => Fragment.everyOf (Fragment.isFreeOf '<') category.template) = true := by
      decide +kernel
    exact List.all_eq_true.1 hall category hcategory
  profile := nofun

/-- The user writes angle brackets, and none comes back. -/
theorem markup_free_run_namesBot :
    '<' ∈ markupChars ∧
    namesSession.conversation.forgetCaptures = namesSession.conversation ∧
    namesSession.conversation.vars.FreeOf '<' ∧
    (namesSession.run namesTurns).2.conversation.previousAnswer = "ANN & bob" ∧
    (∀ reply ∈ (namesSession.run namesTurns).1, reply.FreeOf '<') ∧
    (namesSession.run namesTurns).2.conversation.FreeOf '<' := by
  have hmark : '<' ∈ markupChars := by decide
  have hvars : namesSession.conversation.vars.FreeOf '<' := nofun
  have hturns : ∀ turn ∈ namesTurns, turn.FreeOf '<' namesSession.options := by
    intro turn hturn
    rcases List.mem_cons.1 hturn with rfl | hturn
    · rintro bot ⟨⟩
      exact freeOf_namesBot
    · rcases List.mem_singleton.1 hturn with rfl
      rintro bot ⟨⟩
      exact freeOf_namesBot
  exact ⟨hmark, rfl, hvars, by decide +kernel, markup_free_run hmark rfl hvars hturns⟩

end Session

end Dialogue
