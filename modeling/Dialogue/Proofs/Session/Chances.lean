import Dialogue.Proofs.Choice
import Dialogue.Proofs.Resolution.Course
import Dialogue.Proofs.Resolution.Settled
import Dialogue.Proofs.Session.Turns

/-!
# What a session can answer

Questions that are asked one after the other in a new session can be answered in exactly the ways
that the rules for the work on a question allow, in which every random fragment takes any of its
alternatives whenever it is evaluated.  Whatever these rules allow is answered under some stream
of draws, and no stream leads to anything else.

Main results:

- Theorem `Bot.goesThrough_askEach`: what a stream of draws leads to is allowed.
- Theorem `Bot.GoesThrough.exists_picks`: what is allowed comes of some draws.
- Theorem `follow_random`: every evaluation of a random fragment uses one draw of its own.
- Theorem `exists_draws_iff_goesThrough`: both together, and what is left without a choice.
-/

namespace Dialogue

/-! ## Single questions -/

/-- The answers that a question can have are what the rules give for the scan at depth zero. -/
theorem Session.mem_outcomes_answers_iff {bot : Bot} {options : Options}
    {conversation : Conversation} {question : String} {out : Answer × Conversation} :
    out ∈ (Session.answers bot options conversation question).outcomes ↔
      ∃ hit request, Course.Possible bot.knowledge bot.profile options.maxRedirectDepth
          (.scan 0 question { conversation := conversation.forgetCaptures } hit request) ∧
        out = (Answer.ofResolved bot.knowledge question (request.conclude hit),
          (request.conclude hit).request.conversation) := by
  rw [Session.answers, Choice.mem_outcomes_bind]
  constructor
  · rintro ⟨resolved, hresolved, hpure⟩
    rcases mem_outcomes_resolve_iff.1 hresolved with ⟨hit, request, hpossible, rfl⟩
    exact ⟨hit, request, hpossible, Choice.mem_outcomes_pure.1 hpure⟩
  · rintro ⟨hit, request, hpossible, rfl⟩
    exact ⟨request.conclude hit, mem_outcomes_resolve_iff.2 ⟨hit, request, hpossible, rfl⟩,
      Choice.mem_outcomes_pure.2 rfl⟩

/-! ## What is allowed -/

namespace Bot

/-- What a bot can answer to questions that are asked one after the other from a conversation on,
and the conversation afterwards: each question is answered by any course that is possible then,
whatever has been taken for the questions before. -/
inductive GoesThrough (bot : Bot) (options : Options) :
    Conversation → List String → List Answer → Conversation → Prop
  | nil {conversation} : GoesThrough bot options conversation [] [] conversation
  | cons {conversation question questions hit request answers last}
    (hfirst : Course.Possible bot.knowledge bot.profile options.maxRedirectDepth
      (.scan 0 question { conversation := conversation.forgetCaptures } hit request))
    (hrest : GoesThrough bot options (request.conclude hit).request.conversation questions answers
      last) :
    GoesThrough bot options conversation (question :: questions)
      (Answer.ofResolved bot.knowledge question (request.conclude hit) :: answers) last

variable {bot : Bot} {options : Options}

/-- What a stream of draws leads to is allowed. -/
theorem goesThrough_askEach (bot : Bot) (s : Session) (questions : List String) :
    bot.GoesThrough s.options s.conversation questions (s.askEach bot questions).1
      (s.askEach bot questions).2.conversation := by
  induction questions generalizing s with
  | nil => exact .nil
  | cons question questions ih =>
    have hmem := Choice.follow_mem_outcomes
      (Session.answers bot s.options s.conversation question) s.draws
    rcases Session.mem_outcomes_answers_iff.1 hmem with ⟨hit, request, hpossible, hout⟩
    have hanswer : (s.ask bot question).1 =
        Answer.ofResolved bot.knowledge question (request.conclude hit) := congrArg Prod.fst hout
    have hconversation : (s.ask bot question).2.conversation =
        (request.conclude hit).request.conversation := congrArg Prod.snd hout
    have hrest := ih (s.ask bot question).2
    rw [hconversation] at hrest
    rw [Session.askEach_cons, hanswer]
    exact .cons hpossible hrest

/-- What is allowed comes of some draws, wherever they stand in the stream of a session. -/
theorem GoesThrough.exists_picks {conversation last : Conversation} {questions : List String}
    {answers : List Answer}
    (h : bot.GoesThrough options conversation questions answers last) :
    ∃ picks : List Nat, ∀ draws : Draws, draws.Offers picks →
      (Session.mk conversation options draws).askEach bot questions =
        (answers, ⟨last, options, draws.skip picks.length⟩) := by
  induction h with
  | nil => exact ⟨[], fun draws _ => rfl⟩
  | @cons conversation question questions hit request answers last hfirst _ ih =>
    have hmem : (Answer.ofResolved bot.knowledge question (request.conclude hit),
        (request.conclude hit).request.conversation) ∈
        (Session.answers bot options conversation question).outcomes :=
      Session.mem_outcomes_answers_iff.2 ⟨hit, request, hfirst, rfl⟩
    rcases Choice.exists_picks_of_mem_outcomes hmem with ⟨picks, hpicks⟩
    rcases ih with ⟨later, hlater⟩
    refine ⟨picks ++ later, fun draws hoffers => ?_⟩
    rcases Draws.offers_append.1 hoffers with ⟨hnow, hthen⟩
    have hask : (Session.mk conversation options draws).ask bot question =
        (Answer.ofResolved bot.knowledge question (request.conclude hit),
          ⟨(request.conclude hit).request.conversation, options, draws.skip picks.length⟩) := by
      simp only [Session.ask, hpicks draws hnow]
    rw [Session.askEach_cons, hask, hlater _ hthen]
    simp only [Draws.skip, List.length_append, Nat.add_assoc]

end Bot

/-! ## Single choices -/

/-- Every evaluation of a random fragment uses one draw of its own, whose remainder is the position
of the alternative that answers. -/
theorem follow_random (setting : Setting) {alternatives : List Fragment} (hne : alternatives ≠ [])
    (frame : Frame) (draws : Draws) :
    ∃ alternative,
      alternatives[draws.value draws.used % alternatives.length]? = some alternative ∧
      ((evaluateFragment setting (.random alternatives)).run frame).follow draws =
        (((·.getD "") <$> respond setting alternative.asAlternative).run frame).follow
          (draws.skip 1) := by
  obtain ⟨n, hlength⟩ := Nat.exists_eq_succ_of_ne_zero (mt List.length_eq_zero_iff.1 hne)
  have hlt : draws.value draws.used % alternatives.length < alternatives.length :=
    Nat.mod_lt _ (List.length_pos_iff.2 hne)
  refine ⟨_, List.getElem?_eq_getElem hlt, ?_⟩
  have hdraw : ((evaluateFragment setting (.random alternatives)).run frame).follow draws =
      (((·.getD "") <$> respondAt setting alternatives
        (draws.value draws.used % alternatives.length)).run frame).follow (draws.skip 1) := by
    rw [evaluateFragment, hlength, map_eq_pure_bind]
    rfl
  rw [hdraw, respondAt_eq, List.getElem?_eq_getElem hlt]

/-! ## Without a choice -/

/-- If no template leaves a choice, then neither the stream of draws nor the seed matters. -/
theorem askEach_congr_of_haveOneWay {bot : Bot} (hone : HaveOneWay bot.knowledge.categories)
    (s s' : Session) (hconversation : s.conversation = s'.conversation)
    (hlimit : s.options.maxRedirectDepth = s'.options.maxRedirectDepth)
    (questions : List String) :
    (s.askEach bot questions).1 = (s'.askEach bot questions).1 ∧
      (s.askEach bot questions).2.conversation = (s'.askEach bot questions).2.conversation := by
  induction questions generalizing s s' with
  | nil => exact ⟨rfl, hconversation⟩
  | cons question questions ih =>
    have hsame : Session.answers bot s.options s.conversation question =
        Session.answers bot s'.options s'.conversation question := by
      rw [Session.answers, Session.answers, hconversation, hlimit]
    have hsettled : (Session.answers bot s'.options s'.conversation question).IsSettled :=
      (isSettled_resolve hone bot.profile _ s'.conversation question).bind fun resolved =>
        Choice.isSettled_pure _
    have hout : ((Session.answers bot s.options s.conversation question).follow s.draws).1 =
        ((Session.answers bot s'.options s'.conversation question).follow s'.draws).1 := by
      rw [hsame]
      exact hsettled.follow_eq s.draws s'.draws
    have hanswer : (s.ask bot question).1 = (s'.ask bot question).1 :=
      (congrArg Prod.fst hout :)
    have hafter : (s.ask bot question).2.conversation = (s'.ask bot question).2.conversation :=
      (congrArg Prod.snd hout :)
    rcases ih _ _ hafter hlimit with ⟨hanswers, hlast⟩
    rw [Session.askEach_cons, Session.askEach_cons, hanswer, hanswers]
    exact ⟨rfl, hlast⟩

/-! ## All streams of draws -/

/-- In a new session, questions that are asked one after the other are answered under some stream
of draws exactly in the ways that the rules allow.  Every evaluation of a random fragment that has
alternatives uses one draw of its own and takes the alternative at its remainder, so that no
alternative is out of reach and none is out of range.  If no template has a random fragment with
several alternatives, then there is one way through the questions, whatever the seed is. -/
theorem exists_draws_iff_goesThrough (bot : Bot) (options : Options) (questions : List String) :
    (∀ answers last,
      (∃ value : Nat → Nat,
        let asked := (Session.fresh options ⟨value, 0⟩).askEach bot questions
        asked.1 = answers ∧ asked.2.conversation = last) ↔
      bot.GoesThrough options (.start .empty) questions answers last) ∧
    (∀ (setting : Setting) (alternatives : List Fragment) (frame : Frame) (draws : Draws),
      alternatives ≠ [] →
      ∃ alternative,
        alternatives[draws.value draws.used % alternatives.length]? = some alternative ∧
        ((evaluateFragment setting (.random alternatives)).run frame).follow draws =
          (((·.getD "") <$> respond setting alternative.asAlternative).run frame).follow
            (draws.skip 1)) ∧
    (HaveOneWay bot.knowledge.categories →
      (∃! out : List Answer × Conversation,
        bot.GoesThrough options (.start .empty) questions out.1 out.2) ∧
      ∀ (seed seed' : Option Nat) (entropy entropy' : Nat),
        ((Session.new { options with seed := seed } entropy).askEach bot questions).1 =
          ((Session.new { options with seed := seed' } entropy').askEach bot questions).1) := by
  have hstreams : ∀ answers last,
      (∃ value : Nat → Nat,
        let asked := (Session.fresh options ⟨value, 0⟩).askEach bot questions
        asked.1 = answers ∧ asked.2.conversation = last) ↔
      bot.GoesThrough options (.start .empty) questions answers last := by
    intro answers last
    constructor
    · rintro ⟨value, rfl, rfl⟩
      exact bot.goesThrough_askEach (Session.fresh options ⟨value, 0⟩) questions
    · intro h
      rcases h.exists_picks with ⟨picks, hpicks⟩
      rcases Draws.exists_offers picks with ⟨value, hoffers⟩
      have hasked := hpicks ⟨value, 0⟩ hoffers
      exact ⟨value, congrArg Prod.fst hasked, congrArg (·.2.conversation) hasked⟩
  refine ⟨hstreams, fun setting _ frame draws hne => follow_random setting hne frame draws, ?_⟩
  intro hone
  constructor
  · let first := (Session.fresh options ⟨fun _ => 0, 0⟩).askEach bot questions
    refine ⟨(first.1, first.2.conversation), (hstreams _ _).1 ⟨fun _ => 0, rfl, rfl⟩, ?_⟩
    rintro ⟨answers, last⟩ hout
    rcases (hstreams answers last).2 hout with ⟨value, rfl, rfl⟩
    have hsame := askEach_congr_of_haveOneWay hone (Session.fresh options ⟨value, 0⟩)
      (Session.fresh options ⟨fun _ => 0, 0⟩) rfl rfl questions
    exact Prod.ext hsame.1 hsame.2
  · intro seed seed' entropy entropy'
    exact (askEach_congr_of_haveOneWay hone (.new { options with seed := seed } entropy)
      (.new { options with seed := seed' } entropy') rfl rfl questions).1

/-- A rule that flips a coin. -/
def flipsCoin : Category where
  pattern := ⟨[.text "FLIP"]⟩
  that := none
  template := [.random [.item [.text "heads"], .item [.text "tails"]]]

/-- A rule that asks for two flips. -/
def flipsTwice : Category where
  pattern := ⟨[.text "FLIP TWICE"]⟩
  that := none
  template := [.redirect [.text "flip"], .text " ", .redirect [.text "flip"]]

/-- A bot of both rules. -/
def coinBot : Bot := ⟨.empty, ⟨[flipsCoin, flipsTwice], 1⟩, {}⟩

/-- A stream that draws tails, heads and tails. -/
def coinDraws : Draws := ⟨fun i => if i = 1 then 0 else 1, 0⟩

/-- Three flips, two of them in one answer, come out differently. -/
theorem exists_draws_iff_goesThrough_coin :
    let asked := (Session.fresh {} coinDraws).askEach coinBot ["Flip twice", "Flip!"]
    coinBot.GoesThrough {} (.start .empty) ["Flip twice", "Flip!"] asked.1
        asked.2.conversation ∧
      asked.1.map Answer.answer = [some "tails heads", some "tails"] := by
  have hallowed := (exists_draws_iff_goesThrough coinBot {} ["Flip twice", "Flip!"]).1
  exact ⟨(hallowed _ _).1 ⟨coinDraws.value, rfl, rfl⟩, by decide +kernel⟩

end Dialogue
