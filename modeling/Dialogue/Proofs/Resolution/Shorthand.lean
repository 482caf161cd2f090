import Dialogue.Proofs.Resolution.Cleanness
import Dialogue.Proofs.Resolution.Moments
import Dialogue.Proofs.Resolution.Scope

/-!
# The shorthand for the answer to the last wildcard

A template can ask for the answer to the last wildcard in two ways: by the shorthand, or by a
redirection to a star reference.  The shorthand asks for the wildcard as it is, unless it is empty;
the redirection joins the text of the star reference and cleans it.  At whatever moment of a
request the two are evaluated, they do the same as soon as something has been captured, since
every capture is clean and not empty.

Main results:

- Theorem `Request.Reaches.hasCleanMatches`: all matches of a request have clean captures.
- Theorem `run_starAnswer_of_leadsTo`: what the shorthand does at every moment of a request.
-/

namespace Dialogue

/-! ## The last wildcard of a request -/

variable {kb : KnowledgeBase} {profile : Bindings} {limit : Nat}

/-- A request all of whose matches have clean captures. -/
def Request.HasCleanMatches (r : Request) : Prop :=
  ∀ found ∈ matchesIn r.journal, CleanCaptures found.captures

/-- A step adds no captures, or those of the category that wins, which are clean. -/
theorem Request.Step.hasCleanMatches {r r' : Request} (hstep : Request.Step kb profile r r')
    (h : r.HasCleanMatches) : r'.HasCleanMatches := by
  cases hstep with
  | begin depth question winner hlimit hwinner =>
    exact List.forall_mem_cons.2 ⟨cleanCaptures_of_survey hwinner, h⟩
  | readWildcard | takeCapture | write | countRedirect | exceedLimit | tryCategories | finish =>
    exact h

/-- All matches of a request have clean captures. -/
theorem Request.Reaches.hasCleanMatches {start r : Request} (hstart : start.HasCleanMatches)
    (hreach : Request.Reaches kb profile start r) : r.HasCleanMatches :=
  hreach.keeps (fun _ _ hstep h => hstep.hasCleanMatches h) hstart

/-- As soon as something has been captured, the latest capture is one of the captures. -/
theorem latestCapture_mem {recorded : List RecordedMatch}
    (h : ∃ found ∈ recorded, found.captures ≠ []) :
    ∃ found ∈ recorded, latestCapture recorded ∈ found.captures := by
  induction recorded with
  | nil => simp at h
  | cons first earlier ih =>
    rw [latestCapture_cons]
    cases hlast : first.captures.getLast? with
    | some last => exact ⟨first, List.mem_cons_self, List.mem_of_getLast? hlast⟩
    | none =>
      have hearlier : ∃ found ∈ earlier, found.captures ≠ [] := by
        rcases h with ⟨found, hmem, hne⟩
        rcases List.mem_cons.1 hmem with rfl | hmem
        · exact absurd (List.getLast?_eq_none_iff.1 hlast) hne
        · exact ⟨found, hmem, hne⟩
      rcases ih hearlier with ⟨found, hmem, hcapture⟩
      exact ⟨found, List.mem_cons_of_mem first hmem, hcapture⟩

/-- As long as nothing has been captured, there is no latest capture. -/
theorem latestCapture_eq_empty {recorded : List RecordedMatch}
    (h : ∀ found ∈ recorded, found.captures = []) : latestCapture recorded = "" := by
  induction recorded with
  | nil => rfl
  | cons first earlier ih =>
    rw [List.forall_mem_cons] at h
    rw [latestCapture_cons, h.1, ih h.2]
    rfl

/-- A redirection to a star reference asks for the cleaned last wildcard. -/
theorem run_redirect_star (setting : Setting) (frame : Frame) :
    (evaluateFragment setting (.redirect [.star])).run frame =
      (Evaluation.onRequest (setting.answer (Text.clean frame.lastWildcard))).run
        frame.afterWildcard := by
  have hjoined : (concatenate setting [.star]).run frame =
      pure (frame.lastWildcard, frame.afterWildcard) := by
    have hread : Evaluation.readWildcard.run frame =
        pure (frame.lastWildcard, frame.afterWildcard) := rfl
    rw [concatenate, evaluateFragment, StateT.run_bind, hread, pure_bind, concatenate]
    simp only [pure_bind, String.append_empty]
    rfl
  rw [evaluateFragment, StateT.run_bind, StateT.run_map, hjoined]
  rfl

/-! ## Every moment of a request -/

/-- Take any moment of a request at which a fragment is evaluated.  If some match of the request
has captured something by then, then the shorthand does there what a redirection to a star
reference does: the two run alike, so with whatever draws they come to the same text, the same
state and counters, and leave the same draws.  If nothing has been captured, then the shorthand
stands for the empty text, and the captures, the conversation and the counters stay as they
are. -/
theorem run_starAnswer_of_leadsTo {conversation : Conversation} {question : String} {depth : Nat}
    {fragment : Fragment} {frame : Frame}
    (hmoment : Relation.ReflTransGen (Moment.LeadsTo kb profile limit)
      (.scan 0 question { conversation := conversation.forgetCaptures })
      (.evaluate depth fragment frame)) :
    let setting := Call.settingAt kb profile limit depth
    ((∃ found ∈ matchesIn frame.request.journal, found.captures ≠ []) →
      (evaluateFragment setting .starAnswer).run frame =
        (evaluateFragment setting (.redirect [.star])).run frame) ∧
    ((∀ found ∈ matchesIn frame.request.journal, found.captures = []) →
      (evaluateFragment setting .starAnswer).run frame = pure ("", frame.afterWildcard) ∧
        frame.afterWildcard.unread = frame.unread ∧
        frame.afterWildcard.request.conversation = frame.request.conversation ∧
        frame.afterWildcard.request.metrics = frame.request.metrics) := by
  intro setting
  have hreach := Moment.reaches_of_leadsTo hmoment
  have hwildcard : frame.lastWildcard = latestCapture (matchesIn frame.request.journal) := by
    have hchronicled := (Request.Chronicled.of_reaches hreach).conversation
    rw [Frame.lastWildcard]
    exact hchronicled ▸ Conversation.replay_lastWildcard_eq _ rfl frame.request.journal
  have hshorthand : (evaluateFragment setting .starAnswer).run frame =
      if frame.lastWildcard = "" then pure ("", frame.afterWildcard)
      else (Evaluation.onRequest (setting.answer frame.lastWildcard)).run frame.afterWildcard :=
    (run_star setting frame.unread frame.request).2
  constructor
  · intro hcaptured
    rcases latestCapture_mem hcaptured with ⟨found, hmem, hcapture⟩
    have hstart : Request.HasCleanMatches { conversation := conversation.forgetCaptures } :=
      List.forall_mem_nil _
    have hclean := hreach.hasCleanMatches hstart found hmem _ hcapture
    rw [← hwildcard] at hclean
    rw [if_neg hclean.2] at hshorthand
    rw [run_redirect_star, hclean.1]
    exact hshorthand
  · intro hnothing
    rw [latestCapture_eq_empty hnothing] at hwildcard
    rw [if_pos hwildcard] at hshorthand
    exact ⟨hshorthand, rfl, rfl, rfl⟩

/-- A rule that asks for the answer to the last wildcard after a redirection. -/
def asksAfterGreeting : Category where
  pattern := ⟨[.text "MY NAME IS *"]⟩
  that := none
  template := [.redirect [.text "GREET BIG TOM"], .starAnswer]

/-- A rule for what is captured on the way. -/
def knowsBig : Category := ⟨⟨[.text "BIG"]⟩, none, [.text "indeed"], 0⟩

/-- The shorthand behind the redirection asks for what the nested match has captured. -/
theorem run_starAnswer_of_leadsTo_greeting :
    let kb : KnowledgeBase := ⟨[asksAfterGreeting, greetsSomebody, knowsBig], 1⟩
    let setting := Call.settingAt kb .empty 1 0
    let start : Request := { conversation := (Conversation.start .empty).forgetCaptures }
    let question := "My name is Ann"
    ∃ frame : Frame,
      Relation.ReflTransGen (Moment.LeadsTo kb .empty 1) (.scan 0 question start)
        (.evaluate 0 .starAnswer frame) ∧
      (matchesIn frame.request.journal).map (·.captures) = [["BIG"], ["Ann"]] ∧
      (evaluateFragment setting .starAnswer).run frame =
        (evaluateFragment setting (.redirect [.star])).run frame ∧
      (((evaluateFragment setting .starAnswer).run frame).follow ⟨fun _ => 0, 0⟩).1.1 =
        "indeed" := by
  intro kb setting start question
  let winner : Winner := ⟨0, asksAfterGreeting, ["Ann"]⟩
  let greeting : Fragment := .redirect [.text "GREET BIG TOM"]
  let before : Frame :=
    ⟨winner.captures, (start.tryCategories kb .empty 0 question).begin 0 winner⟩
  have hverdict : asksAfterGreeting.verdict .empty start.conversation question =
      .matched ["Ann"] := by decide +kernel
  have hwinner : (survey .empty start.conversation question 0 kb.categories).winner =
      some winner :=
    congrArg Survey.winner (survey_cons_of_matched 0 [greetsSomebody, knowsBig] hverdict)
  have hmem := Choice.follow_mem_outcomes ((evaluateFragment setting greeting).run before)
    ⟨fun _ => 0, 0⟩
  have hcaptures : (matchesIn (((evaluateFragment setting greeting).run before).follow
      ⟨fun _ => 0, 0⟩).1.2.request.journal).map (·.captures) = [["BIG"], ["Ann"]] := by
    decide +kernel
  have hanswer : (((evaluateFragment setting .starAnswer).run
      (((evaluateFragment setting greeting).run before).follow ⟨fun _ => 0, 0⟩).1.2).follow
        ⟨fun _ => 0, 0⟩).1.1 = "indeed" := by
    decide +kernel
  -- From here on only what the redirection leaves counts, not how it comes about.
  generalize (((evaluateFragment setting greeting).run before).follow ⟨fun _ => 0, 0⟩).1 = out
    at hmem hcaptures hanswer
  have hgreeting : Course.Possible kb .empty 1 (.evaluate 0 greeting before out.1 out.2) :=
    Course.possible_iff_isOutcome.2 hmem
  have hmoment : Relation.ReflTransGen (Moment.LeadsTo kb .empty 1) (.scan 0 question start)
      (.evaluate 0 .starAnswer out.2) := by
    have htemplate : Moment.LeadsTo kb .empty 1 (.scan 0 question start)
        (.answer 0 [greeting, .starAnswer] before) := .category rfl (Nat.zero_le 1) hwinner
    exact .head htemplate (.head .join (.head (.rest hgreeting) (.single .first)))
  have hcaptured : ∃ found ∈ matchesIn out.2.request.journal, found.captures ≠ [] := by
    have hbig : ["BIG"] ∈ (matchesIn out.2.request.journal).map (·.captures) := by
      rw [hcaptures]
      exact List.mem_cons_self
    rcases List.mem_map.1 hbig with ⟨found, hfound, heq⟩
    exact ⟨found, hfound, heq ▸ List.cons_ne_nil _ _⟩
  exact ⟨out.2, hmoment, hcaptures, (run_starAnswer_of_leadsTo hmoment).1 hcaptured, hanswer⟩

end Dialogue
