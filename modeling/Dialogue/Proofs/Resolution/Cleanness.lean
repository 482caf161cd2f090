import Dialogue.Proofs.Resolution.Course
import Dialogue.Proofs.Resolution.Ending
import Dialogue.Proofs.Resolution.Redirection
import Dialogue.Proofs.Text.Clean

/-!
# Requests that keep a conversation clean

What a request leaves in a conversation is clean: the variables, the captures, the last wildcard
and the previous answer.  A text that comes into the conversation is a capture, the cleaned text of
fragments, or empty.  Joined texts need not be clean, but each way from them into the conversation
cleans them.

Main results:

- Theorem `Course.Possible.keepsClean`: what every part of the work on a question keeps clean.
- Theorem `clean_of_resolve`: what a request keeps clean.
- Theorem `isClean_of_evaluate`, `isClean_of_respond`, `isClean_of_redirect`: which texts are clean
  wherever they come from.
-/

namespace Dialogue

/-! ## Clean states -/

/-- Captures that are clean, and of which none is empty. -/
def CleanCaptures (captures : List String) : Prop :=
  ∀ capture ∈ captures, IsClean capture ∧ capture ≠ ""

/-- A conversation in which all texts are clean, and no capture is empty. -/
structure Conversation.Clean (conversation : Conversation) : Prop where
  vars : ∀ name value, conversation.vars.get? name = some value → IsClean value
  captures : CleanCaptures conversation.captures
  lastWildcard : IsClean conversation.lastWildcard
  previousAnswer : IsClean conversation.previousAnswer

/-- A frame with clean captures and a clean conversation. -/
structure Frame.Clean (frame : Frame) : Prop where
  unread : CleanCaptures frame.unread
  conversation : frame.request.conversation.Clean

namespace Conversation.Clean

variable {conversation : Conversation}

/-- A conversation that begins without variables is clean. -/
theorem start : (Conversation.start .empty).Clean where
  vars := nofun
  captures := nofun
  lastWildcard := isClean_empty
  previousAnswer := isClean_empty

/-- Captures may be forgotten. -/
theorem forgetCaptures (h : conversation.Clean) : conversation.forgetCaptures.Clean where
  vars := h.vars
  captures := nofun
  lastWildcard := isClean_empty
  previousAnswer := h.previousAnswer

/-- A variable may be bound to a clean text. -/
theorem set (h : conversation.Clean) (name : String) {value : String} (hvalue : IsClean value) :
    (conversation.set name value).Clean where
  vars := by
    intro other found hfound
    by_cases hname : other = name
    · subst hname
      rw [Conversation.set, Bindings.get?_insert_self] at hfound
      cases hfound
      exact hvalue
    · rw [Conversation.set, Bindings.get?_insert_of_ne _ _ hname] at hfound
      exact h.vars other found hfound
  captures := h.captures
  lastWildcard := h.lastWildcard
  previousAnswer := h.previousAnswer

/-- The last of clean captures is clean. -/
theorem noteCaptures (h : conversation.Clean) {captures : List String}
    (hcaptures : CleanCaptures captures) : (conversation.noteCaptures captures).Clean := by
  unfold Conversation.noteCaptures
  cases hlast : captures.getLast? with
  | none => exact h
  | some last =>
    have hclean := (hcaptures last (List.mem_of_getLast? hlast)).1
    exact ⟨h.vars, h.captures, hclean, h.previousAnswer⟩

/-- Clean captures may be noted when a category wins. -/
theorem begin {request : Request} (h : request.conversation.Clean) (depth : Nat)
    {winner : Winner} (hcaptures : CleanCaptures winner.captures) :
    (request.begin depth winner).conversation.Clean := by
  have hnoted := h.noteCaptures hcaptures
  rw [Request.begin, Request.record_conversation]
  split
  · exact ⟨hnoted.vars, hcaptures, hnoted.lastWildcard, hnoted.previousAnswer⟩
  · exact hnoted

/-- A clean answer may be remembered. -/
theorem remember (h : conversation.Clean) {answer : Option String}
    (hanswer : ∀ text ∈ answer, IsClean text) : (conversation.remember answer).Clean := by
  cases answer with
  | none => exact h
  | some text => exact ⟨h.vars, h.captures, h.lastWildcard, hanswer text rfl⟩

end Conversation.Clean

namespace Frame.Clean

variable {frame : Frame}

/-- The next capture is clean. -/
theorem nextCapture (h : frame.Clean) : IsClean frame.nextCapture := by
  unfold Frame.nextCapture
  cases hunread : frame.unread with
  | nil => exact isClean_empty
  | cons capture rest =>
    have hmem : capture ∈ frame.unread := by
      rw [hunread]
      exact List.mem_cons_self
    exact (h.unread capture hmem).1

/-- The next capture may be taken. -/
theorem afterCapture (h : frame.Clean) (depth : Nat) : (frame.afterCapture depth).Clean where
  unread capture hcapture := h.unread capture (List.mem_of_mem_tail hcapture)
  conversation := h.conversation

/-- A variable may be bound to a clean text. -/
theorem write (h : frame.Clean) (name : String) {value : String} (hvalue : IsClean value) :
    (frame.write name value).Clean where
  unread := h.unread
  conversation := h.conversation.set name hvalue

/-- The request may go on with a clean conversation. -/
theorem withRequest (h : frame.Clean) {request : Request} (hrequest : request.conversation.Clean) :
    (frame.withRequest request).Clean where
  unread := h.unread
  conversation := hrequest

end Frame.Clean

/-! ## What every part keeps clean -/

variable {kb : KnowledgeBase} {profile : Bindings} {limit : Nat}

/-- The captures of the category that wins are clean. -/
theorem cleanCaptures_of_survey {conversation : Conversation} {question : String}
    {winner : Winner}
    (hwinner : (survey profile conversation question 0 kb.categories).winner = some winner) :
    CleanCaptures winner.captures := by
  rcases isFirst_of_survey hwinner with ⟨offset, -, hfirst⟩
  exact Wording.isClean_of_captures? hfirst.captures?

/-- Whether a part of the work on a question keeps the conversation clean, with what it comes to if
that is not a joined text.  The text of a single fragment may come with blanks at its ends. -/
def Course.KeepsClean : Course → Prop
  | scan _ _ before hit after => before.conversation.Clean →
    after.conversation.Clean ∧
      ∀ found ∈ hit, CleanCaptures found.captures ∧ ∀ text ∈ found.text, IsClean text
  | answer _ _ before text after => before.Clean → after.Clean ∧ ∀ given ∈ text, IsClean given
  | join _ _ before _ after => before.Clean → after.Clean
  | evaluate _ _ before _ after => before.Clean → after.Clean

/-- Every part of the work on a question keeps the conversation clean. -/
theorem Course.Possible.keepsClean {course : Course} (h : Possible kb profile limit course) :
    course.KeepsClean := by
  induction h with
  | scanCut | scanTooDeep | scanMiss =>
    intro hbefore
    exact ⟨hbefore, nofun⟩
  | scanHit _ _ hwinner _ ih =>
    intro hbefore
    have hcaptures := cleanCaptures_of_survey hwinner
    rcases ih ⟨hcaptures, hbefore.begin _ hcaptures⟩ with ⟨hafter, htext⟩
    refine ⟨hafter.conversation, ?_⟩
    rintro found ⟨⟩
    exact ⟨hcaptures, htext⟩
  | answerGroup _ ih => exact ih
  | answerBlank =>
    exact fun hbefore => ⟨hbefore, fun _ htext => absurd htext (Option.not_mem_none _)⟩
  | answerText _ _ _ ih =>
    intro hbefore
    refine ⟨ih hbefore, fun given hgiven => ?_⟩
    rw [(mem_answerOf_iff.1 hgiven).1]
    exact isClean_clean _
  | joinNil | text | bot | get | onlyIfNot | randomNone | lineBreak => exact id
  | joinCons _ _ ihfirst ihrest => exact fun hbefore => ihrest (ihfirst hbefore)
  | setNothing => exact fun hbefore => hbefore.write _ isClean_empty
  | setCapture => exact fun hbefore => (hbefore.afterCapture _).write _ hbefore.nextCapture
  | setText _ _ ih => exact fun hbefore => (ih hbefore).write _ (isClean_clean _)
  | star | starEmpty => exact fun hbefore => ⟨hbefore.unread, hbefore.conversation⟩
  | starAnswer _ _ ih =>
    intro hbefore
    exact hbefore.withRequest (ih hbefore.conversation).1
  | redirect _ _ ihjoin ihscan =>
    intro hbefore
    exact (ihjoin hbefore).withRequest (ihscan (ihjoin hbefore).conversation).1
  | random _ _ ih | firstOf _ ih => exact fun hbefore => (ih hbefore).1
  | onlyIf _ _ ih | select _ ih | recase _ ih | think _ ih | item _ ih | group _ ih | markup _ ih =>
    exact ih

/-! ## Requests -/

/-- A request keeps a conversation clean, and its answer and its captures are clean. -/
theorem clean_of_resolve {conversation : Conversation} (hclean : conversation.Clean)
    {question : String} {resolved : Resolved}
    (hresolved : resolved ∈ (resolve kb profile limit conversation question).outcomes) :
    resolved.request.conversation.Clean ∧
      (∀ text ∈ resolved.resolution.answer, IsClean text) ∧
      CleanCaptures resolved.resolution.captures := by
  rcases mem_outcomes_resolve_iff.1 hresolved with ⟨hit, request, hpossible, rfl⟩
  rcases hpossible.keepsClean hclean.forgetCaptures with ⟨hafter, hhit⟩
  have hresolution :
      (∀ text ∈ (Resolution.ofHit request.metrics.limitHit hit).answer, IsClean text) ∧
        CleanCaptures (Resolution.ofHit request.metrics.limitHit hit).captures := by
    cases request.metrics.limitHit with
    | true => exact ⟨nofun, nofun⟩
    | false =>
      cases hit with
      | none => exact ⟨nofun, nofun⟩
      | some hit =>
        rw [Resolution.ofHit_some]
        refine ⟨fun text htext => ?_, (hhit hit rfl).1⟩
        rw [(mem_answerOf_iff.1 htext).1]
        exact clean_nestedAnswer (some hit)
  exact ⟨hafter.remember hresolution.1, hresolution⟩

/-! ## Texts that are clean wherever they come from -/

/-- The text that a list of fragments stands for is clean. -/
theorem isClean_of_evaluate {setting : Setting} {fragments : List Fragment} {before after : Frame}
    {text : String} (h : Yields (evaluate setting fragments) before text after) :
    IsClean text := by
  rcases yields_map.1 h with ⟨joined, -, rfl⟩
  exact isClean_clean joined

/-- The answer that a list of fragments gives is clean, and it is not empty. -/
theorem isClean_of_respond {setting : Setting} (fragments : List Fragment) {before after : Frame}
    {text : String} (h : Yields (respond setting fragments) before (some text) after) :
    IsClean text ∧ text ≠ "" := by
  by_cases hgroup : ∃ content, fragments = [.group content]
  · rcases hgroup with ⟨content, rfl⟩
    rw [respond] at h
    exact isClean_of_respond content h
  · rw [respond_eq] at h
    split at h
    · rename_i content
      exact absurd ⟨content, rfl⟩ hgroup
    · split at h
      · cases (yields_pure.1 h).1
      · rcases yields_map.1 h with ⟨joined, -, hgiven⟩
        rcases mem_answerOf_iff.1 hgiven.symm with ⟨rfl, hne⟩
        exact ⟨isClean_clean joined, hne⟩
termination_by sizeOf fragments

/-- The answer to a nested question is clean. -/
theorem isClean_of_redirect {scan : String → Action (Option Hit)} {question text : String}
    {before after : Request} (h : Yields (redirect scan question) before text after) :
    IsClean text := by
  rcases yields_redirect.1 h with ⟨hit, -, rfl⟩
  exact clean_nestedAnswer hit

end Dialogue
