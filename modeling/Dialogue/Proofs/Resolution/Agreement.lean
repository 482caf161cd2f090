import Dialogue.Proofs.Choice
import Dialogue.Proofs.Resolution.Comparison
import Dialogue.Proofs.Resolution.Scanning

/-!
# Scans at different depths

A scan reads the variables, the last wildcard, the previous answer, and whether the
limit has been exceeded.  The depth decides only what is counted, and whether the
captures of a match are kept.  So two scans with equally many levels left run in
lockstep from requests that agree on what is read, at whatever depths they are.

Main results:

- Theorem `lockstep_respond`: templates are evaluated in lockstep if nested questions
  are answered in lockstep.
- Theorem `lockstep_scan`: scans run in lockstep at any two depths.
-/

namespace Dialogue

/-! ## What a scan reads -/

/-- Conversations with the same variables, last wildcard and previous answer. -/
structure Conversation.Agrees (c c' : Conversation) : Prop where
  vars : c.vars = c'.vars
  lastWildcard : c.lastWildcard = c'.lastWildcard
  previousAnswer : c.previousAnswer = c'.previousAnswer

/-- Requests of which a scan reads the same. -/
structure Request.Agrees (r r' : Request) : Prop where
  conversation : r.conversation.Agrees r'.conversation
  limitHit : r.metrics.limitHit = r'.metrics.limitHit

/-- Frames with the same captures, of whose requests a scan reads the same. -/
structure Frame.Agrees (frame frame' : Frame) : Prop where
  unread : frame.unread = frame'.unread
  request : frame.request.Agrees frame'.request

namespace Conversation.Agrees

variable {c c' : Conversation}

/-- A conversation agrees with itself. -/
theorem refl (c : Conversation) : c.Agrees c := ⟨rfl, rfl, rfl⟩

/-- Conversations agree after the same variable has been bound. -/
theorem set (h : c.Agrees c') (name value : String) : (c.set name value).Agrees (c'.set name value)
    where
  vars := by
    rw [Conversation.set, Conversation.set, h.vars]
  lastWildcard := h.lastWildcard
  previousAnswer := h.previousAnswer

/-- Conversations agree after the same match. -/
theorem noteCaptures (h : c.Agrees c') (captures : List String) :
    (c.noteCaptures captures).Agrees (c'.noteCaptures captures) := by
  unfold Conversation.noteCaptures
  cases captures.getLast? with
  | none => exact h
  | some last => exact ⟨h.vars, rfl, h.previousAnswer⟩

/-- It does not matter whether captures are kept. -/
theorem keepCaptures_left (h : c.Agrees c') (captures : List String) :
    ({ c with captures := captures }).Agrees c' := ⟨h.vars, h.lastWildcard, h.previousAnswer⟩

/-- It does not matter whether captures are kept. -/
theorem keepCaptures_right (h : c.Agrees c') (captures : List String) :
    c.Agrees { c' with captures := captures } := ⟨h.vars, h.lastWildcard, h.previousAnswer⟩

end Conversation.Agrees

namespace Request.Agrees

variable {r r' : Request}

/-- A request agrees with itself. -/
theorem refl (r : Request) : r.Agrees r := ⟨.refl _, rfl⟩

/-- The journal is not read. -/
theorem record (h : r.Agrees r') (happening happening' : Happening) :
    (r.record happening).Agrees (r'.record happening') := ⟨h.conversation, h.limitHit⟩

/-- Requests agree after the same variable has been bound. -/
theorem write (h : r.Agrees r') (name value : String) :
    (r.write name value).Agrees (r'.write name value) :=
  ⟨h.conversation.set name value, h.limitHit⟩

/-- Requests agree after the limit has been exceeded in both. -/
theorem exceedLimit (h : r.Agrees r') : r.exceedLimit.Agrees r'.exceedLimit :=
  ⟨h.conversation, rfl⟩

/-- The number of redirections is not read. -/
theorem countRedirect (h : r.Agrees r') : r.countRedirect.Agrees r'.countRedirect :=
  ⟨h.conversation, h.limitHit⟩

/-- The numbers of categories that were tried are not read. -/
theorem tryCategories (h : r.Agrees r') (kb : KnowledgeBase) (profile : Bindings)
    (depth depth' : Nat) (question : String) :
    (r.tryCategories kb profile depth question).Agrees
      (r'.tryCategories kb profile depth' question) := ⟨h.conversation, h.limitHit⟩

/-- Requests agree after the same match, at whatever depth. -/
theorem begin (h : r.Agrees r') (depth depth' : Nat) (winner : Winner) :
    (r.begin depth winner).Agrees (r'.begin depth' winner) := by
  refine ⟨?_, h.limitHit⟩
  have hnoted := h.conversation.noteCaptures winner.captures
  simp only [Request.begin, Request.record_conversation]
  split <;> split
  · exact (hnoted.keepCaptures_left _).keepCaptures_right _
  · exact hnoted.keepCaptures_left _
  · exact hnoted.keepCaptures_right _
  · exact hnoted

/-- A match that captures nothing changes nothing that is read. -/
theorem begin_left (h : r.Agrees r') (depth : Nat) {winner : Winner}
    (hcaptures : winner.captures = []) : (r.begin depth winner).Agrees r' := by
  refine ⟨?_, h.limitHit⟩
  simp only [Request.begin, Request.record_conversation, hcaptures]
  split
  · exact h.conversation.keepCaptures_left _
  · exact h.conversation

end Request.Agrees

/-! ## Lockstep -/

variable {profile : Bindings}

/-- The steps of an evaluation run in lockstep at any two depths, if nested questions
are answered in lockstep. -/
theorem comparison_lockstep (profile : Bindings) (depth depth' : Nat)
    {answer answer' : String → Action String}
    (hanswer : ∀ question, Lockstep Request.Agrees (answer question) (answer' question)) :
    Comparison ⟨profile, depth, answer⟩ ⟨profile, depth', answer'⟩
      fun _ => Lockstep Frame.Agrees where
  pure := Lockstep.pure
  bind := Lockstep.bind
  profile := rfl
  vars := by
    intro frame frame' h
    exact .done ⟨h.request.conversation.vars, h⟩
  readWildcard := by
    intro frame frame' h
    exact .done ⟨h.request.conversation.lastWildcard, h.unread, h.request.record _ _⟩
  takeCapture := by
    intro frame frame' h
    refine .done ⟨congrArg (·.headD "") h.unread, congrArg List.tail h.unread, ?_⟩
    exact h.request.record _ _
  write := by
    intro name value frame frame' h
    exact .done ⟨rfl, h.unread, h.request.write name value⟩
  among := Lockstep.among
  answer := by
    intro question frame frame' h
    refine (hanswer question _ _ h.request).bind ?_
    rintro ⟨text, request⟩ ⟨text', request'⟩ ⟨htext, hrequest⟩
    exact .done ⟨htext, h.unread, hrequest⟩

/-- The category that wins is evaluated in lockstep at any two depths, if nested
questions are answered in lockstep. -/
theorem lockstep_evaluateWinner (depth depth' : Nat) {answer answer' : String → Action String}
    (hanswer : ∀ question, Lockstep Request.Agrees (answer question) (answer' question))
    (winner : Winner) :
    Lockstep Request.Agrees (evaluateWinner profile depth answer winner)
      (evaluateWinner profile depth' answer' winner) := by
  intro r r' h
  rw [evaluateWinner_run, evaluateWinner_run]
  have hrespond := (comparison_lockstep profile depth depth' hanswer).respond
    winner.category.template
  have hbegun : Frame.Agrees ⟨winner.captures, r.begin depth winner⟩
      ⟨winner.captures, r'.begin depth' winner⟩ := ⟨rfl, h.begin depth depth' winner⟩
  refine (hrespond _ _ hbegun).bind ?_
  rintro ⟨text, frame⟩ ⟨text', frame'⟩ ⟨htext, hframe⟩
  cases htext
  exact .done ⟨rfl, hframe.request.record _ _⟩

/-- Nested questions are answered in lockstep if they are scanned for in lockstep. -/
theorem lockstep_redirect {scan scan' : String → Action (Option Hit)}
    (hscan : ∀ question, Lockstep Request.Agrees (scan question) (scan' question))
    (question : String) :
    Lockstep Request.Agrees (redirect scan question) (redirect scan' question) := by
  intro r r' h
  rw [redirect_run, redirect_run]
  refine (hscan question _ _ h.countRedirect).bind ?_
  rintro ⟨hit, request⟩ ⟨hit', request'⟩ ⟨hhit, hrequest⟩
  cases hhit
  exact .done ⟨rfl, hrequest⟩

/-- Scans with equally many levels left run in lockstep at any two depths. -/
theorem lockstep_scan (kb : KnowledgeBase) (profile : Bindings) (levels depth depth' : Nat)
    (question : String) :
    Lockstep Request.Agrees (scan kb profile levels depth question)
      (scan kb profile levels depth' question) := by
  -- The levels that are left decide where a scan ends, whatever the depths are.
  induction levels generalizing depth depth' question with
  | zero =>
    intro r r' h
    cases hlimit : r.metrics.limitHit with
    | true =>
      rw [scan_of_limitHit hlimit, scan_of_limitHit (h.limitHit ▸ hlimit)]
      exact .done ⟨rfl, h⟩
    | false =>
      rw [scan_zero _ _ _ _ _ hlimit, scan_zero _ _ _ _ _ (h.limitHit ▸ hlimit)]
      exact .done ⟨rfl, h.exceedLimit⟩
  | succ levels ih =>
    intro r r' h
    cases hlimit : r.metrics.limitHit with
    | true =>
      rw [scan_of_limitHit hlimit, scan_of_limitHit (h.limitHit ▸ hlimit)]
      exact .done ⟨rfl, h⟩
    | false =>
      have hlimit' : r'.metrics.limitHit = false := h.limitHit ▸ hlimit
      have hsurvey := survey_congr profile question h.conversation.vars
        h.conversation.previousAnswer 0 kb.categories
      have htried := h.tryCategories kb profile depth depth' question
      cases hwinner : (survey profile r.conversation question 0 kb.categories).winner with
      | none =>
        rw [scan_of_no_winner hlimit hwinner, scan_of_no_winner hlimit' (hsurvey ▸ hwinner)]
        exact .done ⟨rfl, htried⟩
      | some winner =>
        rw [scan_of_winner hlimit hwinner, scan_of_winner hlimit' (hsurvey ▸ hwinner)]
        have hanswer := fun question =>
          lockstep_redirect (ih (depth + 1) (depth' + 1)) question
        refine (lockstep_evaluateWinner depth depth' hanswer winner _ _ htried).bind ?_
        rintro ⟨hit, request⟩ ⟨hit', request'⟩ ⟨hhit, hrequest⟩
        cases hhit
        exact .done ⟨rfl, hrequest⟩

end Dialogue
