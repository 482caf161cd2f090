import Dialogue.Proofs.Resolution.Steps

/-!
# What happens after the limit has been exceeded

The journal of a request tells how its conversation has come about.  Once the limit on
nested redirections has been exceeded, no category matches any more, so the last
wildcard stays.  But the templates that are being evaluated are evaluated to their
ends, and what they bind stays bound.

Main results:

- Theorem `Request.Chronicled.of_reaches`: the conversation of a request is what its
  journal makes of the conversation at the start.
- Theorem `vars_after_limit_iff`: when the variables are those of the moment at which
  the limit was exceeded.
-/

namespace Dialogue

/-! ## Replaying a journal -/

/-- The conversation after something has happened. -/
def Conversation.after (c : Conversation) : Happening → Conversation
  | .matched 0 _ captures => c.keepCaptures captures
  | .matched (_ + 1) _ captures => c.noteCaptures captures
  | .wrote name value => c.set name value
  | _ => c

/-- The conversation after everything in a journal, the latest first, has happened. -/
def Conversation.replay (c : Conversation) : List Happening → Conversation
  | [] => c
  | happening :: earlier => (c.replay earlier).after happening

/-- The value that a journal, the latest first, has bound a variable to at last. -/
def lastWritten (name : String) : List Happening → Option String
  | [] => none
  | .wrote other value :: earlier => if name = other then some value else lastWritten name earlier
  | _ :: earlier => lastWritten name earlier

/-- Whether something can still happen while the categories that have matched are
evaluated to their ends. -/
def Happening.isUnwinding : Happening → Bool
  | .matched _ _ _ => false
  | .exceededLimit => false
  | _ => true

/-- A match at a depth is replayed by the captures that it notes. -/
theorem Request.begin_conversation (r : Request) (depth : Nat) (winner : Winner) :
    (r.begin depth winner).conversation =
      r.conversation.after (.matched depth winner.index winner.captures) := by
  cases depth with
  | zero => rfl
  | succ depth => rfl

section Unwinding

variable {happenings : List Happening}

/-- Unless a category matches, the last wildcard stays. -/
theorem Conversation.replay_lastWildcard (c : Conversation)
    (hunwinding : ∀ happening ∈ happenings, happening.isUnwinding = true) :
    (c.replay happenings).lastWildcard = c.lastWildcard := by
  induction happenings with
  | nil => rfl
  | cons happening earlier ih =>
    rw [List.forall_mem_cons] at hunwinding
    rw [replay, ← ih hunwinding.2]
    cases happening with
    | matched depth index captures => cases hunwinding.1
    | _ => rfl

/-- A variable has the value that it has been bound to at last, or the value that it
had before. -/
theorem Conversation.replay_get? (c : Conversation) (name : String)
    (hunwinding : ∀ happening ∈ happenings, happening.isUnwinding = true) :
    (c.replay happenings).vars.get? name = (lastWritten name happenings).or (c.vars.get? name) := by
  induction happenings with
  | nil => rfl
  | cons happening earlier ih =>
    rw [List.forall_mem_cons] at hunwinding
    have hearlier := ih hunwinding.2
    cases happening with
    | matched depth index captures => cases hunwinding.1
    | wrote other value =>
      by_cases hname : name = other
      · cases hname
        simp [replay, after, set, lastWritten]
      · simp [replay, after, set, lastWritten, hname, Bindings.get?_insert_of_ne, hearlier]
    | _ => exact hearlier

/-- The variables stay exactly if each is bound at last to the value that it had
before, or is not bound. -/
theorem Conversation.replay_vars_eq_iff (c : Conversation)
    (hunwinding : ∀ happening ∈ happenings, happening.isUnwinding = true) :
    (c.replay happenings).vars = c.vars ↔
      ∀ name value, lastWritten name happenings = some value → c.vars.get? name = some value := by
  constructor
  · intro hvars name value hwritten
    have hget := c.replay_get? name hunwinding
    rw [hvars, hwritten] at hget
    exact hget
  · intro hsame
    apply Bindings.ext_get?
    intro name
    rw [c.replay_get? name hunwinding]
    cases hwritten : lastWritten name happenings with
    | none => rfl
    | some value => exact (hsame name value hwritten).symm

end Unwinding

/-! ## Before and after the limit -/

variable {kb : KnowledgeBase} {profile : Bindings} {start : Conversation} {r r' : Request}

/-- A request whose conversation is what its journal makes of the conversation at the
start, and whose journal tells whether the limit has been exceeded. -/
structure Request.Chronicled (start : Conversation) (r : Request) : Prop where
  conversation : r.conversation = start.replay r.journal
  limitHit : r.metrics.limitHit = false → .exceededLimit ∉ r.journal

/-- The request `exceeded` is the one in which the limit is exceeded on the way to `r`,
and `after` is what has happened since, the latest first. -/
structure Request.UnwindsFrom (exceeded : Request) (after : List Happening) (r : Request) :
    Prop where
  limitHit : r.metrics.limitHit = true
  journal : r.journal = after ++ .exceededLimit :: exceeded.journal
  conversation : r.conversation = exceeded.conversation.replay after
  unwinding : ∀ happening ∈ after, happening.isUnwinding = true

/-- How a step changes what is chronicled: it adds one thing to the journal, or it
only counts. -/
theorem Request.Step.cases_journal (hstep : Step kb profile r r') :
    (r'.conversation = r.conversation ∧ r'.journal = r.journal ∧
      r'.metrics.limitHit = r.metrics.limitHit) ∨
    (∃ happening, r'.conversation = r.conversation.after happening ∧
      r'.journal = happening :: r.journal ∧ r'.metrics.limitHit = r.metrics.limitHit ∧
      happening ≠ .exceededLimit ∧
      (r.metrics.limitHit = true → happening.isUnwinding = true)) ∨
    (r.metrics.limitHit = false ∧ r' = r.exceedLimit) := by
  cases hstep with
  | countRedirect => exact .inl ⟨rfl, rfl, rfl⟩
  | tryCategories depth question hlimit => exact .inl ⟨rfl, rfl, rfl⟩
  | exceedLimit hlimit => exact .inr (.inr ⟨hlimit, rfl⟩)
  | readWildcard => exact .inr (.inl ⟨_, rfl, rfl, rfl, nofun, fun _ => rfl⟩)
  | takeCapture depth value =>
    exact .inr (.inl ⟨.tookCapture depth value, rfl, rfl, rfl, nofun, fun _ => rfl⟩)
  | write name value => exact .inr (.inl ⟨.wrote name value, rfl, rfl, rfl, nofun, fun _ => rfl⟩)
  | finish depth => exact .inr (.inl ⟨.finished depth, rfl, rfl, rfl, nofun, fun _ => rfl⟩)
  | begin depth question winner hlimit hwinner =>
    refine .inr (.inl ⟨.matched depth winner.index winner.captures, begin_conversation _ _ _, rfl,
      rfl, nofun, ?_⟩)
    intro hexceeded
    rw [hlimit] at hexceeded
    cases hexceeded

/-- Wherever a request leads, its journal tells how its conversation has come about. -/
theorem Request.Chronicled.of_reaches (hreach : Reaches kb profile { conversation := start } r) :
    r.Chronicled start := by
  refine hreach.keeps ?_ ⟨rfl, fun _ hmem => nomatch hmem⟩
  intro r r' hstep h
  rcases hstep.cases_journal with ⟨hconversation, hjournal, hlimit⟩ |
    ⟨happening, hconversation, hjournal, hlimit, hother, -⟩ | ⟨hlimit, rfl⟩
  · constructor
    · rw [hconversation, hjournal, h.conversation]
    · rw [hlimit, hjournal]
      exact h.limitHit
  · constructor
    · rw [hconversation, hjournal, h.conversation]
      rfl
    · intro hbelow hmem
      rw [hjournal, List.mem_cons] at hmem
      rcases hmem with heq | hmem
      · exact hother heq.symm
      · exact h.limitHit (hlimit ▸ hbelow) hmem
  · exact ⟨h.conversation, nofun⟩

/-- On the way to a request in which the limit has been exceeded there is one in which
it is exceeded. -/
theorem Request.Reaches.exists_exceeded (hreach : Reaches kb profile r r')
    (hbelow : r.metrics.limitHit = false) (hbeyond : r'.metrics.limitHit = true) :
    ∃ exceeded, Reaches kb profile r exceeded ∧ exceeded.metrics.limitHit = false ∧
      Reaches kb profile exceeded.exceedLimit r' := by
  -- The last step either comes after the one in which the limit is exceeded, or is that one.
  induction hreach with
  | refl =>
    rw [hbelow] at hbeyond
    cases hbeyond
  | @tail mid last hmid hstep ih =>
    cases hlimit : mid.metrics.limitHit with
    | true =>
      rcases ih hlimit with ⟨exceeded, hexceeded, hbelow', hafter⟩
      exact ⟨exceeded, hexceeded, hbelow', hafter.tail hstep⟩
    | false =>
      rcases hstep.cases_journal with ⟨-, -, hsame⟩ | ⟨_, -, -, hsame, -⟩ | ⟨-, rfl⟩
      · rw [hsame, hlimit] at hbeyond
        cases hbeyond
      · rw [hsame, hlimit] at hbeyond
        cases hbeyond
      · exact ⟨mid, hmid, hlimit, .refl⟩

/-- After the limit has been exceeded, only what was being evaluated is evaluated to its
end. -/
theorem Request.UnwindsFrom.of_reaches {exceeded : Request}
    (hreach : Reaches kb profile exceeded.exceedLimit r) :
    ∃ after, UnwindsFrom exceeded after r := by
  have hinit : UnwindsFrom exceeded [] exceeded.exceedLimit :=
    ⟨rfl, rfl, rfl, fun _ hmem => nomatch hmem⟩
  refine hreach.keeps (I := fun r => ∃ after, UnwindsFrom exceeded after r) ?_ ⟨[], hinit⟩
  rintro r r' hstep ⟨after, h⟩
  rcases hstep.cases_journal with ⟨hconversation, hjournal, hlimit⟩ |
    ⟨happening, hconversation, hjournal, hlimit, -, hunwinding⟩ | ⟨hlimit, rfl⟩
  · exact ⟨after, hlimit.trans h.limitHit, hjournal.trans h.journal,
      hconversation.trans h.conversation, h.unwinding⟩
  · refine ⟨happening :: after, hlimit.trans h.limitHit, ?_, ?_, ?_⟩
    · rw [hjournal, h.journal, List.cons_append]
    · rw [hconversation, h.conversation]
      rfl
    · exact List.forall_mem_cons.2 ⟨hunwinding h.limitHit, h.unwinding⟩
  · have hfalse := h.limitHit
    rw [hlimit] at hfalse
    cases hfalse

/-! ## Whole requests -/

/-- A request in which the limit has been exceeded has no answer, and ends as it is. -/
theorem Request.conclude_of_limitHit (hit : Option Hit) (hlimit : r.metrics.limitHit = true) :
    r.conclude hit = ⟨⟨none, [], none, .redirectionLimit⟩, r⟩ := by
  simp only [conclude, Resolution.ofHit, hlimit, if_true, Conversation.remember]

/-- A request only ends at the limit if the limit has been exceeded. -/
theorem Request.limitHit_of_conclude {hit : Option Hit}
    (houtcome : (r.conclude hit).resolution.outcome = .redirectionLimit) :
    r.metrics.limitHit = true := by
  cases hlimit : r.metrics.limitHit with
  | true => rfl
  | false =>
    cases hit with
    | none => simp [conclude, Resolution.ofHit, hlimit] at houtcome
    | some hit =>
      rw [conclude, hlimit, Resolution.ofHit_some] at houtcome
      dsimp only at houtcome
      split at houtcome <;> cases houtcome

/-- A request that ends at the limit has gone through a request in which the limit was
exceeded, and has only been evaluated to its end since. -/
theorem exists_exceeded_of_resolve {limit : Nat} {conversation : Conversation}
    {question : String} {resolved : Resolved}
    (hresolved : resolved ∈ (resolve kb profile limit conversation question).outcomes)
    (houtcome : resolved.resolution.outcome = .redirectionLimit) :
    ∃ exceeded after,
      Request.Reaches kb profile { conversation := conversation.forgetCaptures } exceeded ∧
      exceeded.metrics.limitHit = false ∧
      exceeded.UnwindsFrom after resolved.request := by
  rw [resolve_eq, Choice.mem_outcomes_bind] at hresolved
  rcases hresolved with ⟨⟨hit, request⟩, hscan, hresolved⟩
  cases Choice.mem_outcomes_pure.1 hresolved
  have hlimit : request.metrics.limitHit = true := Request.limitHit_of_conclude houtcome
  have hreach := (steps_scan (limit + 1) 0 question _ _ hscan).reaches
  rcases hreach.exists_exceeded rfl hlimit with ⟨exceeded, hexceeded, hbelow, hafter⟩
  rcases Request.UnwindsFrom.of_reaches hafter with ⟨after, hunwinds⟩
  refine ⟨exceeded, after, hexceeded, hbelow, ?_⟩
  rw [Request.conclude_of_limitHit hit hlimit]
  exact hunwinds

/-- When a request ends at the limit, its last wildcard is that of the moment at which
the limit was exceeded.  Its variables are those of that moment exactly if every
variable that has been bound since was bound at last to the value that it had. -/
theorem vars_after_limit_iff {limit : Nat} {conversation : Conversation}
    {question : String} {resolved : Resolved}
    (hresolved : resolved ∈ (resolve kb profile limit conversation question).outcomes)
    (houtcome : resolved.resolution.outcome = .redirectionLimit) :
    ∃ exceeded after,
      Request.Reaches kb profile { conversation := conversation.forgetCaptures } exceeded ∧
      exceeded.conversation = conversation.forgetCaptures.replay exceeded.journal ∧
      .exceededLimit ∉ exceeded.journal ∧
      resolved.request.journal = after ++ .exceededLimit :: exceeded.journal ∧
      (∀ happening ∈ after, happening.isUnwinding = true) ∧
      resolved.request.conversation.lastWildcard = exceeded.conversation.lastWildcard ∧
      (resolved.request.conversation.vars = exceeded.conversation.vars ↔
        ∀ name value, lastWritten name after = some value →
          exceeded.conversation.vars.get? name = some value) := by
  obtain ⟨exceeded, after, hreach, hbelow, hunwinds⟩ :=
    exists_exceeded_of_resolve hresolved houtcome
  have hchronicled := Request.Chronicled.of_reaches hreach
  refine ⟨exceeded, after, hreach, hchronicled.conversation, hchronicled.limitHit hbelow,
    hunwinds.journal, hunwinds.unwinding, ?_, ?_⟩
  · rw [hunwinds.conversation]
    exact exceeded.conversation.replay_lastWildcard hunwinds.unwinding
  · rw [hunwinds.conversation]
    exact exceeded.conversation.replay_vars_eq_iff hunwinds.unwinding

/-- A rule that redirects, and binds a variable afterwards. -/
def bindsAfterRedirect : Category where
  pattern := ⟨[.text "A"]⟩
  that := none
  template := [.redirect [.text "B"], .set "x" [.text "late"]]

/-- The rule ends a request at the limit if no redirection is allowed. -/
theorem vars_after_limit_iff_bindsAfterRedirect :
    let resolved := ((resolve ⟨[bindsAfterRedirect], 1⟩ .empty 0 (.start .empty) "A").follow
      ⟨fun _ => 0, 0⟩).1
    resolved.resolution.outcome = .redirectionLimit ∧
      ∃ (exceeded : Request) (after : List Happening),
        resolved.request.journal = after ++ .exceededLimit :: exceeded.journal ∧
        (resolved.request.conversation.vars = exceeded.conversation.vars ↔
          ∀ name value, lastWritten name after = some value →
            exceeded.conversation.vars.get? name = some value) := by
  intro resolved
  have houtcome : resolved.resolution.outcome = .redirectionLimit := by
    decide +kernel
  obtain ⟨exceeded, after, -, -, -, hjournal, -, -, hvars⟩ :=
    vars_after_limit_iff (Choice.follow_mem_outcomes _ _) houtcome
  exact ⟨houtcome, exceeded, after, hjournal, hvars⟩

/-- A variable can be bound after the limit has been exceeded. -/
theorem exists_written_after_limit :
    let resolved := ((resolve ⟨[bindsAfterRedirect], 1⟩ .empty 0 (.start .empty) "A").follow
      ⟨fun _ => 0, 0⟩).1
    let before : List Happening := [.matched 0 0 []]
    resolved.resolution.outcome = .redirectionLimit ∧
      resolved.request.journal = [.finished 0, .wrote "x" "late"] ++ .exceededLimit :: before ∧
      resolved.request.conversation.vars ≠
        ((Conversation.start .empty).forgetCaptures.replay before).vars := by
  decide +kernel

end Dialogue
