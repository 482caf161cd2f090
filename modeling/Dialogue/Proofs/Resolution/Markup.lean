import Dialogue.Proofs.Resolution.Ending
import Dialogue.Proofs.Resolution.Guarded
import Dialogue.Proofs.Text.Markup

/-!
# Requests that bring in no markup

If neither the templates nor the attributes of the bot nor the variables have a character of
markup, then nothing that comes of a question has it, whatever the question says.  The texts of
a question only come in as captures, and captures do not have the character.

Main results:

- Theorem `guardedComparison_keepsOut`: what the single steps of an evaluation keep out.
- Theorem `scansFreeOf_scan`: what a scan keeps out.
- Theorem `freeOf_of_resolve`: what comes of a question, whatever it says.
-/

namespace Dialogue

variable {c : Char}

/-! ## What has no such character -/

/-- Whether a character is in none of the texts that names stand for. -/
def Bindings.FreeOf (c : Char) (b : Bindings) : Prop := ∀ entry ∈ b.entries, Lacks c entry.2

/-- A conversation whose variables and captures do not have a character. -/
structure Conversation.FreeOf (c : Char) (conversation : Conversation) : Prop where
  vars : conversation.vars.FreeOf c
  captures : ∀ capture ∈ conversation.captures, Lacks c capture
  lastWildcard : Lacks c conversation.lastWildcard

/-- A frame whose captures and conversation do not have a character. -/
structure Frame.FreeOf (c : Char) (frame : Frame) : Prop where
  unread : ∀ capture ∈ frame.unread, Lacks c capture
  conversation : frame.request.conversation.FreeOf c

/-- A category that has been evaluated to texts without a character. -/
structure Hit.FreeOf (c : Char) (hit : Hit) : Prop where
  captures : ∀ capture ∈ hit.captures, Lacks c capture
  text : ∀ text ∈ hit.text, Lacks c text

/-- Whether a fragment, apart from those inside of it, brings no character of its own into an
answer: it is not an element without a meaning, and not a text with the character. -/
def Fragment.isFreeOf (c : Char) : Fragment → Bool
  | .text content => decide (Lacks c content)
  | .markup _ _ _ => false
  | _ => true

/-- Whether no template of a knowledge base brings a character into an answer. -/
def KnowledgeBase.FreeOf (c : Char) (kb : KnowledgeBase) : Prop :=
  ∀ category ∈ kb.categories, Fragment.everyOf (Fragment.isFreeOf c) category.template = true

/-! ## Bindings -/

namespace Bindings.FreeOf

variable {b : Bindings}

/-- What a name stands for is the text of an entry. -/
theorem lookupEntry {entries : List (String × String)}
    (h : ∀ entry ∈ entries, Lacks c entry.2) (name : String) :
    Lacks c ((Bindings.lookupEntry name entries).getD "") := by
  induction entries with
  | nil => exact lacks_empty c
  | cons entry entries ih =>
    rw [List.forall_mem_cons] at h
    rw [Bindings.lookupEntry]
    split
    · exact h.1
    · exact ih h.2

/-- No name stands for a text with the character. -/
theorem get (h : b.FreeOf c) (name : String) : Lacks c (b.get name) :=
  lookupEntry h name

/-- A name may be bound to a text without the character. -/
theorem insert (h : b.FreeOf c) (name : String) {value : String} (hvalue : Lacks c value) :
    (b.insert name value).FreeOf c := by
  intro entry hentry
  rcases Bindings.mem_insertEntry hentry with rfl | hold
  · exact hvalue
  · exact h entry hold

/-- A name may be removed. -/
theorem erase (h : b.FreeOf c) (name : String) : (b.erase name).FreeOf c := by
  intro entry hentry
  exact h entry (List.mem_filter.1 hentry).1

end Bindings.FreeOf

/-! ## Conversations -/

namespace Conversation.FreeOf

variable {conversation : Conversation}

/-- A conversation of which nothing but the variables is left. -/
theorem forgetCaptures (h : conversation.vars.FreeOf c) : conversation.forgetCaptures.FreeOf c where
  vars := h
  captures := nofun
  lastWildcard := lacks_empty c

/-- A variable may be bound to a text without the character. -/
theorem set (h : conversation.FreeOf c) (name : String) {value : String} (hvalue : Lacks c value) :
    (conversation.set name value).FreeOf c where
  vars := h.vars.insert name hvalue
  captures := h.captures
  lastWildcard := h.lastWildcard

/-- A variable may be removed. -/
theorem remove (h : conversation.FreeOf c) (name : String) :
    (conversation.remove name).FreeOf c where
  vars := h.vars.erase name
  captures := h.captures
  lastWildcard := h.lastWildcard

/-- Captures without the character may be noted. -/
theorem noteCaptures (h : conversation.FreeOf c) {captures : List String}
    (hcaptures : ∀ capture ∈ captures, Lacks c capture) :
    (conversation.noteCaptures captures).FreeOf c := by
  unfold Conversation.noteCaptures
  split
  · rename_i last hlast
    exact ⟨h.vars, h.captures, hcaptures last (List.mem_of_getLast? hlast)⟩
  · exact h

/-- A category that matches with captures without the character may be begun. -/
theorem begin {request : Request} (h : request.conversation.FreeOf c) (depth : Nat)
    {winner : Winner} (hcaptures : ∀ capture ∈ winner.captures, Lacks c capture) :
    (request.begin depth winner).conversation.FreeOf c := by
  have hnoted := h.noteCaptures hcaptures
  simp only [Request.begin, Request.record_conversation]
  split
  · exact ⟨hnoted.vars, hcaptures, hnoted.lastWildcard⟩
  · exact hnoted

/-- Any answer may be remembered. -/
theorem remember (h : conversation.FreeOf c) (answer : Option String) :
    (conversation.remember answer).FreeOf c := by
  cases answer with
  | none => exact h
  | some text => exact ⟨h.vars, h.captures, h.lastWildcard⟩

end Conversation.FreeOf

/-! ## Evaluations -/

/-- Templates make texts without a character of markup from texts without it. -/
theorem textClass_lacks (hc : c ∈ markupChars) :
    TextClass (Fragment.isFreeOf c) (Lacks c) where
  empty := lacks_empty c
  lineBreak := by
    have hall : ∀ mark ∈ markupChars, Lacks mark "\n" := by
      apply forall_markupChars <;> decide
    exact hall c hc
  append := Lacks.append
  clean := Lacks.clean
  recase casing _ := Lacks.apply hc casing
  text content h := by simpa [Fragment.isFreeOf] using h
  markup tag attributes content h := by simp [Fragment.isFreeOf] at h

/-- An evaluation that keeps a character out of its results and out of its frame. -/
def Evaluation.KeepsOut (c : Char) {α : Type} [MadeOfTexts α] (x : Evaluation α) : Prop :=
  ∀ frame : Frame, frame.FreeOf c →
    ∀ out ∈ (x.run frame).outcomes, Meets (Lacks c) out.1 ∧ out.2.FreeOf c

/-- A nested question whose answer, and what is left of the conversation, have no character. -/
def Action.KeepsOut (c : Char) (x : Action String) : Prop :=
  ∀ request : Request, request.conversation.FreeOf c →
    ∀ out ∈ (x.run request).outcomes, Lacks c out.1 ∧ out.2.conversation.FreeOf c

/-- The parts of an evaluation keep a character of markup out, if the answers to nested questions
do. -/
theorem guardedComparison_keepsOut (hc : c ∈ markupChars) {profile : Bindings}
    (hprofile : profile.FreeOf c) (depth : Nat) {answer : String → Action String}
    (hanswer : ∀ question, (answer question).KeepsOut c) :
    GuardedComparison (Fragment.isFreeOf c) (Lacks c) ⟨profile, depth, answer⟩
      ⟨profile, depth, answer⟩ fun _ _ x _ => Evaluation.KeepsOut c x where
  texts := textClass_lacks hc
  pure := by
    intro α _ a ha frame hframe out hout
    cases Choice.mem_outcomes_pure.1 hout
    exact ⟨ha, hframe⟩
  bind := by
    intro α β _ _ x y f g hx hf frame hframe out hout
    rw [StateT.run_bind, Choice.mem_outcomes_bind] at hout
    rcases hout with ⟨mid, hmid, hout⟩
    rcases hx frame hframe mid hmid with ⟨hresult, hkept⟩
    exact hf mid.1 hresult mid.2 hkept out hout
  profile := rfl
  botText := hprofile.get
  vars := by
    intro frame hframe out hout
    cases Choice.mem_outcomes_pure.1 hout
    exact ⟨hframe.conversation.vars.get, hframe⟩
  readWildcard := by
    intro frame hframe out hout
    cases Choice.mem_outcomes_pure.1 hout
    exact ⟨hframe.conversation.lastWildcard, hframe.unread, hframe.conversation⟩
  takeCapture := by
    intro frame hframe out hout
    cases Choice.mem_outcomes_pure.1 hout
    refine ⟨?_, ?_, hframe.conversation⟩
    · have hunread := hframe.unread
      cases hcaptures : frame.unread with
      | nil => exact lacks_empty c
      | cons first rest => exact hunread first (hcaptures ▸ List.mem_cons_self)
    · exact fun capture hcapture => hframe.unread capture (List.mem_of_mem_tail hcapture)
  write := by
    intro name value hvalue frame hframe out hout
    cases Choice.mem_outcomes_pure.1 hout
    exact ⟨hvalue, hframe.unread, hframe.conversation.set name hvalue⟩
  among := by
    intro alternatives n _ _ frame hframe out hout
    rcases Choice.mem_outcomes_bind.1 hout with ⟨i, -, hi⟩
    cases Choice.mem_outcomes_pure.1 hi
    exact ⟨trivial, hframe⟩
  answer := by
    intro question _ frame hframe out hout
    rw [Evaluation.run_onRequest, Choice.mem_outcomes_bind] at hout
    rcases hout with ⟨mid, hmid, hout⟩
    cases Choice.mem_outcomes_pure.1 hout
    rcases hanswer question _ hframe.conversation mid hmid with ⟨htext, hkept⟩
    exact ⟨htext, hframe.unread, hkept⟩

/-! ## Scans -/

variable {kb : KnowledgeBase} {profile : Bindings}

/-- The text of a hit without a character is an answer without it. -/
theorem lacks_nestedAnswer {hit : Option Hit} (h : ∀ found ∈ hit, found.FreeOf c) :
    Lacks c (nestedAnswer hit) := by
  cases hit with
  | none => exact lacks_empty c
  | some found =>
    have htext := (h found rfl).text
    unfold nestedAnswer
    cases hfound : found.text with
    | none => simpa [hfound] using lacks_empty c
    | some text =>
      rw [hfound] at htext
      simpa [hfound] using (htext text rfl).clean

/-- The captures of the category that wins have no character of markup. -/
theorem lacks_of_survey (hc : c ∈ markupChars) {conversation : Conversation} {question : String}
    {start : Nat} {categories : List Category} {winner : Winner}
    (hwinner : (survey profile conversation question start categories).winner = some winner) :
    winner.category ∈ categories ∧ ∀ capture ∈ winner.captures, Lacks c capture := by
  rcases isFirst_of_survey hwinner with ⟨offset, -, hfirst⟩
  exact ⟨List.mem_of_getElem? hfirst.category, Wording.lacks_of_captures? hc hfirst.captures?⟩

/-- A scan whose hit, and what is left of the conversation, have no character. -/
def Action.ScansFreeOf (c : Char) (x : Action (Option Hit)) : Prop :=
  ∀ request : Request, request.conversation.FreeOf c → ∀ out ∈ (x.run request).outcomes,
    (∀ hit ∈ out.1, hit.FreeOf c) ∧ out.2.conversation.FreeOf c

/-- The answer to a nested question keeps a character out if the scan for it does. -/
theorem keepsOut_redirect {scan : String → Action (Option Hit)}
    (hscan : ∀ question, (scan question).ScansFreeOf c) (question : String) :
    (redirect scan question).KeepsOut c := by
  intro request hrequest out hout
  rw [redirect_run, Choice.mem_outcomes_bind] at hout
  rcases hout with ⟨mid, hmid, hout⟩
  cases Choice.mem_outcomes_pure.1 hout
  rcases hscan question request.countRedirect hrequest mid hmid with ⟨hhit, hkept⟩
  exact ⟨lacks_nestedAnswer hhit, hkept⟩

/-- The evaluation of a category keeps a character of markup out if nested questions do. -/
theorem freeOf_of_evaluateWinner (hc : c ∈ markupChars) (hprofile : profile.FreeOf c)
    (depth : Nat) {answer : String → Action String}
    (hanswer : ∀ question, (answer question).KeepsOut c) {winner : Winner}
    (htemplate : Fragment.everyOf (Fragment.isFreeOf c) winner.category.template = true)
    (hcaptures : ∀ capture ∈ winner.captures, Lacks c capture) {request : Request}
    (hrequest : request.conversation.FreeOf c) {out : Hit × Request}
    (hout : out ∈ ((evaluateWinner profile depth answer winner).run request).outcomes) :
    out.1.FreeOf c ∧ out.2.conversation.FreeOf c := by
  rw [evaluateWinner_run, Choice.mem_outcomes_bind] at hout
  rcases hout with ⟨mid, hmid, hout⟩
  cases Choice.mem_outcomes_pure.1 hout
  have hrespond := (guardedComparison_keepsOut hc hprofile depth hanswer).respond _ htemplate
  rcases hrespond _ ⟨hcaptures, hrequest.begin depth hcaptures⟩ mid hmid with ⟨htext, hkept⟩
  exact ⟨⟨hcaptures, htext⟩, hkept.conversation⟩

/-- A scan keeps a character of markup out that no template and no attribute has. -/
theorem scansFreeOf_scan (hc : c ∈ markupChars) (hkb : kb.FreeOf c) (hprofile : profile.FreeOf c)
    (levels depth : Nat) (question : String) :
    (scan kb profile levels depth question).ScansFreeOf c := by
  refine scan_induction (P := fun request x => request.conversation.FreeOf c →
    ∀ out ∈ x.outcomes, (∀ hit ∈ out.1, hit.FreeOf c) ∧ out.2.conversation.FreeOf c)
    ?_ ?_ levels depth question
  · intro request after hafter hrequest out hout
    cases Choice.mem_outcomes_pure.1 hout
    rw [hafter]
    exact ⟨nofun, hrequest⟩
  · intro levels depth question request winner hnested hwinner hrequest out hout
    rw [Choice.mem_outcomes_bind] at hout
    rcases hout with ⟨mid, hmid, hout⟩
    cases Choice.mem_outcomes_pure.1 hout
    rcases lacks_of_survey hc hwinner with ⟨hmem, hcaptures⟩
    have htried : (request.tryCategories kb profile depth question).conversation.FreeOf c :=
      hrequest
    rcases freeOf_of_evaluateWinner hc hprofile depth (keepsOut_redirect hnested) (hkb _ hmem)
      hcaptures htried hmid with ⟨hhit, hkept⟩
    refine ⟨?_, hkept⟩
    rintro hit ⟨⟩
    exact hhit

/-! ## Requests -/

/-- What comes of a question has no character of markup that no template, no attribute and no
variable has, whatever the question says. -/
theorem freeOf_of_resolve (hc : c ∈ markupChars) (hkb : kb.FreeOf c) (hprofile : profile.FreeOf c)
    {limit : Nat} {conversation : Conversation} (hvars : conversation.vars.FreeOf c)
    {question : String} {resolved : Resolved}
    (hresolved : resolved ∈ (resolve kb profile limit conversation question).outcomes) :
    (∀ text ∈ resolved.resolution.answer, Lacks c text) ∧
      (∀ capture ∈ resolved.resolution.captures, Lacks c capture) ∧
      resolved.request.conversation.FreeOf c := by
  rw [resolve_eq, Choice.mem_outcomes_bind] at hresolved
  rcases hresolved with ⟨⟨hit, request⟩, hscan, hresolved⟩
  cases Choice.mem_outcomes_pure.1 hresolved
  rcases scansFreeOf_scan hc hkb hprofile (limit + 1) 0 question _
    (Conversation.FreeOf.forgetCaptures hvars) _ hscan with ⟨hhit, hkept⟩
  have hremembered := hkept.remember
    (Resolution.ofHit request.metrics.limitHit hit).answer
  suffices hresolution :
      (∀ text ∈ (Resolution.ofHit request.metrics.limitHit hit).answer, Lacks c text) ∧
        ∀ capture ∈ (Resolution.ofHit request.metrics.limitHit hit).captures, Lacks c capture from
    ⟨hresolution.1, hresolution.2, hremembered⟩
  cases request.metrics.limitHit with
  | true => exact ⟨nofun, nofun⟩
  | false =>
    cases hit with
    | none => exact ⟨nofun, nofun⟩
    | some hit =>
      rw [Resolution.ofHit_some]
      exact ⟨GuardedComparison.answerOf (lacks_nestedAnswer hhit), (hhit hit rfl).captures⟩

end Dialogue
