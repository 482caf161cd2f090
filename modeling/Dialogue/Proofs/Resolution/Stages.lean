import Dialogue.Proofs.Resolution.Steps

/-!
# Stages of a request

A request goes down and up through the depths of nested questions.  At each depth it is
before a scan, inside the evaluation of the category that has won, or after the scan.
What is known of the request at each of these stages follows from what its single steps
do, by one induction over the levels that are left.

Main results:

- Theorem `comparison_keeps`: what the single steps of an evaluation keep, the evaluation
  of every template keeps.
- Theorem `Stages.scan`: a scan leads from the stage before it to the stage after it.
- Theorem `Stages.resolve`: so does a whole request.
-/

namespace Dialogue

/-! ## What computations keep -/

/-- An evaluation after which a property of the request still holds. -/
def Evaluation.Keeps {α : Type} (I : Request → Prop) (x : Evaluation α) : Prop :=
  ∀ frame, I frame.request → ∀ out ∈ (x.run frame).outcomes, I out.2.request

/-- An action that leads from requests with one property to requests with another. -/
def Action.Leads {α : Type} (P Q : Request → Prop) (x : Action α) : Prop :=
  ∀ request, P request → ∀ out ∈ (x.run request).outcomes, Q out.2

/-- What the steps inside an evaluation keep, its parts keep, if the answers to nested
questions do. -/
theorem comparison_keeps {I : Request → Prop} (profile : Bindings) {depth : Nat}
    {answer : String → Action String}
    (hread : ∀ r value, I r → I (r.record (.readWildcard value)))
    (htake : ∀ r value, I r → I (r.record (.tookCapture depth value)))
    (hwrite : ∀ r name value, I r → I (r.write name value))
    (hanswer : ∀ question, Action.Leads I I (answer question)) :
    Comparison ⟨profile, depth, answer⟩ ⟨profile, depth, answer⟩
      fun _ x _ => Evaluation.Keeps I x where
  pure := by
    intro α a frame hframe out hout
    cases Choice.mem_outcomes_pure.1 hout
    exact hframe
  bind := by
    intro α β x y f g hx hf frame hframe out hout
    rw [StateT.run_bind, Choice.mem_outcomes_bind] at hout
    rcases hout with ⟨mid, hmid, hout⟩
    exact hf mid.1 mid.2 (hx frame hframe mid hmid) out hout
  profile := rfl
  vars := by
    intro frame hframe out hout
    cases Choice.mem_outcomes_pure.1 hout
    exact hframe
  readWildcard := by
    intro frame hframe out hout
    cases Choice.mem_outcomes_pure.1 hout
    exact hread _ _ hframe
  takeCapture := by
    intro frame hframe out hout
    cases Choice.mem_outcomes_pure.1 hout
    exact htake _ _ hframe
  write := by
    intro name value frame hframe out hout
    cases Choice.mem_outcomes_pure.1 hout
    exact hwrite _ _ _ hframe
  among := by
    intro n frame hframe out hout
    rcases Choice.mem_outcomes_bind.1 hout with ⟨i, -, hi⟩
    cases Choice.mem_outcomes_pure.1 hi
    exact hframe
  answer := by
    intro question frame hframe out hout
    rw [Evaluation.run_onRequest, Choice.mem_outcomes_bind] at hout
    rcases hout with ⟨mid, hmid, hout⟩
    cases Choice.mem_outcomes_pure.1 hout
    exact hanswer question _ hframe mid hmid

/-! ## Stages -/

/-- What is known of a request before a scan at a depth, inside the evaluation of the
category that has won there, and after the scan, as long as every step leads to the
stage that follows. -/
structure Stages (kb : KnowledgeBase) (profile : Bindings) (limit : Nat)
    (Before Inside After : Nat → Request → Prop) : Prop where
  /-- After the limit has been exceeded nothing is scanned. -/
  cut : ∀ {depth r}, r.metrics.limitHit = true → Before depth r → After depth r
  /-- Below the last level the limit is exceeded. -/
  exceed : ∀ {r}, r.metrics.limitHit = false → Before (limit + 1) r →
    After (limit + 1) r.exceedLimit
  /-- No category wins. -/
  miss : ∀ {depth r question}, depth ≤ limit → r.metrics.limitHit = false → Before depth r →
    (survey profile r.conversation question 0 kb.categories).winner = none →
    After depth (r.tryCategories kb profile depth question)
  /-- A category wins. -/
  win : ∀ {depth r question winner}, depth ≤ limit → r.metrics.limitHit = false →
    Before depth r →
    (survey profile r.conversation question 0 kb.categories).winner = some winner →
    Inside depth ((r.tryCategories kb profile depth question).begin depth winner)
  readWildcard : ∀ {depth r} value, Inside depth r → Inside depth (r.record (.readWildcard value))
  takeCapture : ∀ {depth r} value, Inside depth r →
    Inside depth (r.record (.tookCapture depth value))
  write : ∀ {depth r} name value, Inside depth r → Inside depth (r.write name value)
  /-- A nested question is to be scanned for. -/
  descend : ∀ {depth r}, Inside depth r → Before (depth + 1) r.countRedirect
  /-- The nested question has been scanned for. -/
  ascend : ∀ {depth r}, After (depth + 1) r → Inside depth r
  finish : ∀ {depth r}, Inside depth r → After depth (r.record (.finished depth))

namespace Stages

variable {kb : KnowledgeBase} {profile : Bindings} {limit : Nat}
  {Before Inside After : Nat → Request → Prop}

/-- The evaluation of the category that wins leads to the stage after the scan, if the
answers to nested questions stay inside it. -/
theorem evaluateWinner (h : Stages kb profile limit Before Inside After) {depth : Nat}
    {answer : String → Action String}
    (hanswer : ∀ question, Action.Leads (Inside depth) (Inside depth) (answer question))
    {winner : Winner} {request : Request} (hbegin : Inside depth (request.begin depth winner))
    {out : Hit × Request}
    (hout : out ∈ ((evaluateWinner profile depth answer winner).run request).outcomes) :
    After depth out.2 := by
  rw [evaluateWinner_run, Choice.mem_outcomes_bind] at hout
  rcases hout with ⟨mid, hmid, hout⟩
  cases Choice.mem_outcomes_pure.1 hout
  have hkeeps := (comparison_keeps profile (fun _ => h.readWildcard)
    (fun _ => h.takeCapture) (fun _ => h.write) hanswer).respond winner.category.template
  exact h.finish (hkeeps ⟨winner.captures, request.begin depth winner⟩ hbegin mid hmid)

/-- The answer to a nested question stays inside the evaluation of its category, if the
scan for it leads from one stage to the other. -/
theorem redirect (h : Stages kb profile limit Before Inside After) {depth : Nat}
    {scan : String → Action (Option Hit)}
    (hscan : ∀ question, Action.Leads (Before (depth + 1)) (After (depth + 1)) (scan question))
    (question : String) :
    Action.Leads (Inside depth) (Inside depth) (redirect scan question) := by
  intro request hinside out hout
  rw [redirect_run, Choice.mem_outcomes_bind] at hout
  rcases hout with ⟨mid, hmid, hout⟩
  cases Choice.mem_outcomes_pure.1 hout
  exact h.ascend (hscan question _ (h.descend hinside) mid hmid)

/-- A scan leads from the stage before it to the stage after it. -/
theorem scan (h : Stages kb profile limit Before Inside After) {levels depth : Nat}
    (hlevels : depth + levels = limit + 1) (question : String) :
    Action.Leads (Before depth) (After depth) (scan kb profile levels depth question) := by
  induction levels generalizing depth question with
  | zero =>
    intro request hbefore out hout
    cases hlimit : request.metrics.limitHit with
    | true =>
      rw [scan_of_limitHit hlimit] at hout
      cases Choice.mem_outcomes_pure.1 hout
      exact h.cut hlimit hbefore
    | false =>
      rw [scan_zero _ _ _ _ _ hlimit] at hout
      cases List.mem_singleton.1 hout
      obtain rfl : depth = limit + 1 := hlevels
      exact h.exceed hlimit hbefore
  | succ levels ih =>
    intro request hbefore out hout
    have hle : depth ≤ limit := by omega
    cases hlimit : request.metrics.limitHit with
    | true =>
      rw [scan_of_limitHit hlimit] at hout
      cases Choice.mem_outcomes_pure.1 hout
      exact h.cut hlimit hbefore
    | false =>
      cases hwinner : (survey profile request.conversation question 0 kb.categories).winner with
      | none =>
        rw [scan_of_no_winner hlimit hwinner] at hout
        cases Choice.mem_outcomes_pure.1 hout
        exact h.miss hle hlimit hbefore hwinner
      | some winner =>
        rw [scan_of_winner hlimit hwinner, Choice.mem_outcomes_bind] at hout
        rcases hout with ⟨mid, hmid, hout⟩
        cases Choice.mem_outcomes_pure.1 hout
        have hdeeper : depth + 1 + levels = limit + 1 := by omega
        have hnested := h.redirect fun question => ih hdeeper question
        exact h.evaluateWinner hnested (h.win hle hlimit hbefore hwinner) hmid

/-- A whole request leads from the stage before the scan for its question to the stage
after it; remembering the answer does not touch the journal and the counters. -/
theorem resolve (h : Stages kb profile limit Before Inside After) {conversation : Conversation}
    {question : String} (hstart : Before 0 { conversation := conversation.forgetCaptures })
    {resolved : Resolved}
    (hresolved : resolved ∈ (resolve kb profile limit conversation question).outcomes) :
    ∃ out ∈ ((Dialogue.scan kb profile (limit + 1) 0 question).run
        { conversation := conversation.forgetCaptures }).outcomes,
      After 0 out.2 ∧ resolved = out.2.conclude out.1 := by
  rw [resolve_eq, Choice.mem_outcomes_bind] at hresolved
  rcases hresolved with ⟨out, hout, hresolved⟩
  refine ⟨out, hout, ?_, Choice.mem_outcomes_pure.1 hresolved⟩
  exact h.scan (Nat.zero_add _) question _ hstart out hout

end Stages

end Dialogue
