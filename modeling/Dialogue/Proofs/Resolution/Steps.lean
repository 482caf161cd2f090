import Dialogue.Proofs.Resolution.Comparison
import Dialogue.Proofs.Resolution.Scanning
import Mathlib.Logic.Relation

/-!
# Requests step by step

Whatever is chosen, a scan takes a request from where it was to where it is by few
kinds of steps, and some of them only as long as the limit on nested redirections has
not been exceeded.  No category matches on the way at a smaller depth than that of the
scan.  What every step keeps, a whole request keeps.

Main results:

- Theorem `steps_scan`: a scan only takes steps of its depth and deeper ones.
- Theorem `scan_cases`: a scan finds no category, or evaluates the one that wins.
- Theorem `Request.Reaches.keeps`: what every step keeps is kept.
- Theorem `Request.ReachesFrom.exists_journal`: what happens comes into the journal.
-/

namespace Dialogue

/-! ## Outcomes of sequences -/

namespace Choice

variable {α β : Type}

/-- Returning has one outcome. -/
@[simp] theorem mem_outcomes_pure {a b : α} : b ∈ (pure a : Choice α).outcomes ↔ b = a :=
  List.mem_singleton

/-- The outcomes of a sequence are those of its second part after any outcome of its
first. -/
theorem mem_outcomes_bind {x : Choice α} {f : α → Choice β} {b : β} :
    b ∈ (x >>= f).outcomes ↔ ∃ a ∈ x.outcomes, b ∈ (f a).outcomes :=
  mem_outcomes_bind_iff

end Choice

/-! ## Steps -/

/-- A step of a request. -/
inductive Request.Step (kb : KnowledgeBase) (profile : Bindings) : Request → Request → Prop
  | readWildcard (r : Request) :
    Step kb profile r (r.record (.readWildcard r.conversation.lastWildcard))
  | takeCapture (r : Request) (depth : Nat) (value : String) :
    Step kb profile r (r.record (.tookCapture depth value))
  | write (r : Request) (name value : String) : Step kb profile r (r.write name value)
  | countRedirect (r : Request) : Step kb profile r r.countRedirect
  | exceedLimit (r : Request) (hlimit : r.metrics.limitHit = false) :
    Step kb profile r r.exceedLimit
  | tryCategories (r : Request) (depth : Nat) (question : String)
    (hlimit : r.metrics.limitHit = false) :
    Step kb profile r (r.tryCategories kb profile depth question)
  | begin (r : Request) (depth : Nat) (question : String) (winner : Winner)
    (hlimit : r.metrics.limitHit = false)
    (hwinner : (survey profile r.conversation question 0 kb.categories).winner = some winner) :
    Step kb profile r (r.begin depth winner)
  | finish (r : Request) (depth : Nat) : Step kb profile r (r.record (.finished depth))

/-- One request leads to another by steps. -/
abbrev Request.Reaches (kb : KnowledgeBase) (profile : Bindings) : Request → Request → Prop :=
  Relation.ReflTransGen (Request.Step kb profile)

variable {kb : KnowledgeBase} {profile : Bindings}

/-- What every step keeps is kept. -/
theorem Request.Reaches.keeps {I : Request → Prop}
    (hstep : ∀ r r', Request.Step kb profile r r' → I r → I r') {r r' : Request}
    (hreach : Request.Reaches kb profile r r') (hr : I r) : I r' := by
  induction hreach with
  | refl => exact hr
  | tail _ hlast ih => exact hstep _ _ hlast ih

/-! ## Depths -/

/-- Whether something happens at a depth or deeper; only matches have a depth. -/
def Happening.IsFrom (depth : Nat) : Happening → Prop
  | .matched other _ _ => depth ≤ other
  | _ => True

/-- A step in which no category matches at a smaller depth. -/
structure Request.StepFrom (kb : KnowledgeBase) (profile : Bindings) (depth : Nat)
    (r r' : Request) : Prop where
  step : Step kb profile r r'
  journal : r'.journal = r.journal ∨
    ∃ happening : Happening, r'.journal = happening :: r.journal ∧ happening.IsFrom depth

/-- One request leads to another by steps in which no category matches at a smaller
depth. -/
abbrev Request.ReachesFrom (kb : KnowledgeBase) (profile : Bindings) (depth : Nat) :
    Request → Request → Prop :=
  Relation.ReflTransGen (Request.StepFrom kb profile depth)

namespace Request.ReachesFrom

variable {depth : Nat} {r r' : Request}

/-- At whatever depth, a request leads to another by steps. -/
theorem reaches (hreach : ReachesFrom kb profile depth r r') : Reaches kb profile r r' := by
  have hle : StepFrom kb profile depth ≤ Step kb profile := fun _ _ hstep => hstep.step
  exact Relation.ReflTransGen.mono hle _ _ hreach

/-- What happens deeper does not happen at a smaller depth. -/
theorem of_deeper (hreach : ReachesFrom kb profile (depth + 1) r r') :
    ReachesFrom kb profile depth r r' := by
  have hle : StepFrom kb profile (depth + 1) ≤ StepFrom kb profile depth := by
    intro r r' hstep
    refine ⟨hstep.step, ?_⟩
    rcases hstep.journal with hsame | ⟨happening, hjournal, hfrom⟩
    · exact .inl hsame
    · refine .inr ⟨happening, hjournal, ?_⟩
      cases happening with
      | matched other index captures => exact Nat.le_of_succ_le hfrom
      | _ => trivial
  exact Relation.ReflTransGen.mono hle _ _ hreach

/-- What happens comes into the journal, on top of what has happened before. -/
theorem exists_journal (hreach : ReachesFrom kb profile depth r r') :
    ∃ later, r'.journal = later ++ r.journal ∧ ∀ happening ∈ later, happening.IsFrom depth := by
  induction hreach with
  | refl => exact ⟨[], rfl, nofun⟩
  | tail _ hlast ih =>
    rcases ih with ⟨later, hjournal, hlater⟩
    rcases hlast.journal with hsame | ⟨happening, hlast, hfrom⟩
    · exact ⟨later, hsame.trans hjournal, hlater⟩
    · refine ⟨happening :: later, ?_, List.forall_mem_cons.2 ⟨hfrom, hlater⟩⟩
      rw [hlast, hjournal, List.cons_append]

end Request.ReachesFrom

/-! ## Evaluations -/

/-- An evaluation only takes steps of a depth and deeper ones. -/
def Evaluation.Steps (kb : KnowledgeBase) (profile : Bindings) (depth : Nat) {α : Type}
    (x : Evaluation α) : Prop :=
  ∀ frame, ∀ out ∈ (x.run frame).outcomes,
    Request.ReachesFrom kb profile depth frame.request out.2.request

/-- An action only takes steps of a depth and deeper ones. -/
def Action.Steps (kb : KnowledgeBase) (profile : Bindings) (depth : Nat) {α : Type}
    (x : Action α) : Prop :=
  ∀ request, ∀ out ∈ (x.run request).outcomes,
    Request.ReachesFrom kb profile depth request out.2

/-- The parts of an evaluation only take steps of a depth and deeper ones, if the answers
to nested questions do. -/
theorem comparison_steps {depth : Nat} (place : Nat) {answer : String → Action String}
    (hanswer : ∀ question, Action.Steps kb profile depth (answer question)) :
    Comparison ⟨profile, place, answer⟩ ⟨profile, place, answer⟩
      fun _ x _ => Evaluation.Steps kb profile depth x where
  pure := by
    intro α a frame out hout
    cases Choice.mem_outcomes_pure.1 hout
    exact .refl
  bind := by
    intro α β x y f g hx hf frame out hout
    rw [StateT.run_bind, Choice.mem_outcomes_bind] at hout
    rcases hout with ⟨mid, hmid, hout⟩
    exact (hx frame mid hmid).trans (hf mid.1 mid.2 out hout)
  profile := rfl
  vars := by
    intro frame out hout
    cases Choice.mem_outcomes_pure.1 hout
    exact .refl
  readWildcard := by
    intro frame out hout
    cases Choice.mem_outcomes_pure.1 hout
    exact .single ⟨.readWildcard _, .inr ⟨_, rfl, trivial⟩⟩
  takeCapture := by
    intro frame out hout
    cases Choice.mem_outcomes_pure.1 hout
    exact .single ⟨.takeCapture _ _ _, .inr ⟨_, rfl, trivial⟩⟩
  write := by
    intro name value frame out hout
    cases Choice.mem_outcomes_pure.1 hout
    exact .single ⟨.write _ _ _, .inr ⟨_, rfl, trivial⟩⟩
  among := by
    intro n frame out hout
    rcases Choice.mem_outcomes_bind.1 hout with ⟨i, -, hi⟩
    cases Choice.mem_outcomes_pure.1 hi
    exact .refl
  answer := by
    intro question frame out hout
    rw [Evaluation.run_onRequest, Choice.mem_outcomes_bind] at hout
    rcases hout with ⟨mid, hmid, hout⟩
    cases Choice.mem_outcomes_pure.1 hout
    exact hanswer question _ mid hmid

/-! ## Scans -/

/-- The evaluation of the category that wins only takes deeper steps, if the answers to
nested questions do. -/
theorem reaches_evaluateWinner (depth : Nat) {answer : String → Action String}
    (hanswer : ∀ question, Action.Steps kb profile (depth + 1) (answer question))
    (winner : Winner) {request : Request} {out : Hit × Request}
    (hout : out ∈ ((evaluateWinner profile depth answer winner).run request).outcomes) :
    Request.ReachesFrom kb profile (depth + 1) (request.begin depth winner) out.2 := by
  rw [evaluateWinner_run, Choice.mem_outcomes_bind] at hout
  rcases hout with ⟨mid, hmid, hout⟩
  cases Choice.mem_outcomes_pure.1 hout
  have hrespond := (comparison_steps depth hanswer).respond winner.category.template
  exact (hrespond _ mid hmid).tail ⟨.finish _ depth, .inr ⟨_, rfl, trivial⟩⟩

/-- The answer to a nested question only takes such steps as the scan for it does. -/
theorem steps_redirect {depth : Nat} {scan : String → Action (Option Hit)}
    (hscan : ∀ question, Action.Steps kb profile depth (scan question)) (question : String) :
    Action.Steps kb profile depth (redirect scan question) := by
  intro request out hout
  rw [redirect_run, Choice.mem_outcomes_bind] at hout
  rcases hout with ⟨mid, hmid, hout⟩
  cases Choice.mem_outcomes_pure.1 hout
  exact .head ⟨.countRedirect request, .inl rfl⟩ (hscan question _ mid hmid)

/-- A scan only takes steps of its depth and deeper ones. -/
theorem steps_scan (levels depth : Nat) (question : String) :
    Action.Steps kb profile depth (scan kb profile levels depth question) := by
  induction levels generalizing depth question with
  | zero =>
    intro request out hout
    cases hlimit : request.metrics.limitHit with
    | true =>
      rw [scan_of_limitHit hlimit] at hout
      cases Choice.mem_outcomes_pure.1 hout
      exact .refl
    | false =>
      rw [scan_zero _ _ _ _ _ hlimit] at hout
      cases List.mem_singleton.1 hout
      exact .single ⟨.exceedLimit request hlimit, .inr ⟨_, rfl, trivial⟩⟩
  | succ levels ih =>
    intro request out hout
    cases hlimit : request.metrics.limitHit with
    | true =>
      rw [scan_of_limitHit hlimit] at hout
      cases Choice.mem_outcomes_pure.1 hout
      exact .refl
    | false =>
      have htry : Request.StepFrom kb profile depth request
          (request.tryCategories kb profile depth question) :=
        ⟨.tryCategories request depth question hlimit, .inl rfl⟩
      cases hwinner : (survey profile request.conversation question 0 kb.categories).winner with
      | none =>
        rw [scan_of_no_winner hlimit hwinner] at hout
        cases Choice.mem_outcomes_pure.1 hout
        exact .single htry
      | some winner =>
        rw [scan_of_winner hlimit hwinner, Choice.mem_outcomes_bind] at hout
        rcases hout with ⟨mid, hmid, hout⟩
        cases Choice.mem_outcomes_pure.1 hout
        have hbegin : Request.StepFrom kb profile depth
            (request.tryCategories kb profile depth question)
            ((request.tryCategories kb profile depth question).begin depth winner) :=
          ⟨.begin _ depth question winner hlimit hwinner, .inr ⟨_, rfl, Nat.le_refl depth⟩⟩
        have hanswer := fun question => steps_redirect (ih (depth + 1)) question
        have hevaluated := reaches_evaluateWinner depth hanswer winner hmid
        exact .head htry (.head hbegin hevaluated.of_deeper)

/-- The category that wins is a hit, with whatever text. -/
theorem exists_text_of_evaluateWinner {depth : Nat} {answer : String → Action String}
    {winner : Winner} {request : Request} {out : Hit × Request}
    (hout : out ∈ ((evaluateWinner profile depth answer winner).run request).outcomes) :
    ∃ text, out.1 = ⟨winner.index, winner.captures, text⟩ := by
  rw [evaluateWinner_run, Choice.mem_outcomes_bind] at hout
  rcases hout with ⟨mid, -, hout⟩
  cases Choice.mem_outcomes_pure.1 hout
  exact ⟨mid.1, rfl⟩

/-- A scan that is not cut short finds no category, or it evaluates the one that wins,
by deeper steps. -/
theorem scan_cases {levels depth : Nat} {question : String} {request : Request}
    (hlimit : request.metrics.limitHit = false) {out : Option Hit × Request}
    (hout : out ∈ ((scan kb profile (levels + 1) depth question).run request).outcomes) :
    ((survey profile request.conversation question 0 kb.categories).winner = none ∧
        out = (none, request.tryCategories kb profile depth question)) ∨
      ∃ winner text,
        (survey profile request.conversation question 0 kb.categories).winner = some winner ∧
        out.1 = some ⟨winner.index, winner.captures, text⟩ ∧
        Request.ReachesFrom kb profile (depth + 1)
          ((request.tryCategories kb profile depth question).begin depth winner) out.2 := by
  cases hwinner : (survey profile request.conversation question 0 kb.categories).winner with
  | none =>
    rw [scan_of_no_winner hlimit hwinner] at hout
    exact .inl ⟨rfl, Choice.mem_outcomes_pure.1 hout⟩
  | some winner =>
    rw [scan_of_winner hlimit hwinner, Choice.mem_outcomes_bind] at hout
    rcases hout with ⟨mid, hmid, hout⟩
    cases Choice.mem_outcomes_pure.1 hout
    rcases exists_text_of_evaluateWinner hmid with ⟨text, htext⟩
    have hanswer : ∀ question, Action.Steps kb profile (depth + 1)
        (redirect (scan kb profile levels (depth + 1)) question) :=
      steps_redirect (steps_scan levels (depth + 1))
    exact .inr ⟨winner, text, rfl, congrArg some htext,
      reaches_evaluateWinner depth hanswer winner hmid⟩

end Dialogue
