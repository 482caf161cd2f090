import Dialogue.Proofs.Resolution.Steps
import Dialogue.Proofs.Resolution.Termination
import Dialogue.Proofs.Text.Cleaning

/-!
# What can come of a question

The work on a question is described here without draws, by rules that say what each part of it
can come to.  There is one rule for each form of a fragment and for each exit of a scan.  Every
rule but one fixes its result by its premises; a random fragment takes any of its alternatives,
whichever has been taken elsewhere.  These rules give exactly the outcomes of a request.

Main results:

- Theorem `Course.Possible.isOutcome`: what the rules give is an outcome.
- Theorem `Course.complete`: the rules give all outcomes.
- Theorem `mem_outcomes_resolve_iff`: the outcomes of a request are what the rules give.
-/

namespace Dialogue

/-! ## Frames -/

namespace Frame

/-- The variables as they are now. -/
def vars (frame : Frame) : Bindings := frame.request.conversation.vars

/-- The last wildcard. -/
def lastWildcard (frame : Frame) : String := frame.request.conversation.lastWildcard

/-- The frame after the last wildcard has been read. -/
def afterWildcard (frame : Frame) : Frame :=
  { frame with request := frame.request.record (.readWildcard frame.lastWildcard) }

/-- The next capture of the category, or the empty text when all have been taken. -/
def nextCapture (frame : Frame) : String := frame.unread.headD ""

/-- The frame after the next capture has been taken. -/
def afterCapture (frame : Frame) (depth : Nat) : Frame :=
  ⟨frame.unread.tail, frame.request.record (.tookCapture depth frame.nextCapture)⟩

/-- The frame after a variable has been bound. -/
def write (frame : Frame) (name value : String) : Frame :=
  { frame with request := frame.request.write name value }

/-- The frame with its request in another state. -/
def withRequest (frame : Frame) (request : Request) : Frame := { frame with request := request }

end Frame

namespace Branch

/-- The content of the first branch that is taken; without one there is none. -/
def taken (isTaken : Branch → Bool) (branches : List Branch) : List Fragment :=
  ((branches.find? isTaken).map content).getD []

/-- The content of the branch that is taken is that of one of the branches, or there is none. -/
theorem taken_eq_nil_or_mem (isTaken : Branch → Bool) (branches : List Branch) :
    taken isTaken branches = [] ∨
      taken isTaken branches ∈ branches.map content := by
  unfold taken
  cases hfind : branches.find? isTaken with
  | none => exact .inl rfl
  | some branch => exact .inr (List.mem_map_of_mem (List.mem_of_find?_eq_some hfind))

end Branch

/-! ## Rules -/

/-- One part of the work on a question: where it begins, what it comes to, and where it ends. -/
inductive Course where
  /-- A question is scanned for at a depth. -/
  | scan (depth : Nat) (question : String) (before : Request) (hit : Option Hit) (after : Request)
  /-- Fragments answer. -/
  | answer (depth : Nat) (fragments : List Fragment) (before : Frame) (text : Option String)
    (after : Frame)
  /-- The texts of fragments are joined. -/
  | join (depth : Nat) (fragments : List Fragment) (before : Frame) (text : String) (after : Frame)
  /-- A fragment is evaluated. -/
  | evaluate (depth : Nat) (fragment : Fragment) (before : Frame) (text : String) (after : Frame)

namespace Course

variable (kb : KnowledgeBase) (profile : Bindings) (limit : Nat)

/-- What can happen while a question is answered; redirections may be nested `limit` deep. -/
inductive Possible : Course → Prop
  /-- After the limit has been exceeded nothing is scanned. -/
  | scanCut {depth question request} (hlimit : request.metrics.limitHit = true) :
    Possible (.scan depth question request none request)
  | scanTooDeep {depth question request}
    (hlimit : request.metrics.limitHit = false) (hdepth : limit < depth) :
    Possible (.scan depth question request none request.exceedLimit)
  | scanMiss {depth question request}
    (hlimit : request.metrics.limitHit = false) (hdepth : depth ≤ limit)
    (hwinner : (survey profile request.conversation question 0 kb.categories).winner = none) :
    Possible (.scan depth question request none (request.tryCategories kb profile depth question))
  /-- The template of the category that wins answers. -/
  | scanHit {depth question request winner text after}
    (hlimit : request.metrics.limitHit = false) (hdepth : depth ≤ limit)
    (hwinner : (survey profile request.conversation question 0 kb.categories).winner = some winner)
    (hanswer : Possible (.answer depth winner.category.template
      ⟨winner.captures, (request.tryCategories kb profile depth question).begin depth winner⟩
      text after)) :
    Possible (.scan depth question request (some ⟨winner.index, winner.captures, text⟩)
      (after.request.record (.finished depth)))
  /-- A single template inside a template is looked into. -/
  | answerGroup {depth content before after text}
    (hanswer : Possible (.answer depth content before text after)) :
    Possible (.answer depth [.group content] before text after)
  /-- Fragments that are all blank give no answer. -/
  | answerBlank {depth fragments frame} (hblank : fragments.all Fragment.isBlank = true) :
    Possible (.answer depth fragments frame none frame)
  | answerText {depth fragments before after text}
    (hgroup : ∀ content, fragments ≠ [.group content])
    (hblank : fragments.all Fragment.isBlank = false)
    (hjoin : Possible (.join depth fragments before text after)) :
    Possible (.answer depth fragments before (answerOf (Text.clean text)) after)
  | joinNil {depth frame} : Possible (.join depth [] frame "" frame)
  | joinCons {depth fragment fragments before mid after text rest}
    (hfirst : Possible (.evaluate depth fragment before text mid))
    (hrest : Possible (.join depth fragments mid rest after)) :
    Possible (.join depth (fragment :: fragments) before (text ++ rest) after)
  | text {depth content frame} : Possible (.evaluate depth (.text content) frame content frame)
  | bot {depth name frame} :
    Possible (.evaluate depth (.bot name) frame (profile.get name) frame)
  | get {depth name frame} :
    Possible (.evaluate depth (.get name) frame (frame.vars.get name) frame)
  /-- Without content a variable is bound to the empty text. -/
  | setNothing {depth name frame} :
    Possible (.evaluate depth (.set name []) frame "" (frame.write name ""))
  | setCapture {depth name first rest frame} (hcapture : first.takesCapture = true) :
    Possible (.evaluate depth (.set name (first :: rest)) frame frame.nextCapture
      ((frame.afterCapture depth).write name frame.nextCapture))
  | setText {depth name first rest before after text} (hcapture : first.takesCapture = false)
    (hjoin : Possible (.join depth (first :: rest) before text after)) :
    Possible (.evaluate depth (.set name (first :: rest)) before (Text.clean text)
      (after.write name (Text.clean text)))
  | star {depth frame} :
    Possible (.evaluate depth .star frame frame.lastWildcard frame.afterWildcard)
  /-- An empty wildcard is not asked for. -/
  | starEmpty {depth frame} (hempty : frame.lastWildcard = "") :
    Possible (.evaluate depth .starAnswer frame "" frame.afterWildcard)
  | starAnswer {depth frame hit after} (hnonempty : frame.lastWildcard ≠ "")
    (hscan : Possible (.scan (depth + 1) frame.lastWildcard
      frame.afterWildcard.request.countRedirect hit after)) :
    Possible (.evaluate depth .starAnswer frame (nestedAnswer hit) (frame.withRequest after))
  | redirect {depth question before mid text hit after}
    (hjoin : Possible (.join depth question before text mid))
    (hscan : Possible (.scan (depth + 1) (Text.clean text) mid.request.countRedirect hit after)) :
    Possible (.evaluate depth (.redirect question) before (nestedAnswer hit)
      (mid.withRequest after))
  | randomNone {depth frame} : Possible (.evaluate depth (.random []) frame "" frame)
  /-- Any of the alternatives is taken. -/
  | random {depth alternatives alternative before after text} (hmem : alternative ∈ alternatives)
    (hanswer : Possible (.answer depth alternative.asAlternative before text after)) :
    Possible (.evaluate depth (.random alternatives) before (text.getD "") after)
  | firstOf {depth branches before after text}
    (hanswer : Possible (.answer depth (Branch.taken (Branch.holds before.vars) branches)
      before text after)) :
    Possible (.evaluate depth (.firstOf branches) before (text.getD "") after)
  | onlyIf {depth name value content before after text}
    (hvalue : before.vars.get? name = some value)
    (hjoin : Possible (.join depth content before text after)) :
    Possible (.evaluate depth (.onlyIf name value content) before (Text.clean text) after)
  | onlyIfNot {depth name value content frame} (hvalue : frame.vars.get? name ≠ some value) :
    Possible (.evaluate depth (.onlyIf name value content) frame "" frame)
  | select {depth name branches before after text}
    (hjoin : Possible (.join depth (Branch.taken (Branch.holdsOf before.vars name) branches)
      before text after)) :
    Possible (.evaluate depth (.select name branches) before (Text.clean text) after)
  | recase {depth casing content before after text}
    (hjoin : Possible (.join depth content before text after)) :
    Possible (.evaluate depth (.recase casing content) before (casing.apply (Text.clean text))
      after)
  | lineBreak {depth frame} : Possible (.evaluate depth .lineBreak frame "\n" frame)
  | think {depth content before after text}
    (hjoin : Possible (.join depth content before text after)) :
    Possible (.evaluate depth (.think content) before "" after)
  | item {depth content before after text}
    (hjoin : Possible (.join depth content before text after)) :
    Possible (.evaluate depth (.item content) before (Text.clean text) after)
  | group {depth content before after text}
    (hjoin : Possible (.join depth content before text after)) :
    Possible (.evaluate depth (.group content) before (Text.clean text) after)
  | markup {depth tag attributes content before after text}
    (hjoin : Possible (.join depth content before text after)) :
    Possible (.evaluate depth (.markup tag attributes content) before
      (writeElement tag attributes (Text.clean text)) after)

end Course

/-! ## Outcomes with a state -/

/-- Whether a result, with a state afterwards, is an outcome from a state. -/
def Yields {σ α : Type} (x : StateT σ Choice α) (before : σ) (a : α) (after : σ) : Prop :=
  (a, after) ∈ (x.run before).outcomes

section Yields

variable {σ α β : Type} {before after : σ}

/-- Returning yields its result. -/
@[simp] theorem yields_pure {a b : α} :
    Yields (pure a : StateT σ Choice α) before b after ↔ b = a ∧ after = before := by
  rw [Yields, StateT.run_pure, Choice.mem_outcomes_pure, Prod.mk.injEq]

/-- A sequence yields what its second part does after any outcome of its first. -/
@[simp] theorem yields_bind {x : StateT σ Choice α} {f : α → StateT σ Choice β} {b : β} :
    Yields (x >>= f) before b after ↔
      ∃ a mid, Yields x before a mid ∧ Yields (f a) mid b after := by
  rw [Yields, StateT.run_bind, Choice.mem_outcomes_bind]
  constructor
  · rintro ⟨⟨a, mid⟩, hfirst, hrest⟩
    exact ⟨a, mid, hfirst, hrest⟩
  · rintro ⟨a, mid, hfirst, hrest⟩
    exact ⟨(a, mid), hfirst, hrest⟩

/-- A result that is changed afterwards. -/
@[simp] theorem yields_map {x : StateT σ Choice α} {f : α → β} {b : β} :
    Yields (f <$> x) before b after ↔ ∃ a, Yields x before a after ∧ b = f a := by
  rw [← bind_pure_comp, yields_bind]
  constructor
  · rintro ⟨a, mid, hx, hpure⟩
    rcases yields_pure.1 hpure with ⟨rfl, rfl⟩
    exact ⟨a, hx, rfl⟩
  · rintro ⟨a, hx, rfl⟩
    exact ⟨a, after, hx, yields_pure.2 ⟨rfl, rfl⟩⟩

end Yields

namespace Evaluation

variable {before after : Frame} {text : String}

/-- Any number is drawn, and the frame stays. -/
@[simp] theorem yields_among {n : Nat} {i : Fin (n + 1)} :
    Yields (Choice.among n : Evaluation (Fin (n + 1))) before i after ↔ after = before := by
  have hdrawn : i ∈ (Choice.among n).outcomes := by
    simp [Choice.among, Choice.outcomes]
  have hrun : (Choice.among n : Evaluation (Fin (n + 1))).run before =
      Choice.among n >>= fun i => pure (i, before) := rfl
  rw [Yields, hrun, Choice.mem_outcomes_bind]
  constructor
  · rintro ⟨j, -, hpure⟩
    exact (Prod.mk.inj (Choice.mem_outcomes_pure.1 hpure)).2
  · rintro rfl
    exact ⟨i, hdrawn, Choice.mem_outcomes_pure.2 rfl⟩

/-- The variables are read as they are. -/
@[simp] theorem yields_vars {vars : Bindings} :
    Yields Evaluation.vars before vars after ↔ vars = before.vars ∧ after = before :=
  yields_pure

/-- What depends on the variables goes on with them as they are. -/
theorem yields_vars_bind {α : Type} {f : Bindings → Evaluation α} {a : α} :
    Yields (Evaluation.vars >>= f) before a after ↔ Yields (f before.vars) before a after :=
  Iff.rfl

/-- The last wildcard is read, which is noted. -/
@[simp] theorem yields_readWildcard :
    Yields readWildcard before text after ↔
      text = before.lastWildcard ∧ after = before.afterWildcard :=
  yields_pure

/-- The next capture is taken. -/
@[simp] theorem yields_takeCapture {depth : Nat} :
    Yields (takeCapture depth) before text after ↔
      text = before.nextCapture ∧ after = before.afterCapture depth :=
  yields_pure

/-- A variable is bound. -/
@[simp] theorem yields_write {name value : String} :
    Yields (write name value) before text after ↔ text = value ∧ after = before.write name value :=
  yields_pure

/-- An action on the request leaves the captures alone. -/
@[simp] theorem yields_onRequest {α : Type} {action : Action α} {a : α} :
    Yields (onRequest action) before a after ↔
      ∃ request, Yields action before.request a request ∧ after = before.withRequest request := by
  rw [Yields, run_onRequest, Choice.mem_outcomes_bind]
  constructor
  · rintro ⟨⟨b, request⟩, hrun, hpure⟩
    rcases Prod.mk.inj (Choice.mem_outcomes_pure.1 hpure) with ⟨rfl, rfl⟩
    exact ⟨request, hrun, rfl⟩
  · rintro ⟨request, hrun, rfl⟩
    exact ⟨(a, request), hrun, Choice.mem_outcomes_pure.2 rfl⟩

end Evaluation

/-- A nested question is answered by the scan for it. -/
@[simp] theorem yields_redirect {scan : String → Action (Option Hit)} {question text : String}
    {before after : Request} :
    Yields (redirect scan question) before text after ↔
      ∃ hit, Yields (scan question) before.countRedirect hit after ∧ text = nestedAnswer hit := by
  rw [Yields, redirect_run, Choice.mem_outcomes_bind]
  constructor
  · rintro ⟨⟨hit, request⟩, hrun, hpure⟩
    rcases Prod.mk.inj (Choice.mem_outcomes_pure.1 hpure) with ⟨rfl, rfl⟩
    exact ⟨hit, hrun, rfl⟩
  · rintro ⟨hit, hrun, rfl⟩
    exact ⟨(hit, after), hrun, Choice.mem_outcomes_pure.2 rfl⟩

/-! ## The rules give outcomes -/

namespace Course

variable {kb : KnowledgeBase} {profile : Bindings} {limit : Nat}

/-- Whether what a part of the work comes to is an outcome of it. -/
def IsOutcome (kb : KnowledgeBase) (profile : Bindings) (limit : Nat) : Course → Prop
  | scan depth question before hit after =>
    Yields (Call.solve kb profile limit (.scan depth question)) before hit after
  | answer depth fragments before text after =>
    Yields (Call.solve kb profile limit (.answer depth fragments)) before text after
  | join depth fragments before text after =>
    Yields (Call.solve kb profile limit (.join depth fragments)) before text after
  | evaluate depth fragment before text after =>
    Yields (Call.solve kb profile limit (.evaluate depth fragment)) before text after

/-- A scan that is cut short finds nothing. -/
theorem isOutcome_scan_of_limitHit {depth : Nat} {question : String} {request : Request}
    (hlimit : request.metrics.limitHit = true) {hit : Option Hit} {after : Request} :
    (scan depth question request hit after).IsOutcome kb profile limit ↔
      hit = none ∧ after = request := by
  rw [IsOutcome, Yields, Call.solve, scan_of_limitHit hlimit, Choice.mem_outcomes_pure,
    Prod.mk.injEq]

/-- A scan below the limit finds nothing, which is noted. -/
theorem isOutcome_scan_of_lt {depth : Nat} {question : String} {request : Request}
    (hlimit : request.metrics.limitHit = false) (hdepth : limit < depth) {hit : Option Hit}
    {after : Request} :
    (scan depth question request hit after).IsOutcome kb profile limit ↔
      hit = none ∧ after = request.exceedLimit := by
  have hlevels : limit + 1 - depth = 0 := Nat.sub_eq_zero_of_le hdepth
  rw [IsOutcome, Yields, Call.solve, hlevels, scan_zero _ _ _ _ _ hlimit, Choice.outcomes,
    List.mem_singleton, Prod.mk.injEq]

/-- A scan for which no category wins finds nothing. -/
theorem isOutcome_scan_of_no_winner {depth : Nat} {question : String} {request : Request}
    (hlimit : request.metrics.limitHit = false) (hdepth : depth ≤ limit)
    (hwinner : (survey profile request.conversation question 0 kb.categories).winner = none)
    {hit : Option Hit} {after : Request} :
    (scan depth question request hit after).IsOutcome kb profile limit ↔
      hit = none ∧ after = request.tryCategories kb profile depth question := by
  have hlevels : limit + 1 - depth = limit - depth + 1 := Nat.succ_sub hdepth
  rw [IsOutcome, Yields, Call.solve, hlevels, scan_of_no_winner hlimit hwinner,
    Choice.mem_outcomes_pure, Prod.mk.injEq]

/-- A scan for which a category wins comes to what its template answers. -/
theorem isOutcome_scan_of_winner {depth : Nat} {question : String} {request : Request}
    {winner : Winner} (hlimit : request.metrics.limitHit = false) (hdepth : depth ≤ limit)
    (hwinner : (survey profile request.conversation question 0 kb.categories).winner = some winner)
    {hit : Option Hit} {after : Request} :
    (scan depth question request hit after).IsOutcome kb profile limit ↔
      ∃ text frame, (answer depth winner.category.template ⟨winner.captures,
          (request.tryCategories kb profile depth question).begin depth winner⟩ text
          frame).IsOutcome kb profile limit ∧
        hit = some ⟨winner.index, winner.captures, text⟩ ∧
        after = frame.request.record (.finished depth) := by
  have hlevels : limit + 1 - depth = limit - depth + 1 := Nat.succ_sub hdepth
  have hrun :=
    @scan_of_winner kb profile (limit - depth) depth question request winner hlimit hwinner
  simp only [evaluateWinner_run, bind_assoc, pure_bind] at hrun
  rw [IsOutcome, Yields, Call.solve, hlevels, hrun, Choice.mem_outcomes_bind]
  constructor
  · rintro ⟨⟨text, frame⟩, hanswer, hpure⟩
    rcases Prod.mk.inj (Choice.mem_outcomes_pure.1 hpure) with ⟨rfl, rfl⟩
    exact ⟨text, frame, hanswer, rfl, rfl⟩
  · rintro ⟨text, frame, hanswer, rfl, rfl⟩
    exact ⟨(text, frame), hanswer, Choice.mem_outcomes_pure.2 rfl⟩

/-- A single template inside a template answers for it. -/
theorem isOutcome_answer_group {depth : Nat} {content : List Fragment} {before after : Frame}
    {text : Option String} :
    (answer depth [.group content] before text after).IsOutcome kb profile limit ↔
      (answer depth content before text after).IsOutcome kb profile limit := by
  rw [IsOutcome, Call.solves_solve]
  exact Iff.rfl

/-- Other fragments answer with their joined texts, unless they are all blank. -/
theorem isOutcome_answer {depth : Nat} {fragments : List Fragment} {before after : Frame}
    {text : Option String} (hgroup : ∀ content, fragments ≠ [.group content]) :
    (answer depth fragments before text after).IsOutcome kb profile limit ↔
      if fragments.all Fragment.isBlank = true then text = none ∧ after = before
      else ∃ joined, (join depth fragments before joined after).IsOutcome kb profile limit ∧
        text = answerOf (Text.clean joined) := by
  rw [IsOutcome, Call.solves_solve, Call.perform, Call.performAnswer]
  · split
    · exact yields_pure
    · exact yields_map
  · exact hgroup

/-- Fragments are joined one after the other. -/
theorem isOutcome_join_cons {depth : Nat} {fragment : Fragment} {fragments : List Fragment}
    {before after : Frame} {joined : String} :
    (join depth (fragment :: fragments) before joined after).IsOutcome kb profile limit ↔
      ∃ text mid, (evaluate depth fragment before text mid).IsOutcome kb profile limit ∧
        ∃ rest, (join depth fragments mid rest after).IsOutcome kb profile limit ∧
          joined = text ++ rest := by
  simp only [IsOutcome, Call.solve, concatenate, yields_bind, yields_pure]
  constructor
  · rintro ⟨text, mid, hfirst, rest, last, hrest, rfl, rfl⟩
    exact ⟨text, mid, hfirst, rest, hrest, rfl⟩
  · rintro ⟨text, mid, hfirst, rest, hrest, rfl⟩
    exact ⟨text, mid, hfirst, rest, after, hrest, rfl, rfl⟩

/-- A random fragment comes to what any of its alternatives answers. -/
theorem isOutcome_random {depth : Nat} {alternatives : List Fragment} {before after : Frame}
    {text : String} :
    (evaluate depth (.random alternatives) before text after).IsOutcome kb profile limit ↔
      alternatives = [] ∧ text = "" ∧ after = before ∨
        ∃ alternative ∈ alternatives, ∃ given,
          (answer depth alternative.asAlternative before given after).IsOutcome kb profile limit ∧
            text = given.getD "" := by
  rw [IsOutcome, Call.solve_evaluate, Call.performFragment]
  cases hlength : alternatives.length with
  | zero =>
    rw [List.length_eq_zero_iff] at hlength
    subst hlength
    simp
  | succ n =>
    have hne : alternatives ≠ [] := List.ne_nil_of_length_eq_add_one hlength
    simp only [yields_bind, Evaluation.yields_among, hne, false_and, false_or]
    constructor
    · rintro ⟨i, mid, rfl, hanswer⟩
      have hlt : i.val < alternatives.length := by
        rw [hlength]
        exact i.isLt
      rw [List.getElem?_eq_getElem hlt] at hanswer
      rcases yields_bind.1 hanswer with ⟨given, last, hgiven, hpure⟩
      rcases yields_pure.1 hpure with ⟨rfl, rfl⟩
      exact ⟨alternatives[i.val], List.getElem_mem hlt, given, hgiven, rfl⟩
    · rintro ⟨alternative, hmem, given, hgiven, rfl⟩
      rcases List.getElem?_of_mem hmem with ⟨i, hi⟩
      have hlt : i < n + 1 := hlength ▸ (List.getElem?_eq_some_iff.1 hi).1
      refine ⟨⟨i, hlt⟩, before, rfl, ?_⟩
      rw [hi]
      exact yields_bind.2 ⟨given, after, hgiven, yields_pure.2 ⟨rfl, rfl⟩⟩

/-- The first branch that is taken answers. -/
theorem isOutcome_firstOf {depth : Nat} {branches : List Branch} {before after : Frame}
    {text : String} :
    (evaluate depth (.firstOf branches) before text after).IsOutcome kb profile limit ↔
      ∃ given, (answer depth (Branch.taken (Branch.holds before.vars) branches) before given
        after).IsOutcome kb profile limit ∧ text = given.getD "" := by
  simp only [IsOutcome, Call.solve_evaluate, Call.performFragment, Evaluation.yields_vars_bind,
    Branch.taken]
  cases branches.find? (Branch.holds before.vars) with
  | none =>
    simp [Call.solve, respond, and_comm]
  | some branch => simp

/-- The first branch that is taken is joined. -/
theorem isOutcome_select {depth : Nat} {name : String} {branches : List Branch}
    {before after : Frame} {text : String} :
    (evaluate depth (.select name branches) before text after).IsOutcome kb profile limit ↔
      ∃ joined, (join depth (Branch.taken (Branch.holdsOf before.vars name) branches) before joined
        after).IsOutcome kb profile limit ∧ text = Text.clean joined := by
  simp only [IsOutcome, Call.solve_evaluate, Call.performFragment, Evaluation.yields_vars_bind,
    Branch.taken]
  cases branches.find? (Branch.holdsOf before.vars name) with
  | none =>
    simp [Call.solve, concatenate, and_comm]
  | some branch => exact yields_map

/-- A value that begins with a wildcard takes the next capture. -/
theorem isOutcome_set_of_takesCapture {depth : Nat} {name : String} {first : Fragment}
    {rest : List Fragment} (hcapture : first.takesCapture = true) {before after : Frame}
    {text : String} :
    (evaluate depth (.set name (first :: rest)) before text after).IsOutcome kb profile limit ↔
      text = before.nextCapture ∧
        after = (before.afterCapture depth).write name before.nextCapture := by
  simp only [IsOutcome, Call.solve_evaluate, Call.performFragment, List.head?_cons, hcapture,
    if_true, yields_bind, Evaluation.yields_takeCapture, Evaluation.yields_write]
  constructor
  · rintro ⟨_, _, ⟨rfl, rfl⟩, rfl, rfl⟩
    exact ⟨rfl, rfl⟩
  · rintro ⟨rfl, rfl⟩
    exact ⟨_, _, ⟨rfl, rfl⟩, rfl, rfl⟩

/-- Another value is joined. -/
theorem isOutcome_set {depth : Nat} {name : String} {first : Fragment} {rest : List Fragment}
    (hcapture : first.takesCapture = false) {before after : Frame} {text : String} :
    (evaluate depth (.set name (first :: rest)) before text after).IsOutcome kb profile limit ↔
      ∃ joined mid, (join depth (first :: rest) before joined mid).IsOutcome kb profile limit ∧
        text = Text.clean joined ∧ after = mid.write name (Text.clean joined) := by
  simp only [IsOutcome, Call.solve_evaluate, Call.performFragment, List.head?_cons, hcapture,
    Bool.false_eq_true, if_false, yields_bind, yields_map, Evaluation.yields_write]
  constructor
  · rintro ⟨_, mid, ⟨joined, hjoined, rfl⟩, rfl, rfl⟩
    exact ⟨joined, mid, hjoined, rfl, rfl⟩
  · rintro ⟨joined, mid, hjoined, rfl, rfl⟩
    exact ⟨_, mid, ⟨joined, hjoined, rfl⟩, rfl, rfl⟩

/-- The last wildcard is asked for, unless it is empty. -/
theorem isOutcome_starAnswer {depth : Nat} {before after : Frame} {text : String} :
    (evaluate depth .starAnswer before text after).IsOutcome kb profile limit ↔
      if before.lastWildcard = "" then text = "" ∧ after = before.afterWildcard
      else ∃ hit request, (scan (depth + 1) before.lastWildcard
          before.afterWildcard.request.countRedirect hit request).IsOutcome kb profile limit ∧
        text = nestedAnswer hit ∧ after = before.withRequest request := by
  simp only [IsOutcome, Call.solve_evaluate, Call.performFragment, yields_bind,
    Evaluation.yields_readWildcard]
  constructor
  · rintro ⟨_, _, ⟨rfl, rfl⟩, h⟩
    by_cases hempty : before.lastWildcard = ""
    · rw [if_pos hempty] at h ⊢
      exact yields_pure.1 h
    · rw [if_neg hempty] at h ⊢
      rcases Evaluation.yields_onRequest.1 h with ⟨request, hredirect, rfl⟩
      rcases yields_redirect.1 hredirect with ⟨hit, hhit, rfl⟩
      exact ⟨hit, request, hhit, rfl, rfl⟩
  · intro h
    refine ⟨_, _, ⟨rfl, rfl⟩, ?_⟩
    by_cases hempty : before.lastWildcard = ""
    · rw [if_pos hempty] at h ⊢
      exact yields_pure.2 h
    · rw [if_neg hempty] at h ⊢
      rcases h with ⟨hit, request, hhit, rfl, rfl⟩
      exact Evaluation.yields_onRequest.2 ⟨request, yields_redirect.2 ⟨hit, hhit, rfl⟩, rfl⟩

/-- A question is joined and then asked for. -/
theorem isOutcome_redirect {depth : Nat} {question : List Fragment} {before after : Frame}
    {text : String} :
    (evaluate depth (.redirect question) before text after).IsOutcome kb profile limit ↔
      ∃ joined mid, (join depth question before joined mid).IsOutcome kb profile limit ∧
        ∃ hit request, (scan (depth + 1) (Text.clean joined) mid.request.countRedirect hit
            request).IsOutcome kb profile limit ∧
          text = nestedAnswer hit ∧ after = mid.withRequest request := by
  simp only [IsOutcome, Call.solve_evaluate, Call.performFragment, yields_bind, yields_map,
    Evaluation.yields_onRequest, yields_redirect]
  constructor
  · rintro ⟨_, mid, ⟨joined, hjoined, rfl⟩, request, ⟨hit, hhit, rfl⟩, rfl⟩
    exact ⟨joined, mid, hjoined, hit, request, hhit, rfl, rfl⟩
  · rintro ⟨joined, mid, hjoined, hit, request, hhit, rfl, rfl⟩
    exact ⟨_, mid, ⟨joined, hjoined, rfl⟩, request, ⟨hit, hhit, rfl⟩, rfl⟩

/-- A content with a condition is joined if the variable has the value. -/
theorem isOutcome_onlyIf {depth : Nat} {name value : String} {content : List Fragment}
    {before after : Frame} {text : String} :
    (evaluate depth (.onlyIf name value content) before text after).IsOutcome kb profile limit ↔
      if before.vars.get? name = some value then
        ∃ joined, (join depth content before joined after).IsOutcome kb profile limit ∧
          text = Text.clean joined
      else text = "" ∧ after = before := by
  simp only [IsOutcome, Call.solve_evaluate, Call.performFragment, Evaluation.yields_vars_bind]
  split
  · exact yields_map
  · exact yields_pure

/-- What is only thought is joined, and nothing is said. -/
theorem isOutcome_think {depth : Nat} {content : List Fragment} {before after : Frame}
    {text : String} :
    (evaluate depth (.think content) before text after).IsOutcome kb profile limit ↔
      ∃ joined, (join depth content before joined after).IsOutcome kb profile limit ∧
        text = "" := by
  simp only [IsOutcome, Call.solve_evaluate, Call.performFragment, yields_bind, yields_pure]
  constructor
  · rintro ⟨joined, mid, hjoined, rfl, rfl⟩
    exact ⟨joined, hjoined, rfl⟩
  · rintro ⟨joined, hjoined, rfl⟩
    exact ⟨joined, after, hjoined, rfl, rfl⟩

/-- What is given by the rules is an outcome. -/
theorem Possible.isOutcome {course : Course} (h : Possible kb profile limit course) :
    course.IsOutcome kb profile limit := by
  induction h with
  | scanCut hlimit => exact (isOutcome_scan_of_limitHit hlimit).2 ⟨rfl, rfl⟩
  | scanTooDeep hlimit hdepth => exact (isOutcome_scan_of_lt hlimit hdepth).2 ⟨rfl, rfl⟩
  | scanMiss hlimit hdepth hwinner =>
    exact (isOutcome_scan_of_no_winner hlimit hdepth hwinner).2 ⟨rfl, rfl⟩
  | scanHit hlimit hdepth hwinner _ ih =>
    exact (isOutcome_scan_of_winner hlimit hdepth hwinner).2 ⟨_, _, ih, rfl, rfl⟩
  | answerGroup _ ih => exact isOutcome_answer_group.2 ih
  | @answerBlank depth fragments frame hblank =>
    have hgroup : ∀ content, fragments ≠ [.group content] := by
      rintro content rfl
      cases hblank
    rw [isOutcome_answer hgroup, if_pos hblank]
    exact ⟨rfl, rfl⟩
  | answerText hgroup hblank _ ih =>
    rw [isOutcome_answer hgroup, hblank, if_neg Bool.false_ne_true]
    exact ⟨_, ih, rfl⟩
  | joinNil => exact yields_pure.2 ⟨rfl, rfl⟩
  | joinCons _ _ ihfirst ihrest => exact isOutcome_join_cons.2 ⟨_, _, ihfirst, _, ihrest, rfl⟩
  | text | bot | get | setNothing | star | lineBreak =>
    simp [IsOutcome, Call.solve_evaluate, Call.performFragment]
  | setCapture hcapture => exact (isOutcome_set_of_takesCapture hcapture).2 ⟨rfl, rfl⟩
  | setText hcapture _ ih => exact (isOutcome_set hcapture).2 ⟨_, _, ih, rfl, rfl⟩
  | starEmpty hempty =>
    rw [isOutcome_starAnswer, if_pos hempty]
    exact ⟨rfl, rfl⟩
  | starAnswer hnonempty _ ih =>
    rw [isOutcome_starAnswer, if_neg hnonempty]
    exact ⟨_, _, ih, rfl, rfl⟩
  | redirect _ _ ihjoin ihscan =>
    exact isOutcome_redirect.2 ⟨_, _, ihjoin, _, _, ihscan, rfl, rfl⟩
  | randomNone => exact isOutcome_random.2 (.inl ⟨rfl, rfl, rfl⟩)
  | random hmem _ ih => exact isOutcome_random.2 (.inr ⟨_, hmem, _, ih, rfl⟩)
  | firstOf _ ih => exact isOutcome_firstOf.2 ⟨_, ih, rfl⟩
  | select _ ih => exact isOutcome_select.2 ⟨_, ih, rfl⟩
  | onlyIf hvalue _ ih =>
    rw [isOutcome_onlyIf, if_pos hvalue]
    exact ⟨_, ih, rfl⟩
  | onlyIfNot hvalue =>
    rw [isOutcome_onlyIf, if_neg hvalue]
    exact ⟨rfl, rfl⟩
  | think _ ih => exact isOutcome_think.2 ⟨_, ih, rfl⟩
  | recase _ ih | item _ ih | group _ ih | markup _ ih =>
    simp only [IsOutcome, Call.solve_evaluate, Call.performFragment, yields_map]
    exact ⟨_, ih, rfl⟩

/-! ## All outcomes are given -/

/-- The call that a part of the work is for. -/
def call : Course → Call
  | scan depth question _ _ _ => .scan depth question
  | answer depth fragments _ _ _ => .answer depth fragments
  | join depth fragments _ _ _ => .join depth fragments
  | evaluate depth fragment _ _ _ => .evaluate depth fragment

/-- Whether the rules give all outcomes of a call. -/
def Complete (kb : KnowledgeBase) (profile : Bindings) (limit : Nat) (c : Call) : Prop :=
  ∀ course : Course, course.call = c → course.IsOutcome kb profile limit →
    Possible kb profile limit course

/-- The rules give all outcomes of a scan if they do so for the templates that are answered. -/
theorem possible_scan {depth : Nat} {question : String}
    (hanswer : ∀ winner : Winner, depth ≤ limit →
      Complete kb profile limit (.answer depth winner.category.template))
    {before after : Request} {hit : Option Hit}
    (h : (scan depth question before hit after).IsOutcome kb profile limit) :
    Possible kb profile limit (scan depth question before hit after) := by
  cases hlimit : before.metrics.limitHit with
  | true =>
    rcases (isOutcome_scan_of_limitHit hlimit).1 h with ⟨rfl, rfl⟩
    exact .scanCut hlimit
  | false =>
    rcases Nat.lt_or_ge limit depth with hdepth | hdepth
    · rcases (isOutcome_scan_of_lt hlimit hdepth).1 h with ⟨rfl, rfl⟩
      exact .scanTooDeep hlimit hdepth
    · cases hwinner : (survey profile before.conversation question 0 kb.categories).winner with
      | none =>
        rcases (isOutcome_scan_of_no_winner hlimit hdepth hwinner).1 h with ⟨rfl, rfl⟩
        exact .scanMiss hlimit hdepth hwinner
      | some winner =>
        rcases (isOutcome_scan_of_winner hlimit hdepth hwinner).1 h with
          ⟨text, frame, htext, rfl, rfl⟩
        exact .scanHit hlimit hdepth hwinner (hanswer _ hdepth _ rfl htext)

/-- The rules give all answers of fragments if they do so for what is inside. -/
theorem possible_answer {depth : Nat} {fragments : List Fragment}
    (hgroup : ∀ content, fragments = [.group content] →
      Complete kb profile limit (.answer depth content))
    (hjoin : Complete kb profile limit (.join depth fragments))
    {before after : Frame} {text : Option String}
    (h : (answer depth fragments before text after).IsOutcome kb profile limit) :
    Possible kb profile limit (answer depth fragments before text after) := by
  by_cases hsingle : ∃ content, fragments = [.group content]
  · rcases hsingle with ⟨content, rfl⟩
    exact .answerGroup (hgroup content rfl _ rfl (isOutcome_answer_group.1 h))
  · have hother : ∀ content, fragments ≠ [.group content] := fun content heq =>
      hsingle ⟨content, heq⟩
    rw [isOutcome_answer hother] at h
    cases hblank : fragments.all Fragment.isBlank with
    | true =>
      rw [if_pos hblank] at h
      rcases h with ⟨rfl, rfl⟩
      exact .answerBlank hblank
    | false =>
      rw [hblank, if_neg Bool.false_ne_true] at h
      rcases h with ⟨joined, hjoined, rfl⟩
      exact .answerText hother hblank (hjoin _ rfl hjoined)

/-- The rules give all joined texts if they do so for each fragment. -/
theorem possible_join {depth : Nat} {fragments : List Fragment}
    (hevaluate : ∀ fragment ∈ fragments, Complete kb profile limit (.evaluate depth fragment))
    {before after : Frame} {text : String}
    (h : (join depth fragments before text after).IsOutcome kb profile limit) :
    Possible kb profile limit (join depth fragments before text after) := by
  induction fragments generalizing before text with
  | nil =>
    rcases yields_pure.1 h with ⟨rfl, rfl⟩
    exact .joinNil
  | cons fragment fragments ih =>
    rw [List.forall_mem_cons] at hevaluate
    rcases isOutcome_join_cons.1 h with ⟨first, mid, hfirst, rest, hrest, rfl⟩
    exact .joinCons (hevaluate.1 _ rfl hfirst) (ih hevaluate.2 hrest)

/-- The rules give all texts of a fragment if they do so for what is inside of it and for nested
questions. -/
theorem possible_evaluate {depth : Nat} {fragment : Fragment}
    (hjoin : ∀ content ∈ fragment.joined, Complete kb profile limit (.join depth content))
    (hanswer : ∀ content ∈ fragment.answered, Complete kb profile limit (.answer depth content))
    (hscan : fragment.redirects = true →
      ∀ question, Complete kb profile limit (.scan (depth + 1) question))
    {before after : Frame} {text : String}
    (h : (evaluate depth fragment before text after).IsOutcome kb profile limit) :
    Possible kb profile limit (evaluate depth fragment before text after) := by
  cases fragment with
  | random alternatives =>
    rcases isOutcome_random.1 h with ⟨rfl, rfl, rfl⟩ | ⟨alternative, hmem, given, hgiven, rfl⟩
    · exact .randomNone
    · exact .random hmem (hanswer _ (List.mem_map_of_mem hmem) _ rfl hgiven)
  | firstOf branches =>
    rcases isOutcome_firstOf.1 h with ⟨given, hgiven, rfl⟩
    refine .firstOf ?_
    rcases Branch.taken_eq_nil_or_mem (Branch.holds before.vars) branches with hnil | hmem
    · rw [hnil] at hgiven ⊢
      rcases (isOutcome_answer (fun _ => (List.cons_ne_nil _ _).symm)).1 hgiven with ⟨rfl, rfl⟩
      exact .answerBlank rfl
    · exact hanswer _ hmem _ rfl hgiven
  | select name branches =>
    rcases isOutcome_select.1 h with ⟨joined, hjoined, rfl⟩
    refine .select ?_
    rcases Branch.taken_eq_nil_or_mem (Branch.holdsOf before.vars name) branches with hnil | hmem
    · rw [hnil] at hjoined ⊢
      rcases yields_pure.1 hjoined with ⟨rfl, rfl⟩
      exact .joinNil
    · exact hjoin _ hmem _ rfl hjoined
  | onlyIf name value content =>
    rw [isOutcome_onlyIf] at h
    by_cases hvalue : before.vars.get? name = some value
    · rw [if_pos hvalue] at h
      rcases h with ⟨joined, hjoined, rfl⟩
      exact .onlyIf hvalue (hjoin _ (List.mem_singleton.2 rfl) _ rfl hjoined)
    · rw [if_neg hvalue] at h
      rcases h with ⟨rfl, rfl⟩
      exact .onlyIfNot hvalue
  | text | bot | lineBreak =>
    rw [IsOutcome, Call.solve_evaluate] at h
    rcases yields_pure.1 h with ⟨rfl, rfl⟩
    constructor
  | get name =>
    simp only [IsOutcome, Call.solve_evaluate, Call.performFragment,
      Evaluation.yields_vars_bind] at h
    rcases yields_pure.1 h with ⟨rfl, rfl⟩
    exact .get
  | star =>
    rw [IsOutcome, Call.solve_evaluate] at h
    rcases Evaluation.yields_readWildcard.1 h with ⟨rfl, rfl⟩
    exact .star
  | set name value =>
    cases value with
    | nil =>
      rw [IsOutcome, Call.solve_evaluate] at h
      rcases yields_pure.1 h with ⟨rfl, rfl⟩
      exact .setNothing
    | cons first rest =>
      cases hcapture : first.takesCapture with
      | true =>
        rcases (isOutcome_set_of_takesCapture hcapture).1 h with ⟨rfl, rfl⟩
        exact .setCapture hcapture
      | false =>
        rcases (isOutcome_set hcapture).1 h with ⟨joined, mid, hjoined, rfl, rfl⟩
        exact .setText hcapture (hjoin _ (List.mem_singleton.2 rfl) _ rfl hjoined)
  | starAnswer =>
    rw [isOutcome_starAnswer] at h
    by_cases hempty : before.lastWildcard = ""
    · rw [if_pos hempty] at h
      rcases h with ⟨rfl, rfl⟩
      exact .starEmpty hempty
    · rw [if_neg hempty] at h
      rcases h with ⟨hit, request, hhit, rfl, rfl⟩
      exact .starAnswer hempty (hscan rfl _ _ rfl hhit)
  | redirect question =>
    rcases isOutcome_redirect.1 h with ⟨joined, mid, hjoined, hit, request, hhit, rfl, rfl⟩
    exact .redirect (hjoin _ (List.mem_singleton.2 rfl) _ rfl hjoined) (hscan rfl _ _ rfl hhit)
  | think content =>
    rcases isOutcome_think.1 h with ⟨joined, hjoined, rfl⟩
    exact .think (hjoin _ (List.mem_singleton.2 rfl) _ rfl hjoined)
  | recase | item | group | markup =>
    simp only [IsOutcome, Call.solve_evaluate, Call.performFragment, yields_map] at h
    rcases h with ⟨joined, hjoined, rfl⟩
    constructor
    exact hjoin _ (List.mem_singleton.2 rfl) _ rfl hjoined

/-- Every outcome is given by the rules. -/
theorem complete (c : Call) : Complete kb profile limit c := by
  induction c using (Call.wellFounded_makes limit).transGen.induction with
  | _ c ih =>
    intro course hcourse h
    subst hcourse
    cases course with
    | scan =>
      refine possible_scan (fun winner hle => ?_) h
      exact ih _ (.tail (.single .template) (.category hle))
    | answer =>
      refine possible_answer ?_ (ih _ (.single .join)) h
      rintro content rfl
      exact ih _ (.single .group)
    | join => exact possible_join (fun _ hmem => ih _ (.single (.evaluate hmem))) h
    | evaluate =>
      exact possible_evaluate (fun _ hmem => ih _ (.single (.joined hmem)))
        (fun _ hmem => ih _ (.single (.answered hmem)))
        (fun hredirects _ => ih _ (.single (.scan hredirects))) h

/-- The rules give exactly the outcomes. -/
theorem possible_iff_isOutcome {course : Course} :
    Possible kb profile limit course ↔ course.IsOutcome kb profile limit := by
  constructor
  · intro h
    exact h.isOutcome
  · intro h
    exact complete course.call course rfl h

end Course

/-! ## Requests -/

/-- The outcomes of a request are what the rules give for the scan at depth zero. -/
theorem mem_outcomes_resolve_iff {kb : KnowledgeBase} {profile : Bindings} {limit : Nat}
    {conversation : Conversation} {question : String} {resolved : Resolved} :
    resolved ∈ (resolve kb profile limit conversation question).outcomes ↔
      ∃ hit request, Course.Possible kb profile limit
          (.scan 0 question { conversation := conversation.forgetCaptures } hit request) ∧
        resolved = request.conclude hit := by
  rw [resolve_eq, Choice.mem_outcomes_bind]
  constructor
  · rintro ⟨⟨hit, request⟩, hscan, hpure⟩
    exact ⟨hit, request, Course.possible_iff_isOutcome.2 hscan, Choice.mem_outcomes_pure.1 hpure⟩
  · rintro ⟨hit, request, hpossible, rfl⟩
    exact ⟨(hit, request), Course.possible_iff_isOutcome.1 hpossible,
      Choice.mem_outcomes_pure.2 rfl⟩

end Dialogue
