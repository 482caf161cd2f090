import Dialogue.Proofs.Resolution.Course

/-!
# The moments of a request

A moment of a request is one at which a part of the work begins: a call together with the state
that it begins in.  One moment leads to another if the work that begins there calls for it, or
goes on with it in a state that an earlier part can leave.  A chain of moments ends, and it goes
along steps of the request.  Nothing else counts: what is done at other moments does not matter
to a moment.

Main results:

- Theorem `Moment.LeadsTo.reaches`: one moment leads to another by steps of the request.
- Theorem `Moment.wellFounded_leadsTo`: every chain of moments ends.
- Theorem `Moment.sameAt_solve`: what a moment comes to is settled by the moments that it leads to.
-/

namespace Dialogue

/-! ## Moments of a request -/

/-- A moment at which a part of the work on a question begins. -/
inductive Moment where
  /-- A question is about to be scanned for at a depth. -/
  | scan (depth : Nat) (question : String) (request : Request)
  /-- Fragments are about to answer. -/
  | answer (depth : Nat) (fragments : List Fragment) (frame : Frame)
  /-- The texts of fragments are about to be joined. -/
  | join (depth : Nat) (fragments : List Fragment) (frame : Frame)
  /-- A fragment is about to be evaluated. -/
  | evaluate (depth : Nat) (fragment : Fragment) (frame : Frame)

namespace Moment

/-- The call that is begun at a moment. -/
def call : Moment → Call
  | scan depth question _ => .scan depth question
  | answer depth fragments _ => .answer depth fragments
  | join depth fragments _ => .join depth fragments
  | evaluate depth fragment _ => .evaluate depth fragment

/-- The request at a moment. -/
def request : Moment → Request
  | scan _ _ request => request
  | answer _ _ frame => frame.request
  | join _ _ frame => frame.request
  | evaluate _ _ frame => frame.request

variable (kb : KnowledgeBase) (profile : Bindings) (limit : Nat)

/-- One moment may lead to another, by what is begun first or what is gone on with.  Which branch
of a condition is taken and which alternative is drawn is left open: all of them count. -/
inductive LeadsTo : Moment → Moment → Prop
  /-- The template of the category that wins answers. -/
  | category {depth question request winner}
    (hlimit : request.metrics.limitHit = false) (hdepth : depth ≤ limit)
    (hwinner : (survey profile request.conversation question 0 kb.categories).winner =
      some winner) :
    LeadsTo (.scan depth question request) (.answer depth winner.category.template
      ⟨winner.captures, (request.tryCategories kb profile depth question).begin depth winner⟩)
  /-- A single template inside a template is looked into. -/
  | group {depth content frame} :
    LeadsTo (.answer depth [.group content] frame) (.answer depth content frame)
  /-- Fragments answer by their joined texts. -/
  | join {depth fragments frame} :
    LeadsTo (.answer depth fragments frame) (.join depth fragments frame)
  /-- The first fragment is evaluated, -/
  | first {depth fragment fragments frame} :
    LeadsTo (.join depth (fragment :: fragments) frame) (.evaluate depth fragment frame)
  /-- and the others are joined in the frame that it leaves. -/
  | rest {depth fragment fragments before text mid}
    (hfirst : Course.Possible kb profile limit (.evaluate depth fragment before text mid)) :
    LeadsTo (.join depth (fragment :: fragments) before) (.join depth fragments mid)
  /-- The content of a fragment is joined, -/
  | joined {depth fragment content frame} (hmem : content ∈ fragment.joined) :
    LeadsTo (.evaluate depth fragment frame) (.join depth content frame)
  /-- or it answers. -/
  | answered {depth fragment content frame} (hmem : content ∈ fragment.answered) :
    LeadsTo (.evaluate depth fragment frame) (.answer depth content frame)
  /-- The shorthand asks for the last wildcard, -/
  | starAnswer {depth frame} :
    LeadsTo (.evaluate depth .starAnswer frame)
      (.scan (depth + 1) frame.lastWildcard frame.afterWildcard.request.countRedirect)
  /-- and a redirection for its cleaned text. -/
  | redirect {depth question before text mid}
    (hjoin : Course.Possible kb profile limit (.join depth question before text mid)) :
    LeadsTo (.evaluate depth (.redirect question) before)
      (.scan (depth + 1) (Text.clean text) mid.request.countRedirect)

variable {kb profile limit}

section Steps

variable (depth : Nat)

/-- What evaluations at a depth do is compared with itself, step by step. -/
theorem comparison_steps_settingAt :
    Comparison (Call.settingAt kb profile limit depth) (Call.settingAt kb profile limit depth)
      fun _ x _ => Evaluation.Steps kb profile (depth + 1) x :=
  comparison_steps depth (steps_redirect (steps_scan (limit - depth) (depth + 1)))

/-- The evaluation of a fragment only takes steps of the request. -/
theorem steps_evaluate (fragment : Fragment) :
    Evaluation.Steps kb profile (depth + 1)
      (evaluateFragment (Call.settingAt kb profile limit depth) fragment) :=
  (comparison_steps_settingAt depth).guarded.evaluateFragment fragment fragment.every_true

/-- Joining the texts of fragments only takes steps of the request. -/
theorem steps_join (fragments : List Fragment) :
    Evaluation.Steps kb profile (depth + 1)
      (concatenate (Call.settingAt kb profile limit depth) fragments) :=
  (comparison_steps_settingAt depth).guarded.concatenate fragments
    (Fragment.everyOf_true fragments)

end Steps

/-- One moment leads to another by steps of the request. -/
theorem LeadsTo.reaches {m m' : Moment} (h : LeadsTo kb profile limit m m') :
    Request.Reaches kb profile m.request m'.request := by
  cases h with
  | group | join | first | joined | answered => exact .refl
  | @category depth question request winner hlimit hdepth hwinner =>
    have htry : Request.Step kb profile request
        (request.tryCategories kb profile depth question) := .tryCategories _ _ _ hlimit
    exact .head htry (.single (.begin _ depth question winner hlimit hwinner))
  | @rest depth fragment fragments before text mid hfirst =>
    exact (steps_evaluate depth fragment before _
      (Course.possible_iff_isOutcome.1 hfirst)).reaches
  | @starAnswer depth frame =>
    exact .head (.readWildcard frame.request) (.single (.countRedirect _))
  | @redirect depth question before text mid hjoin =>
    have hjoined := (steps_join depth question before _
      (Course.possible_iff_isOutcome.1 hjoin)).reaches
    exact hjoined.tail (.countRedirect _)

/-- So it is along a chain of moments. -/
theorem reaches_of_leadsTo {m m' : Moment}
    (h : Relation.ReflTransGen (LeadsTo kb profile limit) m m') :
    Request.Reaches kb profile m.request m'.request := by
  induction h with
  | refl => exact .refl
  | tail _ hlast ih => exact ih.trans hlast.reaches

/-- A moment has fewer levels left than the one that leads to it, or as many of them and a smaller
part of the template. -/
theorem LeadsTo.descends {m m' : Moment} (h : LeadsTo kb profile limit m m') :
    Prod.Lex (· < ·) (· < ·) (m'.call.levelsLeft limit, m'.call.partSize)
      (m.call.levelsLeft limit, m.call.partSize) := by
  cases h with
  | category hlimit hdepth hwinner =>
    apply Prod.Lex.left
    simp only [call, Call.levelsLeft, if_pos hdepth]
    omega
  | rest hfirst =>
    apply Prod.Lex.right
    simp only [call, Call.partSize, List.cons.sizeOf_spec]
    omega
  | group => exact Call.Makes.group.descends
  | join => exact Call.Makes.join.descends
  | first => exact (Call.Makes.evaluate List.mem_cons_self).descends
  | joined hmem => exact (Call.Makes.joined hmem).descends
  | answered hmem => exact (Call.Makes.answered hmem).descends
  | starAnswer => exact (Call.Makes.scan rfl).descends
  | redirect hjoin => exact (Call.Makes.scan rfl).descends

/-- Every chain of moments ends. -/
theorem wellFounded_leadsTo (kb : KnowledgeBase) (profile : Bindings) (limit : Nat) :
    WellFounded fun m' m => LeadsTo kb profile limit m m' :=
  Subrelation.wf (fun h => LeadsTo.descends h) (InvImage.wf call (Call.wellFounded_descends limit))

end Moment

/-! ## What a moment comes to -/

section Congruence

variable {σ α β : Type} {x y : StateT σ Choice α} {s : σ}

/-- Sequences agree if they go on alike after each outcome of their first parts. -/
theorem Choice.bind_congr_outcomes {x : Choice α} {f g : α → Choice β}
    (h : ∀ a ∈ x.outcomes, f a = g a) : x >>= f = x >>= g := by
  induction x with
  | done a => exact h a (List.mem_singleton.2 rfl)
  | pick n next ih =>
    refine congrArg (pick n) (funext fun i => ih i fun a hmem => h a ?_)
    exact List.mem_flatMap.2 ⟨i, List.mem_finRange i, hmem⟩

/-- Sequences agree in a state if their first parts do, and if they go on alike from each state
that these can leave. -/
theorem run_bind_congr {f g : α → StateT σ Choice β} (hfirst : x.run s = y.run s)
    (hrest : ∀ a t, Yields y s a t → (f a).run t = (g a).run t) :
    (x >>= f).run s = (y >>= g).run s := by
  rw [StateT.run_bind, StateT.run_bind, hfirst]
  exact Choice.bind_congr_outcomes fun out hmem => hrest out.1 out.2 hmem

/-- Results that are changed afterwards agree in a state if they have done so before. -/
theorem run_map_congr (f : α → β) (h : x.run s = y.run s) : (f <$> x).run s = (f <$> y).run s := by
  rw [StateT.run_map, StateT.run_map, h]

end Congruence

/-- A nested question is answered alike if it is scanned for alike. -/
theorem run_redirect_congr {scan scan' : String → Action (Option Hit)} {question : String}
    {frame : Frame} (h : (scan question).run frame.request.countRedirect =
      (scan' question).run frame.request.countRedirect) :
    (Evaluation.onRequest (redirect scan question)).run frame =
      (Evaluation.onRequest (redirect scan' question)).run frame := by
  rw [Evaluation.run_onRequest, Evaluation.run_onRequest, redirect_run, redirect_run, h]

namespace Moment

/-- Whether two ways to answer calls come to the same at a moment. -/
def SameAt (call call' : Call.Answers) : Moment → Prop
  | scan depth question request =>
    (call (.scan depth question)).run request = (call' (.scan depth question)).run request
  | answer depth fragments frame =>
    (call (.answer depth fragments)).run frame = (call' (.answer depth fragments)).run frame
  | join depth fragments frame =>
    (call (.join depth fragments)).run frame = (call' (.join depth fragments)).run frame
  | evaluate depth fragment frame =>
    (call (.evaluate depth fragment)).run frame = (call' (.evaluate depth fragment)).run frame

/-- Coming to the same at a moment is transitive. -/
theorem SameAt.trans {m : Moment} {call call' call'' : Call.Answers} (h : m.SameAt call call')
    (h' : m.SameAt call' call'') : m.SameAt call call'' := by
  cases m <;> exact Eq.trans h h'

variable {kb : KnowledgeBase} {profile : Bindings} {limit : Nat} {call : Call.Answers}
  {depth : Nat}

/-- What a fragment comes to in a frame is settled by the moments that its evaluation leads to. -/
theorem run_performFragment_congr {fragment : Fragment} {frame : Frame}
    (h : ∀ m, LeadsTo kb profile limit (.evaluate depth fragment frame) m →
      m.SameAt call (Call.solve kb profile limit)) :
    (Call.performFragment profile call depth fragment).run frame =
      (Call.performFragment profile (Call.solve kb profile limit) depth fragment).run frame := by
  cases fragment with
  | text | bot | get | star | lineBreak => rfl
  | recase | item | group | markup =>
    exact run_map_congr _ (h _ (.joined (List.mem_singleton.2 rfl)))
  | think content =>
    exact run_bind_congr (h _ (.joined (List.mem_singleton.2 rfl))) fun _ _ _ => rfl
  | set name value =>
    cases value with
    | nil => rfl
    | cons first rest =>
      simp only [Call.performFragment, List.head?_cons]
      split
      · rfl
      · exact run_bind_congr (run_map_congr _ (h _ (.joined (List.mem_singleton.2 rfl))))
          fun _ _ _ => rfl
  | starAnswer =>
    refine run_bind_congr rfl fun question mid hread => ?_
    rcases Evaluation.yields_readWildcard.1 hread with ⟨rfl, rfl⟩
    split
    · rfl
    · exact run_redirect_congr (h _ .starAnswer)
  | redirect content =>
    refine run_bind_congr (run_map_congr _ (h _ (.joined (List.mem_singleton.2 rfl)))) ?_
    intro question mid hquestion
    rcases yields_map.1 hquestion with ⟨text, hjoined, rfl⟩
    exact run_redirect_congr (h _ (.redirect (Course.possible_iff_isOutcome.2 hjoined)))
  | onlyIf name value content =>
    refine run_bind_congr rfl fun vars mid hvars => ?_
    rcases Evaluation.yields_vars.1 hvars with ⟨rfl, rfl⟩
    split
    · exact run_map_congr _ (h _ (.joined (List.mem_singleton.2 rfl)))
    · rfl
  | select name branches =>
    refine run_bind_congr rfl fun vars mid hvars => ?_
    rcases Evaluation.yields_vars.1 hvars with ⟨rfl, rfl⟩
    split
    · rename_i branch hfind
      have hmem := List.mem_of_find?_eq_some hfind
      exact run_map_congr _ (h _ (.joined (List.mem_map_of_mem hmem)))
    · rfl
  | firstOf branches =>
    refine run_bind_congr rfl fun vars mid hvars => ?_
    rcases Evaluation.yields_vars.1 hvars with ⟨rfl, rfl⟩
    split
    · rename_i branch hfind
      have hmem := List.mem_of_find?_eq_some hfind
      exact run_bind_congr (h _ (.answered (List.mem_map_of_mem hmem))) fun _ _ _ => rfl
    · rfl
  | random alternatives =>
    simp only [Call.performFragment]
    split
    · rfl
    · refine run_bind_congr rfl fun i mid hdrawn => ?_
      cases Evaluation.yields_among.1 hdrawn
      split
      · rename_i alternative hget
        have hmem := List.mem_of_getElem? hget
        exact run_bind_congr (h _ (.answered (List.mem_map_of_mem hmem))) fun _ _ _ => rfl
      · rfl

/-- A scan within the limit comes to what the category that wins does. -/
theorem run_performScan (call : Call.Answers) (question : String) (request : Request) :
    (Call.performScan kb profile limit call depth question).run request =
      if request.metrics.limitHit = true then pure (none, request)
      else if limit < depth then pure (none, request.exceedLimit)
      else
        match (survey profile request.conversation question 0 kb.categories).winner with
        | none => pure (none, request.tryCategories kb profile depth question)
        | some winner => do
          let out ← (call (.category depth winner)).run
            (request.tryCategories kb profile depth question)
          return (some out.1, out.2) := by
  have hentered : survey profile (request.enter depth).conversation question 0 kb.categories =
      survey profile request.conversation question 0 kb.categories := rfl
  simp only [Call.performScan, StateT.run_bind, StateT.run_get, pure_bind]
  split
  · rfl
  · split
    · rfl
    · simp only [StateT.run_bind, StateT.run_modify, StateT.run_get, pure_bind, hentered]
      cases (survey profile request.conversation question 0 kb.categories).winner <;> rfl

/-- The evaluation of a category comes to what its template answers. -/
theorem run_performCategory (call : Call.Answers) (winner : Winner) (request : Request) :
    (Call.performCategory call depth winner).run request = do
      let out ← (call (.answer depth winner.category.template)).run
        ⟨winner.captures, request.begin depth winner⟩
      return (⟨winner.index, winner.captures, out.1⟩,
        out.2.request.record (.finished depth)) := by
  simp only [Call.performCategory, StateT.run_bind, StateT.run_get, StateT.run_modify, pure_bind,
    StateT.run_monadLift, StateT.run_set, StateT.run_pure, monadLift_self, bind_assoc]

/-- What a scan comes to in a state is settled by the answer of the template that wins. -/
theorem run_performScan_congr {question : String} {request : Request}
    (hcategory : ∀ depth winner,
      call (.category depth winner) = Call.performCategory call depth winner)
    (h : ∀ m, LeadsTo kb profile limit (.scan depth question request) m →
      m.SameAt call (Call.solve kb profile limit)) :
    (Call.performScan kb profile limit call depth question).run request =
      (Call.performScan kb profile limit (Call.solve kb profile limit) depth question).run
        request := by
  rw [run_performScan, run_performScan]
  split
  · rfl
  · rename_i hlimit
    split
    · rfl
    · rename_i hdepth
      split
      · rfl
      · rename_i winner hwinner
        have hleads := LeadsTo.category (Bool.eq_false_iff.2 hlimit) (Nat.le_of_not_lt hdepth)
          hwinner
        have hanswer := h _ hleads
        have hsolve : Call.solve kb profile limit (.category depth winner) =
            Call.performCategory (Call.solve kb profile limit) depth winner :=
          Call.solves_solve kb profile limit _
        rw [hcategory, hsolve, run_performCategory, run_performCategory, hanswer]

/-- The joined texts of fragments are settled by the first one and by the others behind it. -/
theorem run_performJoin_congr {fragments : List Fragment} {frame : Frame}
    (h : ∀ m, LeadsTo kb profile limit (.join depth fragments frame) m →
      m.SameAt call (Call.solve kb profile limit) ∧
        m.SameAt call (Call.perform kb profile limit call)) :
    (Call.performJoin call depth fragments).run frame =
      (Call.performJoin (Call.solve kb profile limit) depth fragments).run frame := by
  cases fragments with
  | nil => rfl
  | cons fragment fragments =>
    refine run_bind_congr (h _ .first).1 fun text mid hfirst => ?_
    rcases h _ (.rest (Course.possible_iff_isOutcome.2 hfirst)) with ⟨hsame, hperform⟩
    refine run_bind_congr ?_ fun _ _ _ => rfl
    -- The others are joined directly, not by a call, which comes to the same by the recursion.
    have hothers := hperform.symm.trans hsame
    rw [Call.solves_solve] at hothers
    exact hothers

/-- What is done at a moment is settled by the moments that it leads to. -/
theorem sameAt_perform {m : Moment}
    (hcategory : ∀ depth winner,
      call (.category depth winner) = Call.performCategory call depth winner)
    (h : ∀ m', LeadsTo kb profile limit m m' →
      m'.SameAt call (Call.solve kb profile limit) ∧
        m'.SameAt call (Call.perform kb profile limit call)) :
    m.SameAt (Call.perform kb profile limit call)
      (Call.perform kb profile limit (Call.solve kb profile limit)) := by
  cases m with
  | scan depth question request =>
    exact run_performScan_congr hcategory fun m' hleads => (h m' hleads).1
  | answer depth fragments frame =>
    have hjoin := (h _ .join).1
    show (Call.performAnswer call depth fragments).run frame =
      (Call.performAnswer (Call.solve kb profile limit) depth fragments).run frame
    unfold Call.performAnswer
    split
    · exact (h _ .group).1
    · split
      · rfl
      · exact run_map_congr _ hjoin
  | join depth fragments frame => exact run_performJoin_congr h
  | evaluate depth fragment frame =>
    exact run_performFragment_congr fun m' hleads => (h m' hleads).1

/-- What a moment comes to is settled by the moments that it leads to: any way to answer calls that
satisfies the recursion at all of them comes to the same as the work on the request.  So every
evaluation that counts is at one of these moments. -/
theorem sameAt_solve {m : Moment}
    (hcategory : ∀ depth winner,
      call (.category depth winner) = Call.performCategory call depth winner)
    (hsolves : ∀ m', Relation.ReflTransGen (LeadsTo kb profile limit) m m' →
      m'.SameAt call (Call.perform kb profile limit call)) :
    m.SameAt call (Call.solve kb profile limit) := by
  induction m using (wellFounded_leadsTo kb profile limit).induction with
  | _ m ih =>
    have hstep := sameAt_perform hcategory fun m' hleads =>
      ⟨ih m' hleads fun m'' hreach => hsolves m'' (.head hleads hreach),
        hsolves m' (.single hleads)⟩
    have hsolve : Call.perform kb profile limit (Call.solve kb profile limit) =
        Call.solve kb profile limit :=
      funext fun c => (Call.solves_solve kb profile limit c).symm
    rw [hsolve] at hstep
    exact (hsolves m .refl).trans hstep

end Moment

end Dialogue
