import Dialogue.Proofs.Resolution.Limit
import Dialogue.Proofs.Resolution.Stages

/-!
# Counters of a request

The counters of a request are bumped at different points: the categories of a scan when
they have been tried, a redirection before its question is scanned for, and the depth only
by a scan that has not been cut short.  Together they obey a few laws at every point of a
request.

Main results:

- Theorem `survey_counts`: how many categories are tried and ruled out.
- Theorem `stages_metrics`: the laws hold at every stage of a request.
- Theorem `metrics_of_resolve`: the laws at the end of a request, and what its outcome adds.
-/

namespace Dialogue

/-! ## Tried categories -/

/-- What is ruled out has been tried, and no category is tried twice. -/
theorem survey_counts (profile : Bindings) (conversation : Conversation) (question : String)
    (index : Nat) (categories : List Category) :
    let found := survey profile conversation question index categories
    found.rejected ≤ found.tried ∧ found.tried ≤ categories.length := by
  induction categories generalizing index with
  | nil => exact ⟨Nat.le_refl 0, Nat.le_refl 0⟩
  | cons category categories ih =>
    have hrest := ih (index + 1)
    unfold survey
    rw [List.length_cons]
    split <;> dsimp only at hrest ⊢ <;> omega

/-- If no category wins, all have been tried. -/
theorem tried_of_no_winner {profile : Bindings} {conversation : Conversation} {question : String}
    {index : Nat} {categories : List Category}
    (hwinner : (survey profile conversation question index categories).winner = none) :
    (survey profile conversation question index categories).tried = categories.length := by
  induction categories generalizing index with
  | nil => rfl
  | cons category categories ih =>
    unfold survey at hwinner ⊢
    split at hwinner
    · cases hwinner
    · simp only [ih hwinner, List.length_cons]
    · simp only [ih hwinner, List.length_cons]

/-! ## Laws -/

/-- The laws of the counters of a request with a limit on nested redirections, on a
knowledge base of `size` categories. -/
structure Metrics.Lawful (limit size : Nat) (m : Metrics) : Prop where
  maxDepth_le_limit : m.maxDepth ≤ limit
  maxDepth_le_redirects : m.maxDepth ≤ m.redirects
  /-- The limit is only exceeded by one more redirection at the greatest depth. -/
  beyond : m.limitHit = true → m.maxDepth = limit ∧ limit + 1 ≤ m.redirects
  thatRejections_le : m.thatRejections ≤ m.tried
  /-- Every redirection is followed by one scan at most. -/
  tried_le : m.tried ≤ (m.redirects + 1) * size

/-- The laws before a scan at a depth: as many redirections have led to it, and all
categories may be tried once more. -/
structure Metrics.BeforeScan (limit size depth : Nat) (m : Metrics) : Prop
    extends Lawful limit size m where
  depth_le_redirects : depth ≤ m.redirects
  depth_le : depth ≤ m.maxDepth + 1
  untried : m.tried + size ≤ (m.redirects + 1) * size

/-- The laws inside the evaluation of a category at a depth, which has been reached. -/
structure Metrics.InsideScan (limit size depth : Nat) (m : Metrics) : Prop
    extends Lawful limit size m where
  depth_le : depth ≤ m.maxDepth

/-- The laws after a scan at a depth, which may have been cut short. -/
structure Metrics.AfterScan (limit size depth : Nat) (m : Metrics) : Prop
    extends Lawful limit size m where
  depth_le : depth ≤ m.maxDepth + 1

section Stages

variable {kb : KnowledgeBase} {profile : Bindings} {limit depth : Nat} {r : Request}

/-- When its categories have been tried, a scan within the limit has reached its depth. -/
theorem Metrics.BeforeScan.tryCategories
    (h : r.metrics.BeforeScan limit kb.size depth) (hle : depth ≤ limit) (profile : Bindings)
    (question : String) (hlimit : r.metrics.limitHit = false) :
    (r.tryCategories kb profile depth question).metrics.InsideScan limit kb.size depth := by
  have hcounts := survey_counts profile r.conversation question 0 kb.categories
  have hsize : kb.categories.length = kb.size := rfl
  have hbeyond : (r.tryCategories kb profile depth question).metrics.limitHit = true →
      (max r.metrics.maxDepth depth = limit ∧ limit + 1 ≤ r.metrics.redirects) := by
    intro hhit
    rw [show (r.tryCategories kb profile depth question).metrics.limitHit = r.metrics.limitHit
      from rfl, hlimit] at hhit
    cases hhit
  refine ⟨⟨?_, ?_, hbeyond, ?_, ?_⟩, ?_⟩
  · exact Nat.max_le.2 ⟨h.maxDepth_le_limit, hle⟩
  · exact Nat.max_le.2 ⟨h.maxDepth_le_redirects, h.depth_le_redirects⟩
  · exact Nat.add_le_add h.thatRejections_le hcounts.1
  · exact Nat.le_trans (Nat.add_le_add_left (hsize ▸ hcounts.2) _) h.untried
  · exact Nat.le_max_right _ _

/-- One more redirection allows for one more scan, one level deeper. -/
theorem Metrics.InsideScan.countRedirect (h : r.metrics.InsideScan limit kb.size depth) :
    r.countRedirect.metrics.BeforeScan limit kb.size (depth + 1) := by
  have hredirects : r.countRedirect.metrics.redirects = r.metrics.redirects + 1 := rfl
  have htried : r.metrics.tried + kb.size ≤ (r.metrics.redirects + 1 + 1) * kb.size := by
    rw [Nat.succ_mul (r.metrics.redirects + 1)]
    exact Nat.add_le_add_right h.tried_le _
  refine ⟨⟨h.maxDepth_le_limit, ?_, ?_, h.thatRejections_le, ?_⟩, ?_, ?_, htried⟩
  · exact Nat.le_succ_of_le h.maxDepth_le_redirects
  · intro hhit
    exact ⟨(h.beyond hhit).1, Nat.le_succ_of_le (h.beyond hhit).2⟩
  · exact Nat.le_trans (Nat.le_add_right _ _) htried
  · exact Nat.succ_le_succ (Nat.le_trans h.depth_le h.maxDepth_le_redirects)
  · exact Nat.succ_le_succ h.depth_le

/-- A scan below the last level exceeds the limit at the greatest depth. -/
theorem Metrics.BeforeScan.exceedLimit (h : r.metrics.BeforeScan limit kb.size (limit + 1)) :
    r.exceedLimit.metrics.AfterScan limit kb.size (limit + 1) := by
  refine ⟨⟨h.maxDepth_le_limit, h.maxDepth_le_redirects, ?_, h.thatRejections_le, h.tried_le⟩,
    h.depth_le⟩
  intro _
  exact ⟨Nat.le_antisymm h.maxDepth_le_limit (Nat.le_of_succ_le_succ h.depth_le),
    h.depth_le_redirects⟩

/-- The laws hold at every stage of a request. -/
theorem stages_metrics (kb : KnowledgeBase) (profile : Bindings) (limit : Nat) :
    Stages kb profile limit (fun depth r => r.metrics.BeforeScan limit kb.size depth)
      (fun depth r => r.metrics.InsideScan limit kb.size depth)
      (fun depth r => r.metrics.AfterScan limit kb.size depth) where
  cut _ h := ⟨h.toLawful, h.depth_le⟩
  exceed _ h := h.exceedLimit
  miss {_ _ question} hle hlimit h _ := by
    have htried := h.tryCategories hle profile question hlimit
    exact ⟨htried.toLawful, Nat.le_succ_of_le htried.depth_le⟩
  win {_ _ question _} hle hlimit h _ := h.tryCategories hle profile question hlimit
  readWildcard _ h := h
  takeCapture _ h := h
  write _ _ h := h
  descend h := h.countRedirect
  ascend h := ⟨h.toLawful, Nat.le_of_succ_le_succ h.depth_le⟩
  finish h := ⟨h.toLawful, Nat.le_succ_of_le h.depth_le⟩

end Stages

/-! ## Whole requests -/

/-- The limit has been exceeded exactly in a request that ends at the limit. -/
theorem Request.limitHit_conclude_iff (r : Request) (hit : Option Hit) :
    (r.conclude hit).request.metrics.limitHit = true ↔
      (r.conclude hit).resolution.outcome = .redirectionLimit := by
  constructor
  · intro hlimit
    have hr : r.metrics.limitHit = true := hlimit
    rw [conclude_of_limitHit hit hr]
  · intro houtcome
    exact limitHit_of_conclude houtcome

/-- A hit is not reported as a question for which no category matches. -/
theorem Request.conclude_some_outcome (r : Request) (hit : Hit) :
    (r.conclude (some hit)).resolution.outcome ≠ .noMatch := by
  cases hlimit : r.metrics.limitHit with
  | true => simp [conclude_of_limitHit (some hit) hlimit]
  | false =>
    rw [conclude, hlimit, Resolution.ofHit_some]
    dsimp only
    split <;> simp

/-- A request for which no category matches has tried every category once. -/
theorem metrics_of_noMatch {kb : KnowledgeBase} {profile : Bindings} {levels : Nat}
    {question : String} {start : Conversation} {out : Option Hit × Request}
    (hout : out ∈
      ((scan kb profile (levels + 1) 0 question).run { conversation := start }).outcomes)
    (houtcome : (out.2.conclude out.1).resolution.outcome = .noMatch) :
    out.2.metrics.tried = kb.size ∧ out.2.metrics.redirects = 0 := by
  rcases scan_cases rfl hout with ⟨hwinner, rfl⟩ | ⟨winner, text, -, hhit, -⟩
  · have htried := tried_of_no_winner hwinner
    refine ⟨?_, rfl⟩
    calc (Request.tryCategories { conversation := start } kb profile 0 question).metrics.tried
        = 0 + (survey profile start question 0 kb.categories).tried := rfl
      _ = kb.size := by
        rw [htried, Nat.zero_add]
        rfl
  · rw [hhit] at houtcome
    exact absurd houtcome (out.2.conclude_some_outcome _)

/-- At the end of a request the limit has been exceeded exactly if its outcome says so.  The
depth that was reached is within the limit and within the number of redirections; if the
limit has been exceeded, it is the limit, and there have been more redirections than that.
Every match that was ruled out has been tried, and each scan has tried every category once at
most.  A request for which no category matches is one whole scan. -/
theorem metrics_of_resolve (kb : KnowledgeBase) (profile : Bindings) (limit : Nat)
    (conversation : Conversation) (question : String) (draws : Draws) :
    let resolved := ((resolve kb profile limit conversation question).follow draws).1
    let m := resolved.request.metrics
    (m.limitHit = true ↔ resolved.resolution.outcome = .redirectionLimit) ∧
      m.maxDepth ≤ limit ∧ m.maxDepth ≤ m.redirects ∧
      (m.limitHit = true → m.maxDepth = limit ∧ limit + 1 ≤ m.redirects) ∧
      m.thatRejections ≤ m.tried ∧ m.tried ≤ (m.redirects + 1) * kb.size ∧
      (resolved.resolution.outcome = .noMatch → m.tried = kb.size ∧ m.redirects = 0) := by
  intro resolved m
  have hstart : Metrics.BeforeScan limit kb.size 0 {} := by
    refine ⟨⟨Nat.zero_le _, Nat.zero_le _, nofun, Nat.zero_le _, Nat.zero_le _⟩,
      Nat.zero_le _, Nat.zero_le _, ?_⟩
    simp
  obtain ⟨out, hout, hafter, hresolved⟩ :=
    (stages_metrics kb profile limit).resolve hstart
      (Choice.follow_mem_outcomes (resolve kb profile limit conversation question) draws)
  have hresolved : resolved = out.2.conclude out.1 := hresolved
  have hm : m = out.2.metrics := by
    rw [show m = resolved.request.metrics from rfl, hresolved]
    rfl
  have hlaws : m.Lawful limit kb.size := hm ▸ hafter.toLawful
  refine ⟨?_, hlaws.maxDepth_le_limit, hlaws.maxDepth_le_redirects, hlaws.beyond,
    hlaws.thatRejections_le, hlaws.tried_le, ?_⟩
  · rw [show m = resolved.request.metrics from rfl, hresolved]
    exact out.2.limitHit_conclude_iff out.1
  · intro houtcome
    rw [hm]
    rw [hresolved] at houtcome
    exact metrics_of_noMatch hout houtcome

end Dialogue
