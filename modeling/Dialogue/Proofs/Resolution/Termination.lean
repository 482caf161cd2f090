import Dialogue.Proofs.Resolution.Calls

/-!
# Requests end

The recursion of scanning and evaluating, which has a guard on the depth and nothing that is used
up, has one solution, and a request is what this solution says.  A request asks about no more
than the calls on the way to it, and every chain of them ends: the evaluations in a chain are at
the depths 0, 1, 2 and so on up to the limit, and inside of each the walk only goes down into the
template.

Main results:

- Theorem `Call.solves_solve`: the recursion has a solution.
- Theorem `Call.eq_solve_of_solves`: it has no other one.
- Theorem `resolve_returns`: a request ends, and how its evaluations are nested on the way.
-/

namespace Dialogue

/-! ## The solution -/

namespace Call

variable (kb : KnowledgeBase) (profile : Bindings) (limit : Nat)

/-- The answer to a question that is asked in an evaluation at a depth. -/
def askNested (depth : Nat) : String → Action String :=
  redirect (Dialogue.scan kb profile (limit - depth) (depth + 1))

/-- Where a category is evaluated at a depth. -/
def settingAt (depth : Nat) : Setting := ⟨profile, depth, askNested kb profile limit depth⟩

/-- What the calls come to when a request is resolved; a scan has the levels that are left from
its depth on. -/
def solve : Answers
  | scan depth question => Dialogue.scan kb profile (limit + 1 - depth) depth question
  | category depth winner => evaluateWinner profile depth (askNested kb profile limit depth) winner
  | answer depth fragments => respond (settingAt kb profile limit depth) fragments
  | join depth fragments => concatenate (settingAt kb profile limit depth) fragments
  | evaluate depth fragment => evaluateFragment (settingAt kb profile limit depth) fragment

/-- A nested question is scanned for one level deeper. -/
theorem redirect_solve (depth : Nat) :
    redirect (fun question => solve kb profile limit (.scan (depth + 1) question)) =
      askNested kb profile limit depth := by
  have hlevels : limit + 1 - (depth + 1) = limit - depth := Nat.add_sub_add_right limit 1 depth
  simp only [solve, askNested, hlevels]

/-- The levels of a scan run out when the guard on its depth says so. -/
theorem solve_scan (depth : Nat) (question : String) :
    solve kb profile limit (.scan depth question) =
      performScan kb profile limit (solve kb profile limit) depth question := by
  simp only [solve, performScan]
  by_cases hlimit : limit < depth
  · have hlevels : limit + 1 - depth = 0 := Nat.sub_eq_zero_of_le hlimit
    rw [hlevels, Dialogue.scan, if_pos hlimit]
  · have hlevels : limit + 1 - depth = limit - depth + 1 :=
      Nat.succ_sub (Nat.le_of_not_lt hlimit)
    rw [hlevels, Dialogue.scan]
    simp only [if_neg hlimit]
    rfl

/-- The text of a fragment is made from what is inside of it and from the answers to nested
questions. -/
theorem solve_evaluate (depth : Nat) (fragment : Fragment) :
    solve kb profile limit (.evaluate depth fragment) =
      performFragment profile (solve kb profile limit) depth fragment := by
  cases fragment with
  | text | get | star | onlyIf | recase | lineBreak | think | item | group | markup =>
    simp only [solve, evaluateFragment, performFragment]
  | bot | set =>
    simp only [solve, evaluateFragment, performFragment]
    rfl
  | starAnswer | redirect =>
    rw [performFragment, redirect_solve]
    simp only [solve, evaluateFragment]
    rfl
  | random alternatives =>
    simp only [solve, evaluateFragment, performFragment, respondAt_eq]
    cases alternatives.length with
    | zero => rfl
    | succ n =>
      refine congrArg (_ >>= ·) (funext fun i => ?_)
      cases alternatives[i.val]? with
      | none => rfl
      | some alternative => rfl
  | firstOf branches =>
    simp only [solve, evaluateFragment, performFragment, respondFirst_eq]
    refine congrArg (_ >>= ·) (funext fun vars => ?_)
    cases branches.find? (Branch.holds vars) with
    | none => rfl
    | some branch => rfl
  | select name branches =>
    simp only [solve, evaluateFragment, performFragment]
    refine congrArg (_ >>= ·) (funext fun vars => ?_)
    exact evaluateFirst_eq _ (Branch.holdsOf vars name) branches

/-- The functions of the model answer all calls as the recursion says. -/
theorem solves_solve : Solves kb profile limit (solve kb profile limit) := by
  intro c
  cases c with
  | scan depth question => exact solve_scan kb profile limit depth question
  | category depth winner => rfl
  | answer depth fragments => exact respond_eq (settingAt kb profile limit depth) fragments
  | join depth fragments =>
    induction fragments with
    | nil => rfl
    | cons fragment fragments ih =>
      have hrest : concatenate (settingAt kb profile limit depth) fragments =
          performJoin (solve kb profile limit) depth fragments := ih
      simp only [perform, performJoin, ← hrest, solve, concatenate]
  | evaluate depth fragment => exact solve_evaluate kb profile limit depth fragment

variable {kb profile limit}

/-- The recursion has no other solution: what a call comes to is fixed by the calls that it
makes, and every chain of calls ends. -/
theorem eq_solve_of_solves {call : Answers} (h : Solves kb profile limit call) :
    call = solve kb profile limit := by
  funext c
  induction c using (wellFounded_makes limit).induction with
  | _ c ih => rw [h c, solves_solve kb profile limit c, perform_congr fun c' hmakes => ih c' hmakes]

/-- Inside an evaluation, a fragment that is evaluated on the way to the text of another one is
inside of that one. -/
theorem part_of_evaluate {depth depth' : Nat} {whole part : Fragment}
    (h : Relation.TransGen (MakesInside limit) (evaluate depth whole) (evaluate depth' part)) :
    depth' = depth ∧ Relation.TransGen Fragment.IsPart part whole := by
  rcases Relation.TransGen.head'_iff.1 h with ⟨c, ⟨hmakes, hother⟩, hrest⟩
  cases hmakes with
  | @joined _ _ content hmem =>
    rcases part_of_makesInside hrest (Option.some_ne_none depth) with ⟨hdepth, inner, hinner, hpart⟩
    exact ⟨(Option.some.inj hdepth).symm,
      Relation.TransGen.tail'_iff.2 ⟨inner, hpart, content, .inl hmem, hinner⟩⟩
  | @answered _ _ content hmem =>
    rcases part_of_makesInside hrest (Option.some_ne_none depth) with ⟨hdepth, inner, hinner, hpart⟩
    exact ⟨(Option.some.inj hdepth).symm,
      Relation.TransGen.tail'_iff.2 ⟨inner, hpart, content, .inr hmem, hinner⟩⟩
  | scan => exact absurd rfl (hother _ _)

end Call

/-! ## Whole requests -/

/-- A request ends, whatever the categories redirect to.  The recursion of scanning and
evaluating, with a guard on the depth only, has exactly one solution, of which a request is the
scan at depth zero; and every chain of calls ends.  In a chain from that scan, the categories are
evaluated at the depths 0, 1, 2 and so on in turn, and at no depth beyond the limit; inside the
evaluation of a category, at its depth, each fragment is in its template, and on the way to the
text of a fragment only fragments inside of it are evaluated, which cannot go on forever.  At
every moment of the request as it is made, the evaluations that are open are nested in this way,
and at its end none is. -/
theorem resolve_returns (kb : KnowledgeBase) (profile : Bindings) (limit : Nat)
    (conversation : Conversation) (question : String) :
    (∃! call : Call.Answers, Call.Solves kb profile limit call) ∧
    (∀ call : Call.Answers, Call.Solves kb profile limit call →
      resolve kb profile limit conversation question = do
        let out ← (call (.scan 0 question)).run { conversation := conversation.forgetCaptures }
        return out.2.conclude out.1) ∧
    (∀ (call call' : Call.Answers) (c : Call),
      (∀ c', Call.Makes limit c c' → call c' = call' c') →
        Call.perform kb profile limit call c = Call.perform kb profile limit call' c) ∧
    WellFounded (fun c' c => Call.Makes limit c c') ∧
    (∀ calls : List Call, List.IsChain (Call.Makes limit) (.scan 0 question :: calls) →
      ∃ n ≤ limit + 1, calls.filterMap Call.categoryDepth? = List.range n) ∧
    (∀ depth depth' winner part,
      Relation.ReflTransGen (Call.MakesInside limit) (.category depth winner)
          (.evaluate depth' part) →
        depth' = depth ∧
          ∃ whole ∈ winner.category.template, Relation.ReflTransGen Fragment.IsPart part whole) ∧
    (∀ depth depth' whole part,
      Relation.TransGen (Call.MakesInside limit) (.evaluate depth whole) (.evaluate depth' part) →
        depth' = depth ∧ Relation.TransGen Fragment.IsPart part whole) ∧
    WellFounded Fragment.IsPart ∧
    ∀ resolved ∈ (resolve kb profile limit conversation question).outcomes,
      Nested limit resolved.request.journal ∧ openDepths resolved.request.journal = [] := by
  have hsolves := Call.solves_solve kb profile limit
  have hunique : ∀ call : Call.Answers, Call.Solves kb profile limit call →
      call = Call.solve kb profile limit := fun call h => Call.eq_solve_of_solves h
  refine ⟨⟨_, hsolves, hunique⟩, ?_, fun _ _ _ h => Call.perform_congr h,
    Call.wellFounded_makes limit, ?_, ?_, fun _ _ _ _ h => Call.part_of_evaluate h,
    Fragment.wellFounded_isPart, fun resolved hresolved => nested_of_resolve hresolved⟩
  · intro call h
    rw [hunique call h]
    exact resolve_eq limit conversation
  · intro calls hchain
    rcases Call.categoryDepths_of_isChain hchain with ⟨n, hle, hdepths⟩
    refine ⟨n, ?_, ?_⟩
    · rcases hle with rfl | hle
      · exact Nat.zero_le _
      · rwa [Call.nextDepth, Nat.zero_add] at hle
    · rw [hdepths, List.range_eq_range']
      rfl
  · intro depth depth' winner part h
    rcases Call.part_of_makesInside h (Option.some_ne_none depth) with ⟨hdepth, hpart⟩
    exact ⟨(Option.some.inj hdepth).symm, hpart⟩

end Dialogue
