import Dialogue.Proofs.Resolution.Answers
import Dialogue.Proofs.Resolution.Nesting
import Mathlib.Data.List.Chain
import Mathlib.Data.Prod.Lex
import Mathlib.Logic.Relation

/-!
# The calls of a request

Scanning, answering, joining and evaluating call each other: a scan evaluates a category, whose
template is walked through, and a redirection on the way scans again, for any question and with
any category.  Here the recursion is written as it stands, with a guard on the depth instead of
levels that are used up.  A call inside a template is for a part of the tree, and a scan is one
level deeper, up to the limit.  So there is no endless chain of calls.

Main results:

- Theorem `Call.perform_congr`: what a call comes to depends on the calls that it makes.
- Theorem `Call.wellFounded_makes`: every chain of calls ends.
- Theorem `Call.categoryDepths_of_isChain`: along a chain, categories are evaluated one level
  deeper each time, and within the limit.
- Theorem `Call.part_of_makesInside`: the calls inside an evaluation are for parts of its template.
-/

namespace Dialogue

/-! ## Parts of a template -/

namespace Fragment

/-- The lists of fragments right inside of a fragment whose texts are joined. -/
def joined : Fragment → List (List Fragment)
  | set _ value => [value]
  | redirect question => [question]
  | onlyIf _ _ content => [content]
  | select _ branches => branches.map Branch.content
  | recase _ content => [content]
  | think content => [content]
  | item content => [content]
  | group content => [content]
  | markup _ _ content => [content]
  | _ => []

/-- The lists of fragments right inside of a fragment that are answered like a template. -/
def answered : Fragment → List (List Fragment)
  | random alternatives => alternatives.map asAlternative
  | firstOf branches => branches.map Branch.content
  | _ => []

/-- Whether a fragment asks a nested question. -/
def redirects : Fragment → Bool
  | starAnswer => true
  | redirect _ => true
  | _ => false

/-- A fragment in the content of another one. -/
def IsPart (part whole : Fragment) : Prop :=
  ∃ content, (content ∈ whole.joined ∨ content ∈ whole.answered) ∧ part ∈ content

/-- The content of a branch is smaller than its condition. -/
theorem sizeOf_content_lt {content : List Fragment} {branches : List Branch}
    (hmem : content ∈ branches.map Branch.content) : sizeOf content < sizeOf branches := by
  rcases List.mem_map.1 hmem with ⟨⟨name, value, inner⟩, hbranch, rfl⟩
  have hlt := List.sizeOf_lt_of_mem hbranch
  rw [Branch.mk.sizeOf_spec] at hlt
  rw [Branch.content]
  omega

/-- A member by itself is no larger than its list. -/
theorem sizeOf_singleton_le {fragment : Fragment} {fragments : List Fragment}
    (hmem : fragment ∈ fragments) : sizeOf [fragment] ≤ sizeOf fragments := by
  induction fragments with
  | nil => cases hmem
  | cons first rest ih =>
    rw [List.cons.sizeOf_spec, List.cons.sizeOf_spec, List.nil.sizeOf_spec] at *
    rcases List.mem_cons.1 hmem with rfl | hrest
    · have hpos : 0 < sizeOf rest := by
        cases rest with
        | nil => exact Nat.one_pos
        | cons second rest =>
          rw [List.cons.sizeOf_spec]
          omega
      omega
    · have hle := ih hrest
      omega

/-- An alternative is smaller than the choice that it belongs to. -/
theorem sizeOf_asAlternative_le {content alternatives : List Fragment}
    (hmem : content ∈ alternatives.map asAlternative) :
    sizeOf content ≤ sizeOf alternatives := by
  rcases List.mem_map.1 hmem with ⟨alternative, halternative, rfl⟩
  unfold asAlternative
  split
  · have hlt := List.sizeOf_lt_of_mem halternative
    rw [item.sizeOf_spec] at hlt
    omega
  · exact sizeOf_singleton_le halternative

/-- Content is smaller than its fragment. -/
theorem sizeOf_lt_of_mem {fragment : Fragment} {content : List Fragment}
    (hmem : content ∈ fragment.joined ∨ content ∈ fragment.answered) :
    sizeOf content < sizeOf fragment := by
  cases fragment with
  | select name branches =>
    have hlt := sizeOf_content_lt (hmem.resolve_right (List.not_mem_nil))
    rw [select.sizeOf_spec]
    omega
  | firstOf branches =>
    have hlt := sizeOf_content_lt (hmem.resolve_left (List.not_mem_nil))
    rw [firstOf.sizeOf_spec]
    omega
  | random alternatives =>
    have hle := sizeOf_asAlternative_le (hmem.resolve_left (List.not_mem_nil))
    rw [random.sizeOf_spec]
    omega
  | set | redirect | onlyIf | recase | think | item | group | markup =>
    cases List.mem_singleton.1 (hmem.resolve_right List.not_mem_nil)
    simp only [set.sizeOf_spec, redirect.sizeOf_spec, onlyIf.sizeOf_spec, recase.sizeOf_spec,
      think.sizeOf_spec, item.sizeOf_spec, group.sizeOf_spec, markup.sizeOf_spec]
    omega
  | text | bot | get | star | starAnswer | lineBreak => rcases hmem with hmem | hmem <;> cases hmem

/-- A template is finite: going from a fragment to one inside of it cannot go on forever. -/
theorem wellFounded_isPart : WellFounded IsPart := by
  have hsmaller : ∀ {part whole : Fragment}, IsPart part whole → sizeOf part < sizeOf whole := by
    rintro part whole ⟨content, hcontent, hmem⟩
    exact (List.sizeOf_lt_of_mem hmem).trans (sizeOf_lt_of_mem hcontent)
  have hsize := InvImage.wf (fun fragment : Fragment => sizeOf fragment) Nat.lt_wfRel.wf
  exact Subrelation.wf hsmaller hsize

end Fragment

/-! ## Calls -/

/-- A call in the course of a request. -/
inductive Call where
  /-- The scan for a question at a depth. -/
  | scan (depth : Nat) (question : String)
  /-- The evaluation of a category that has won at a depth. -/
  | category (depth : Nat) (winner : Winner)
  /-- The answer that fragments give. -/
  | answer (depth : Nat) (fragments : List Fragment)
  /-- The joined texts of fragments. -/
  | join (depth : Nat) (fragments : List Fragment)
  /-- The text of a fragment. -/
  | evaluate (depth : Nat) (fragment : Fragment)

namespace Call

/-- What a call is to come to. -/
abbrev Outcome : Call → Type
  | scan _ _ => Action (Option Hit)
  | category _ _ => Action Hit
  | answer _ _ => Evaluation (Option String)
  | join _ _ => Evaluation String
  | evaluate _ _ => Evaluation String

/-- Answers to all calls. -/
abbrev Answers := (c : Call) → c.Outcome

variable (kb : KnowledgeBase) (profile : Bindings) (limit : Nat)

/-- The text of a fragment, if `call` answers the calls on the way. -/
def performFragment (call : Answers) (depth : Nat) : Fragment → Evaluation String
  | .text content => pure content
  | .bot name => pure (profile.get name)
  | .get name => return (← Evaluation.vars).get name
  | .set name value => do
    let text ←
      match value.head? with
      | none => pure ""
      | some first =>
        if first.takesCapture then Evaluation.takeCapture depth
        else Text.clean <$> call (.join depth value)
    Evaluation.write name text
  | .star => Evaluation.readWildcard
  | .starAnswer => do
    let question ← Evaluation.readWildcard
    if question = "" then pure ""
    else
      Evaluation.onRequest (redirect (fun question => call (.scan (depth + 1) question)) question)
  | .redirect question => do
    let question ← Text.clean <$> call (.join depth question)
    Evaluation.onRequest (redirect (fun question => call (.scan (depth + 1) question)) question)
  | .random alternatives =>
    match alternatives.length with
    | 0 => pure ""
    | n + 1 => do
      let i ← Choice.among n
      match alternatives[i.val]? with
      | some alternative => return (← call (.answer depth alternative.asAlternative)).getD ""
      | none => return ""
  | .firstOf branches => do
    let vars ← Evaluation.vars
    match branches.find? (Branch.holds vars) with
    | some branch => return (← call (.answer depth branch.content)).getD ""
    | none => return ""
  | .onlyIf name value content => do
    let vars ← Evaluation.vars
    if vars.get? name = some value then Text.clean <$> call (.join depth content) else pure ""
  | .select name branches => do
    let vars ← Evaluation.vars
    match branches.find? (Branch.holdsOf vars name) with
    | some branch => Text.clean <$> call (.join depth branch.content)
    | none => return ""
  | .recase casing content => (casing.apply <| Text.clean ·) <$> call (.join depth content)
  | .lineBreak => pure "\n"
  | .think content => do
    let _ ← call (.join depth content)
    pure ""
  | .item content => Text.clean <$> call (.join depth content)
  | .group content => Text.clean <$> call (.join depth content)
  | .markup tag attributes content =>
    (writeElement tag attributes <| Text.clean ·) <$> call (.join depth content)

/-- The joined texts of fragments, if `call` answers the calls on the way. -/
def performJoin (call : Answers) (depth : Nat) : List Fragment → Evaluation String
  | [] => pure ""
  | fragment :: fragments => do
    let text ← call (.evaluate depth fragment)
    let rest ← performJoin call depth fragments
    return text ++ rest

/-- The answer that fragments give, if `call` answers the calls on the way. -/
def performAnswer (call : Answers) (depth : Nat) : List Fragment → Evaluation (Option String)
  | [.group content] => call (.answer depth content)
  | fragments =>
    if fragments.all Fragment.isBlank then pure none
    else (answerOf <| Text.clean ·) <$> call (.join depth fragments)

/-- The evaluation of the category that wins, if `call` answers the calls on the way. -/
def performCategory (call : Answers) (depth : Nat) (winner : Winner) : Action Hit := do
  modify (·.begin depth winner)
  let (text, frame) ← (call (.answer depth winner.category.template)).run ⟨winner.captures, ← get⟩
  set (frame.request.record (.finished depth))
  return ⟨winner.index, winner.captures, text⟩

/-- The scan for a question, if `call` answers the calls on the way.  Nothing but the guard on
the depth keeps redirections from going on. -/
def performScan (call : Answers) (depth : Nat) (question : String) : Action (Option Hit) := do
  if (← get).metrics.limitHit then return none
  if limit < depth then
    modify (·.exceedLimit)
    return none
  modify (·.enter depth)
  let found := survey profile (← get).conversation question 0 kb.categories
  modify (·.count found)
  match found.winner with
  | none => return none
  | some winner => return some (← call (.category depth winner))

/-- What a call comes to, if `call` answers the calls that it makes. -/
def perform (call : Answers) : Answers
  | .scan depth question => performScan kb profile limit call depth question
  | .category depth winner => performCategory call depth winner
  | .answer depth fragments => performAnswer call depth fragments
  | .join depth fragments => performJoin call depth fragments
  | .evaluate depth fragment => performFragment profile call depth fragment

/-- Whether answers to all calls solve the recursion: each is what its call comes to. -/
def Solves (call : Answers) : Prop := ∀ c, call c = perform kb profile limit call c

/-! ## Who calls whom -/

/-- Whether one call may make another. -/
inductive Makes : Call → Call → Prop
  /-- A scan within the limit evaluates the category that wins. -/
  | category {depth question winner} (hle : depth ≤ limit) :
    Makes (.scan depth question) (.category depth winner)
  /-- A category is evaluated by its template. -/
  | template {depth winner} :
    Makes (.category depth winner) (.answer depth winner.category.template)
  /-- A single template inside a template is looked into. -/
  | group {depth content} : Makes (.answer depth [.group content]) (.answer depth content)
  /-- Fragments that are not all blank are joined. -/
  | join {depth fragments} : Makes (.answer depth fragments) (.join depth fragments)
  /-- Each of the fragments is evaluated. -/
  | evaluate {depth fragment fragments} (hmem : fragment ∈ fragments) :
    Makes (.join depth fragments) (.evaluate depth fragment)
  | joined {depth fragment content} (hmem : content ∈ fragment.joined) :
    Makes (.evaluate depth fragment) (.join depth content)
  | answered {depth fragment content} (hmem : content ∈ fragment.answered) :
    Makes (.evaluate depth fragment) (.answer depth content)
  /-- A redirection scans for any question, one level deeper. -/
  | scan {depth fragment question} (hredirects : fragment.redirects = true) :
    Makes (.evaluate depth fragment) (.scan (depth + 1) question)

variable {kb profile limit}

/-! ## What a call depends on -/

section Congruence

variable {call call' : Answers} {depth : Nat}

/-- Joining depends on the texts of the fragments. -/
theorem performJoin_congr {fragments : List Fragment}
    (h : ∀ fragment ∈ fragments,
      call (.evaluate depth fragment) = call' (.evaluate depth fragment)) :
    performJoin call depth fragments = performJoin call' depth fragments := by
  induction fragments with
  | nil => rfl
  | cons fragment fragments ih =>
    rw [List.forall_mem_cons] at h
    rw [performJoin, performJoin, h.1, ih h.2]

/-- An answer depends on the answer of the single template inside, or on the joined texts. -/
theorem performAnswer_congr {fragments : List Fragment}
    (hgroup : ∀ content, fragments = [.group content] →
      call (.answer depth content) = call' (.answer depth content))
    (hjoin : call (.join depth fragments) = call' (.join depth fragments)) :
    performAnswer call depth fragments = performAnswer call' depth fragments := by
  unfold performAnswer
  split
  · rename_i content
    exact hgroup content rfl
  · rw [hjoin]

/-- The evaluation of a category depends on the answer of its template. -/
theorem performCategory_congr {winner : Winner}
    (h : call (.answer depth winner.category.template) =
      call' (.answer depth winner.category.template)) :
    performCategory call depth winner = performCategory call' depth winner := by
  rw [performCategory, performCategory, h]

/-- A scan depends on the evaluation of the category that wins, if it is within the limit. -/
theorem performScan_congr {question : String}
    (h : depth ≤ limit → ∀ winner, call (.category depth winner) = call' (.category depth winner)) :
    performScan kb profile limit call depth question =
      performScan kb profile limit call' depth question := by
  unfold performScan
  by_cases hlimit : limit < depth
  · simp only [if_pos hlimit]
  · simp only [h (Nat.le_of_not_lt hlimit)]

/-- The text of a fragment depends on what is inside of it, and on the scans one level deeper if
it asks a question. -/
theorem performFragment_congr {fragment : Fragment}
    (hjoin : ∀ content ∈ fragment.joined, call (.join depth content) = call' (.join depth content))
    (hanswer : ∀ content ∈ fragment.answered,
      call (.answer depth content) = call' (.answer depth content))
    (hscan : fragment.redirects = true →
      ∀ question, call (.scan (depth + 1) question) = call' (.scan (depth + 1) question)) :
    performFragment profile call depth fragment = performFragment profile call' depth fragment := by
  cases fragment with
  | text | bot | get | star | lineBreak => rfl
  | set | onlyIf | recase | think | item | group | markup =>
    simp only [performFragment, hjoin _ (List.mem_singleton.2 rfl)]
  | starAnswer => simp only [performFragment, hscan rfl]
  | redirect question =>
    simp only [performFragment, hscan rfl, hjoin _ (List.mem_singleton.2 rfl)]
  | select name branches =>
    have hbranch : ∀ branch ∈ branches,
        call (.join depth branch.content) = call' (.join depth branch.content) :=
      fun branch hmem => hjoin _ (List.mem_map_of_mem hmem)
    simp only [performFragment]
    congr
    funext vars
    split
    · rename_i branch hfind
      rw [hbranch branch (List.mem_of_find?_eq_some hfind)]
    · rfl
  | firstOf branches =>
    have hbranch : ∀ branch ∈ branches,
        call (.answer depth branch.content) = call' (.answer depth branch.content) :=
      fun branch hmem => hanswer _ (List.mem_map_of_mem hmem)
    simp only [performFragment]
    congr
    funext vars
    split
    · rename_i branch hfind
      rw [hbranch branch (List.mem_of_find?_eq_some hfind)]
    · rfl
  | random alternatives =>
    have halternative : ∀ alternative ∈ alternatives,
        call (.answer depth alternative.asAlternative) =
          call' (.answer depth alternative.asAlternative) :=
      fun alternative hmem => hanswer _ (List.mem_map_of_mem hmem)
    simp only [performFragment]
    split
    · rfl
    · congr
      funext i
      split
      · rename_i alternative hget
        rw [halternative alternative (List.mem_of_getElem? hget)]
      · rfl

/-- What a call comes to depends on the calls that it makes. -/
theorem perform_congr {c : Call} (h : ∀ c', Makes limit c c' → call c' = call' c') :
    perform kb profile limit call c = perform kb profile limit call' c := by
  cases c with
  | scan depth question => exact performScan_congr fun hle winner => h _ (.category hle)
  | category depth winner => exact performCategory_congr (h _ .template)
  | answer depth fragments =>
    refine performAnswer_congr ?_ (h _ .join)
    rintro content rfl
    exact h _ .group
  | join depth fragments => exact performJoin_congr fun fragment hmem => h _ (.evaluate hmem)
  | evaluate depth fragment =>
    exact performFragment_congr (fun content hmem => h _ (.joined hmem))
      (fun content hmem => h _ (.answered hmem)) fun hredirects question => h _ (.scan hredirects)

end Congruence

/-! ## Chains of calls -/

/-- The levels that are left for a call.  A scan within the limit has more of them left than the
evaluation that it leads to, and this one more than the next scan. -/
def levelsLeft (limit : Nat) : Call → Nat
  | scan depth _ => if depth ≤ limit then 2 * (limit - depth) + 2 else 0
  | category depth _ => 2 * (limit - depth) + 1
  | answer depth _ => 2 * (limit - depth) + 1
  | join depth _ => 2 * (limit - depth) + 1
  | evaluate depth _ => 2 * (limit - depth) + 1

/-- The size of the part of a template that a call walks through, with room for the calls that
are for the same part. -/
noncomputable def partSize : Call → Nat
  | scan _ _ => 0
  | category _ winner => 2 * sizeOf winner.category.template + 2
  | answer _ fragments => 2 * sizeOf fragments + 1
  | join _ fragments => 2 * sizeOf fragments
  | evaluate _ fragment => 2 * sizeOf fragment

/-- A call has fewer levels left than the call that makes it, or as many of them and a smaller
part of the template. -/
theorem Makes.descends {c c' : Call} (h : Makes limit c c') :
    Prod.Lex (· < ·) (· < ·) (c'.levelsLeft limit, c'.partSize)
      (c.levelsLeft limit, c.partSize) := by
  cases h with
  | category hle =>
    apply Prod.Lex.left
    simp only [levelsLeft, if_pos hle]
    omega
  | template =>
    apply Prod.Lex.right
    simp only [partSize]
    omega
  | group =>
    apply Prod.Lex.right
    simp only [partSize, List.cons.sizeOf_spec, Fragment.group.sizeOf_spec]
    omega
  | join =>
    apply Prod.Lex.right
    exact Nat.lt_succ_self _
  | evaluate hmem =>
    apply Prod.Lex.right
    have hlt := List.sizeOf_lt_of_mem hmem
    simp only [partSize]
    omega
  | joined hmem =>
    apply Prod.Lex.right
    have hlt := Fragment.sizeOf_lt_of_mem (.inl hmem)
    simp only [partSize]
    omega
  | answered hmem =>
    apply Prod.Lex.right
    have hlt := Fragment.sizeOf_lt_of_mem (.inr hmem)
    simp only [partSize]
    omega
  | scan =>
    apply Prod.Lex.left
    simp only [levelsLeft]
    split <;> omega

/-- Going on with fewer levels, or with as many of them and a smaller part, comes to an end. -/
theorem wellFounded_descends (limit : Nat) :
    WellFounded fun c' c : Call => Prod.Lex (· < ·) (· < ·)
      (c'.levelsLeft limit, c'.partSize) (c.levelsLeft limit, c.partSize) :=
  InvImage.wf (fun c : Call => (c.levelsLeft limit, c.partSize))
    (WellFounded.prod_lex Nat.lt_wfRel.wf Nat.lt_wfRel.wf)

/-- Every chain of calls ends. -/
theorem wellFounded_makes (limit : Nat) : WellFounded fun c' c => Makes limit c c' :=
  Subrelation.wf (fun h => Makes.descends h) (wellFounded_descends limit)

/-- The depth of the evaluation of a category. -/
def categoryDepth? : Call → Option Nat
  | category depth _ => some depth
  | _ => none

/-- The depth at which a category would be evaluated next. -/
def nextDepth : Call → Nat
  | scan depth _ => depth
  | category depth _ => depth + 1
  | answer depth _ => depth + 1
  | join depth _ => depth + 1
  | evaluate depth _ => depth + 1

/-- Along a chain of calls, categories are evaluated one level deeper each time, and within the
limit. -/
theorem categoryDepths_of_isChain {c : Call} {calls : List Call}
    (h : List.IsChain (Makes limit) (c :: calls)) :
    ∃ n, (n = 0 ∨ c.nextDepth + n ≤ limit + 1) ∧
      calls.filterMap categoryDepth? = List.range' c.nextDepth n := by
  induction calls generalizing c with
  | nil => exact ⟨0, .inl rfl, rfl⟩
  | cons c' calls ih =>
    rw [List.isChain_cons_cons] at h
    rcases ih h.2 with ⟨n, hle, hdepths⟩
    cases h.1 with
    | @category depth question winner hdepth =>
      refine ⟨n + 1, .inr ?_, ?_⟩
      · simp only [nextDepth] at hle ⊢
        omega
      · have hhead : (category depth winner).categoryDepth? = some depth := rfl
        rw [List.filterMap_cons_some hhead, hdepths, List.range'_succ]
        rfl
    | template | group | join | evaluate | joined | answered | scan => exact ⟨n, hle, hdepths⟩

/-! ## The walk through a template -/

/-- Whether one call makes another for the evaluation of the same category. -/
def MakesInside (limit : Nat) (c c' : Call) : Prop :=
  Makes limit c c' ∧ ∀ depth question, c' ≠ scan depth question

/-- The depth of a call inside the evaluation of a category. -/
def depthInside? : Call → Option Nat
  | scan _ _ => none
  | category depth _ => some depth
  | answer depth _ => some depth
  | join depth _ => some depth
  | evaluate depth _ => some depth

/-- The fragments that a call inside the evaluation of a category is for. -/
def fragments : Call → List Fragment
  | scan _ _ => []
  | category _ winner => winner.category.template
  | answer _ fragments => fragments
  | join _ fragments => fragments
  | evaluate _ fragment => [fragment]

/-- The fragments that calls inside an evaluation are for are those of the call that makes them,
or inside of these. -/
theorem part_of_makesInside {c : Call} {depth : Nat} {part : Fragment}
    (h : Relation.ReflTransGen (MakesInside limit) c (evaluate depth part))
    (hinside : c.depthInside? ≠ none) :
    c.depthInside? = some depth ∧
      ∃ whole ∈ c.fragments, Relation.ReflTransGen Fragment.IsPart part whole := by
  induction h using Relation.ReflTransGen.head_induction_on with
  | refl => exact ⟨rfl, part, List.mem_singleton.2 rfl, .refl⟩
  | head hfirst _ ih =>
    rcases hfirst with ⟨hmakes, hother⟩
    cases hmakes with
    | category => exact absurd rfl hinside
    | template => exact ih hinside
    | @group depth' content =>
      rcases ih hinside with ⟨hdepth, whole, hwhole, hpart⟩
      have hgroup : Fragment.IsPart whole (.group content) :=
        ⟨content, .inl (List.mem_singleton.2 rfl), hwhole⟩
      exact ⟨hdepth, .group content, List.mem_singleton.2 rfl, hpart.tail hgroup⟩
    | join => exact ih hinside
    | @evaluate depth' fragment fragments hmem =>
      rcases ih hinside with ⟨hdepth, whole, hwhole, hpart⟩
      cases List.mem_singleton.1 hwhole
      exact ⟨hdepth, fragment, hmem, hpart⟩
    | @joined depth' fragment content hmem =>
      rcases ih hinside with ⟨hdepth, whole, hwhole, hpart⟩
      exact ⟨hdepth, fragment, List.mem_singleton.2 rfl, hpart.tail ⟨content, .inl hmem, hwhole⟩⟩
    | @answered depth' fragment content hmem =>
      rcases ih hinside with ⟨hdepth, whole, hwhole, hpart⟩
      exact ⟨hdepth, fragment, List.mem_singleton.2 rfl, hpart.tail ⟨content, .inr hmem, hwhole⟩⟩
    | scan => exact absurd rfl (hother _ _)

end Call
end Dialogue
