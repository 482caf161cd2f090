import Dialogue.Proofs.Resolution.Responses

/-!
# Conditions

A condition has branches that each name a variable of their own, or branches whose values are
compared with one variable, or a value and a content only.  The first form looks for an answer of
its branch, and the others evaluate it as it stands.  All three are one condition: the first branch
that has no value, or whose value is that of its variable, is evaluated, and no other branch has a
part in it.

Main results:

- Theorem `evaluateFragment_firstOf`, `evaluateFragment_select`, `evaluateFragment_onlyIf`: each
  form evaluates one branch.
- Theorem `conditions_agree`: the three forms are one condition.
-/

namespace Dialogue

/-! ## Branches -/

namespace Branch

/-- Whether a branch has no value, or the value of a variable. -/
def agrees (vars : Bindings) (name : Option String) (branch : Branch) : Bool :=
  branch.isDefault || name.any (branch.value == vars.get? ·)

/-- The branch with the name of another variable. -/
def named (name : String) (branch : Branch) : Branch := .mk name branch.value branch.content

@[simp] theorem name_named (name : String) (branch : Branch) :
    (branch.named name).name = some name := rfl

@[simp] theorem content_named (name : String) (branch : Branch) :
    (branch.named name).content = branch.content := rfl

/-- Whether a branch agrees with a variable does not depend on its own name. -/
@[simp] theorem agrees_named (vars : Bindings) (other : Option String) (name : String)
    (branch : Branch) : (branch.named name).agrees vars other = branch.agrees vars other := rfl

/-- A branch with a variable of its own is taken if it agrees with this variable. -/
theorem holds_eq_agrees (vars : Bindings) (branch : Branch) :
    branch.holds vars = branch.agrees vars branch.name := by
  rcases branch with ⟨_ | name, _ | value, content⟩
  · rfl
  · rfl
  · rfl
  · exact Bool.beq_comm

/-- A branch that is compared with a variable is taken if it agrees with this variable. -/
theorem holdsOf_eq_agrees (vars : Bindings) (name : String) :
    holdsOf vars name = agrees vars (some name) := by
  funext branch
  rcases branch with ⟨own, _ | value, content⟩
  · rfl
  · exact Bool.beq_comm

/-- A branch with a value agrees with the variables that have this value. -/
theorem agrees_mk_some {vars : Bindings} {name value : String} {own : Option String}
    {content : List Fragment} :
    (mk own (some value) content).agrees vars (some name) = true ↔
      vars.get? name = some value := by
  rw [← holdsOf_eq_agrees]
  exact beq_iff_eq

/-- The branch that is found does not depend on its own name if only one variable counts. -/
theorem find?_map_named (vars : Bindings) (name : String) (branches : List Branch) :
    (branches.map (named name)).find? (fun branch => branch.agrees vars branch.name) =
      (branches.find? (agrees vars (some name))).map (named name) := by
  rw [List.find?_map]
  rfl

end Branch

/-! ## Evaluation of one branch -/

variable (setting : Setting)

/-- The text of the branch that is taken, or nothing. -/
def evaluateTaken : Option Branch → Evaluation String
  | some branch => evaluate setting branch.content
  | none => pure ""

/-- A branch is evaluated in the frame as it is, and without one nothing happens. -/
theorem run_evaluateTaken (taken : Option Branch) (frame : Frame) :
    (evaluateTaken setting taken).run frame =
      match taken with
      | some branch => (evaluate setting branch.content).run frame
      | none => pure ("", frame) := by
  cases taken <;> rfl

/-- What depends on the variables is evaluated with those of the frame. -/
theorem run_vars_bind {α : Type} (next : Bindings → Evaluation α) (frame : Frame) :
    (Evaluation.vars >>= next).run frame = (next frame.request.conversation.vars).run frame :=
  rfl

/-- The name of a branch plays no part in its evaluation. -/
@[simp] theorem evaluateTaken_map_named (name : String) (taken : Option Branch) :
    evaluateTaken setting (taken.map (Branch.named name)) = evaluateTaken setting taken := by
  cases taken <;> rfl

/-- What stands for no answer is the empty text. -/
theorem getD_answerOf (text : String) : (answerOf text).getD "" = text := by
  unfold answerOf
  split
  · rename_i hempty
    exact hempty.symm
  · rfl

/-- Fragments stand for their answer, and for the empty text if they have none. -/
theorem getD_respond (fragments : List Fragment) :
    (·.getD "") <$> respond setting fragments = evaluate setting fragments := by
  rw [respond_eq_evaluate, Functor.map_map]
  simp only [getD_answerOf, id_map']

/-! ## The three forms -/

/-- A condition with a variable for each branch evaluates the first branch that agrees with its
own. -/
theorem evaluateFragment_firstOf (branches : List Branch) :
    evaluateFragment setting (.firstOf branches) = (do
      let vars ← Evaluation.vars
      evaluateTaken setting (branches.find? fun branch => branch.agrees vars branch.name)) := by
  rw [evaluateFragment]
  congr 1
  funext vars
  simp only [respondFirst_eq, ← Branch.holds_eq_agrees, bind_pure_comp]
  cases branches.find? (Branch.holds vars) with
  | none => rw [map_pure]; rfl
  | some branch => exact getD_respond setting branch.content

/-- A condition on one variable evaluates the first branch that agrees with it. -/
theorem evaluateFragment_select (name : String) (branches : List Branch) :
    evaluateFragment setting (.select name branches) = (do
      let vars ← Evaluation.vars
      evaluateTaken setting (branches.find? (Branch.agrees vars (some name)))) := by
  rw [evaluateFragment]
  congr 1
  funext vars
  rw [evaluateFirst_eq, Branch.holdsOf_eq_agrees]
  cases branches.find? (Branch.agrees vars (some name)) <;> rfl

/-- A condition on a variable and a value has one branch. -/
theorem evaluateFragment_onlyIf (name value : String) (content : List Fragment)
    (own : Option String) :
    evaluateFragment setting (.onlyIf name value content) =
      evaluateFragment setting (.select name [.mk own value content]) := by
  rw [evaluateFragment_select, evaluateFragment]
  congr 1
  funext vars
  by_cases hvalue : vars.get? name = some value
  · rw [if_pos hvalue, List.find?_cons_of_pos (Branch.agrees_mk_some.2 hvalue)]
    rfl
  · rw [if_neg hvalue, List.find?_cons_of_neg (mt Branch.agrees_mk_some.1 hvalue)]
    rfl

/-- The three forms of a condition agree, whatever the branches, where they stand, the captures
that are left, the conversation, the counters and the draws: a condition on one variable is a
condition whose branches all name it, and a condition on a variable and a value has one branch.
In each form the first branch that has no value, or the value of its variable, is evaluated in the
frame as it is, and nothing else happens. -/
theorem conditions_agree (name value : String) (content : List Fragment)
    (branches : List Branch) :
    evaluateFragment setting (.select name branches) =
        evaluateFragment setting (.firstOf (branches.map (Branch.named name))) ∧
      (∀ own, evaluateFragment setting (.onlyIf name value content) =
        evaluateFragment setting (.select name [.mk own value content])) ∧
      evaluateFragment setting (.onlyIf name value content) =
        evaluateFragment setting (.firstOf [.mk name value content]) ∧
      ∀ frame : Frame,
        let vars := frame.request.conversation.vars
        (evaluateFragment setting (.firstOf branches)).run frame =
            (match branches.find? fun branch => branch.agrees vars branch.name with
            | some branch => (evaluate setting branch.content).run frame
            | none => pure ("", frame)) ∧
          (evaluateFragment setting (.select name branches)).run frame =
            (match branches.find? (Branch.agrees vars (some name)) with
            | some branch => (evaluate setting branch.content).run frame
            | none => pure ("", frame)) ∧
          (evaluateFragment setting (.onlyIf name value content)).run frame =
            if vars.get? name = some value then (evaluate setting content).run frame
            else pure ("", frame) := by
  have hselect (branches : List Branch) : evaluateFragment setting (.select name branches) =
      evaluateFragment setting (.firstOf (branches.map (Branch.named name))) := by
    rw [evaluateFragment_select, evaluateFragment_firstOf]
    simp only [Branch.find?_map_named, evaluateTaken_map_named]
  refine ⟨hselect branches, evaluateFragment_onlyIf setting name value content, ?_, ?_⟩
  · exact (evaluateFragment_onlyIf setting name value content none).trans (hselect _)
  intro frame vars
  refine ⟨?_, ?_, ?_⟩
  · rw [evaluateFragment_firstOf, run_vars_bind, run_evaluateTaken]
  · rw [evaluateFragment_select, run_vars_bind, run_evaluateTaken]
  · rw [evaluateFragment, run_vars_bind]
    split <;> rfl

end Dialogue
