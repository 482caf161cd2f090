import Dialogue.Proofs.Resolution.Guarded

/-!
# Answers of fragments

What a list of fragments answers is said by one equation, and so is what one of several
alternatives answers, and the first branch that is taken.

Main results:

- Theorem `respond_eq`: fragments answer what the single template inside does, or their joined
  texts.
- Theorem `respondAt_eq`: an alternative answers like a template with its content.
- Theorem `respondFirst_eq`, `evaluateFirst_eq`: so does the first branch that is taken.
-/

namespace Dialogue

/-! ## Texts as answers -/

/-- A text is the answer unless it is empty. -/
theorem mem_answerOf_iff {text given : String} :
    given ∈ answerOf text ↔ given = text ∧ text ≠ "" := by
  unfold answerOf
  split
  · simp_all
  · simp_all [eq_comm]

/-- There is no answer exactly if the text is empty. -/
theorem answerOf_eq_none_iff {text : String} : answerOf text = none ↔ text = "" := by
  unfold answerOf
  split
  · simp_all
  · simp_all

/-! ## Answers of fragments -/

/-- What is answered when an alternative is chosen: the content of a list item, and any other
fragment as it stands. -/
def Fragment.asAlternative : Fragment → List Fragment
  | .item content => content
  | fragment => [fragment]

variable (setting : Setting)

/-- What fragments answer: the answer of a single template inside, and otherwise their joined
text, unless they are all blank. -/
theorem respond_eq (fragments : List Fragment) :
    respond setting fragments =
      match fragments with
      | [.group content] => respond setting content
      | fragments =>
        if fragments.all Fragment.isBlank then pure none
        else (answerOf <| Text.clean ·) <$> concatenate setting fragments := by
  cases fragments with
  | nil => rfl
  | cons fragment fragments =>
    split
    · rename_i content heq
      rw [heq, respond]
    · rename_i hother
      have hsingle : ∀ content, fragment = .group content → fragments = [] → False := by
        rintro content rfl rfl
        exact hother content rfl
      rw [respond_cons setting hsingle, List.all_cons]
      cases fragment.isBlank && fragments.all Fragment.isBlank with
      | true => rfl
      | false => simp only [concatenate, map_bind, map_pure]

/-- An alternative is answered like a template with its content. -/
theorem respondAt_eq (alternatives : List Fragment) (i : Nat) :
    respondAt setting alternatives i =
      match alternatives[i]? with
      | some alternative => respond setting alternative.asAlternative
      | none => pure none := by
  induction alternatives generalizing i with
  | nil =>
    rw [respondAt, List.getElem?_nil]
  | cons alternative alternatives ih =>
    cases i with
    | succ i => rw [respondAt, ih, List.getElem?_cons_succ]
    | zero =>
      rw [List.getElem?_cons_zero]
      by_cases hitem : ∃ content, alternative = .item content
      · rcases hitem with ⟨content, rfl⟩
        rw [respondAt]
        rfl
      by_cases hgroup : ∃ content, alternative = .group content
      · rcases hgroup with ⟨content, rfl⟩
        rw [respondAt]
        simp only [Fragment.asAlternative, respond]
      have hitem' : ∀ content, alternative = .item content → False :=
        fun content heq => hitem ⟨content, heq⟩
      have hgroup' : ∀ content, alternative = .group content → False :=
        fun content heq => hgroup ⟨content, heq⟩
      have hsame : alternative.asAlternative = [alternative] := by
        unfold Fragment.asAlternative
        split
        · exact absurd rfl (hitem' _)
        · rfl
      rw [respondAt_zero setting _ hitem' hgroup']
      simp only
      rw [hsame, respond_cons setting fun content heq _ => hgroup' content heq]
      simp only [List.all_nil, Bool.and_true, concatenate, pure_bind, String.append_empty]

/-- The first branch that is taken answers like a template with its content. -/
theorem respondFirst_eq (isTaken : Branch → Bool) (branches : List Branch) :
    respondFirst setting isTaken branches =
      match branches.find? isTaken with
      | some branch => respond setting branch.content
      | none => pure none := by
  induction branches with
  | nil => rw [respondFirst, List.find?_nil]
  | cons branch branches ih =>
    rcases branch with ⟨name, value, content⟩
    rw [respondFirst, List.find?_cons]
    cases isTaken (.mk name value content) with
    | true => rfl
    | false => exact ih

/-- The first branch that is taken stands for the text of its content. -/
theorem evaluateFirst_eq (isTaken : Branch → Bool) (branches : List Branch) :
    evaluateFirst setting isTaken branches =
      match branches.find? isTaken with
      | some branch => Text.clean <$> concatenate setting branch.content
      | none => pure "" := by
  induction branches with
  | nil => rw [evaluateFirst, List.find?_nil]
  | cons branch branches ih =>
    rcases branch with ⟨name, value, content⟩
    rw [evaluateFirst, List.find?_cons]
    cases isTaken (.mk name value content) with
    | true => rfl
    | false => exact ih

end Dialogue
