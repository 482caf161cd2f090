import Dialogue.Proofs.Choice
import Dialogue.Proofs.Resolution.Answers
import Dialogue.Proofs.Text.Markup

/-!
# Answers and texts of fragments

A list of fragments is evaluated for the text that it stands for, or for the answer that it gives.
For the answer, blank fragments are passed over before anything is evaluated, and a template that
stands alone is looked into, as often as it contains just another one, and is cleaned only at the
innermost level.  Neither makes a difference: blanks have no effects and leave nothing when they
are cleaned, and a text that has been cleaned stays as it is when it is cleaned again.

Main results:

- Theorem `respond_eq_evaluate`: fragments answer with the text that they stand for.
- Theorem `respond_agrees_evaluate`: so both evaluations end in the same state.
-/

namespace Dialogue

/-! ## Blank fragments -/

/-- Nothing is left of a blank text. -/
theorem Text.clean_of_isBlankText {s : String} (hblank : isBlankText s.toList = true) :
    clean s = "" := by
  have hrest : isBlankText (dropReturns s.toList) = true := by
    rw [isBlankText, List.all_eq_true] at hblank ⊢
    intro c hc
    exact hblank c (mem_of_mem_dropReturns hc)
  rw [clean, cleanChars, trim_eq_nil_iff.2 hrest, String.ofList_nil]

/-- A blank fragment is a text. -/
theorem Fragment.exists_text_of_isBlank {fragment : Fragment} (hblank : fragment.isBlank = true) :
    ∃ content, fragment = .text content ∧ Text.isBlankText content.toList = true := by
  cases fragment with
  | text content => exact ⟨content, rfl, hblank⟩
  | _ => cases hblank

/-- Blank fragments are joined to a blank text, and nothing else happens. -/
theorem concatenate_of_isBlank (setting : Setting) {fragments : List Fragment}
    (hblank : fragments.all Fragment.isBlank = true) :
    ∃ joined : String, Text.isBlankText joined.toList = true ∧
      concatenate setting fragments = pure joined := by
  induction fragments with
  | nil => exact ⟨"", rfl, by rw [concatenate]⟩
  | cons fragment fragments ih =>
    rw [List.all_cons, Bool.and_eq_true] at hblank
    obtain ⟨content, rfl, hcontent⟩ := Fragment.exists_text_of_isBlank hblank.1
    obtain ⟨joined, hjoined, hrest⟩ := ih hblank.2
    refine ⟨content ++ joined, ?_, ?_⟩
    · rw [String.toList_append, Text.isBlankText, List.all_append, Bool.and_eq_true]
      exact ⟨hcontent, hjoined⟩
    · rw [concatenate, hrest, evaluateFragment, pure_bind, pure_bind]

/-- Blank fragments stand for the empty text. -/
theorem evaluate_of_isBlank (setting : Setting) {fragments : List Fragment}
    (hblank : fragments.all Fragment.isBlank = true) : evaluate setting fragments = pure "" := by
  obtain ⟨joined, hjoined, hconcatenate⟩ := concatenate_of_isBlank setting hblank
  rw [evaluate, hconcatenate, map_pure, Text.clean_of_isBlankText hjoined]

/-! ## Templates that stand alone -/

/-- A template that stands alone stands for the text of its content. -/
theorem evaluate_group (setting : Setting) (content : List Fragment) :
    evaluate setting [.group content] = evaluate setting content := by
  simp only [evaluate, concatenate, evaluateFragment, pure_bind, String.append_empty, bind_pure,
    Functor.map_map, Text.clean_clean]

/-! ## Both evaluations -/

/-- Fragments answer with the text that they stand for, and give no answer if it is empty; the
two evaluations are the same but for that. -/
theorem respond_eq_evaluate (setting : Setting) (fragments : List Fragment) :
    respond setting fragments = answerOf <$> evaluate setting fragments := by
  rw [respond_eq]
  split
  · rename_i content
    rw [evaluate_group]
    exact respond_eq_evaluate setting content
  · cases hblank : fragments.all Fragment.isBlank with
    | true =>
      rw [if_pos rfl, evaluate_of_isBlank setting hblank, map_pure, answerOf, if_pos rfl]
    | false => simp only [Bool.false_eq_true, if_false, evaluate, Functor.map_map]
termination_by sizeOf fragments

/-- Whatever the fragments, where they stand, the captures that are left, the conversation, the
counters and the draws, and whether the limit has been exceeded: fragments give a text as their
answer exactly if it is not empty and is the text that they stand for, they give no answer exactly
if they stand for the empty text, and both evaluations leave the same captures, the same request
and the same draws. -/
theorem respond_agrees_evaluate (setting : Setting) (fragments : List Fragment) (frame : Frame)
    (draws : Draws) :
    let responded := ((respond setting fragments).run frame).follow draws
    let evaluated := ((evaluate setting fragments).run frame).follow draws
    (∀ text, responded.1.1 = some text ↔ evaluated.1.1 = text ∧ text ≠ "") ∧
      (responded.1.1 = none ↔ evaluated.1.1 = "") ∧
      responded.1.2 = evaluated.1.2 ∧ responded.2 = evaluated.2 := by
  intro responded evaluated
  have hrun : (respond setting fragments).run frame =
      (evaluate setting fragments).run frame >>= fun out => pure (answerOf out.1, out.2) := by
    rw [respond_eq_evaluate, StateT.run_map, map_eq_pure_bind]
  have hresponded : responded = ((answerOf evaluated.1.1, evaluated.1.2), evaluated.2) := by
    simp only [responded, hrun]
    exact Choice.follow_bind_pure _ _ draws
  rw [hresponded]
  refine ⟨fun text => ?_, answerOf_eq_none_iff, rfl, rfl⟩
  rw [← Option.mem_def, mem_answerOf_iff]
  constructor
  · rintro ⟨rfl, hne⟩
    exact ⟨rfl, hne⟩
  · rintro ⟨rfl, hne⟩
    exact ⟨rfl, hne⟩

-- A template in a template that says nothing, next to a line break: no answer, but the variable
-- has been bound.
example :
    let setting : Setting := ⟨.empty, 0, fun _ => pure ""⟩
    let frame : Frame := ⟨["Ann"], { conversation := .start .empty }⟩
    let thought : List Fragment := [.text " ", .think [.set "name" [.star]], .text "\r\n"]
    let responded :=
      (((respond setting [.group [.group thought]]).run frame).follow ⟨fun _ => 0, 0⟩).1
    responded.1 = none ∧ responded.2.request.conversation.vars.get? "name" = some "Ann" := by
  decide +kernel

end Dialogue
