import Dialogue.Proofs.Category.Grouping
import Dialogue.Proofs.Resolution.Guarded
import Dialogue.Proofs.Text.Markup
import Dialogue.Proofs.Text.Seams

/-!
# Line breaks in templates

A line break of a rule source counts as a space, together with the blanks around it.  Nothing but
blanks is lost by that, and no line feed is left, whatever stands around the line breaks: several of
them in a row, carriage returns, or blanks that are no spaces.  All texts of a template are treated
in this way, so that the layout of a source does not come into an answer.

Main results:

- Theorem `not_mem_collapseBreaks`: no line feed is left.
- Theorem `visible_collapseBreaks`: the characters that are not blank stay as they are.
- Theorem `unbroken_fragmentsOf`: no text in a template has a line feed.
- Theorem `line_breaks_collapsed`: the laws of texts, and what they say of categories.
-/

namespace Dialogue

open Markup

/-! ## Texts without line breaks -/

namespace Text

/-- The characters of a text that are not blank. -/
def visible (s : List Char) : List Char := s.filter (!isBlank ·)

/-- A character is visible unless it is blank. -/
theorem visible_cons (c : Char) (s : List Char) :
    visible (c :: s) = if isBlank c then visible s else c :: visible s := by
  rw [visible, List.filter_cons]
  cases isBlank c <;> rfl

/-- No line feed is left. -/
theorem not_mem_collapseBreaks (skipping : Bool) (s : List Char) :
    '\n' ∉ collapseBreaks skipping s := by
  induction s generalizing skipping with
  | nil => exact List.not_mem_nil
  | cons c s ih =>
    rw [collapseBreaks]
    split
    · exact ih true
    · split
      · exact List.not_mem_cons_of_ne_of_not_mem (by decide) (ih true)
      · rename_i hbreak
        -- A line feed begins a line break whatever comes after it.
        have hc : '\n' ≠ c := by
          rintro rfl
          exact hbreak rfl
        exact List.not_mem_cons_of_ne_of_not_mem hc (ih false)

/-- The characters that are not blank stay, in their order. -/
theorem visible_collapseBreaks (skipping : Bool) (s : List Char) :
    visible (collapseBreaks skipping s) = visible s := by
  induction s generalizing skipping with
  | nil => rfl
  | cons c s ih =>
    rw [collapseBreaks]
    split
    · rename_i hskip
      rw [Bool.and_eq_true] at hskip
      rw [ih true, visible_cons, if_pos hskip.2]
    · split
      · rename_i hbreak
        -- A line break begins with a blank, and a space takes its place.
        rw [visible_cons, visible_cons, if_pos isBlank_space,
          if_pos (isBlank_of_startsBreak hbreak), ih true]
      · rw [visible_cons, visible_cons, ih false]

/-- No line feed is left of a text. -/
theorem lacks_collapseLineBreaks (t : String) : Lacks '\n' (collapseLineBreaks t) := by
  rw [Lacks, collapseLineBreaks, String.toList_ofList]
  exact not_mem_collapseBreaks false t.toList

/-- A text is left alone exactly if it has no line feed. -/
theorem collapseLineBreaks_eq_self_iff {t : String} :
    collapseLineBreaks t = t ↔ Lacks '\n' t := by
  constructor
  · intro h
    rw [← h]
    exact lacks_collapseLineBreaks t
  · intro h
    rw [collapseLineBreaks, collapseBreaks_of_not_mem h, String.ofList_toList]

end Text

open Text

/-! ## Templates without line breaks -/

/-- Whether a fragment, apart from those inside of it, is no text with a line feed. -/
def Fragment.isUnbroken : Fragment → Bool
  | .text content => decide (Lacks '\n' content)
  | _ => true

mutual

/-- No text in the fragment that an element is has a line feed. -/
theorem unbroken_ofElement :
    ∀ element : Element, (Fragment.ofElement element).every Fragment.isUnbroken = true
  | .mk tag attributes children => by
    have hcontent := unbroken_fragmentsOf children
    have halternatives := unbroken_elementFragmentsOf children
    have hbranches := unbroken_branchesOf children
    simp only [Fragment.ofElement]
    cases TagMeaning.ofName tag with
    | bot | get | star | starAnswer | lineBreak => rfl
    | random => simp only [Fragment.every, Fragment.isUnbroken, halternatives, Bool.and_self]
    | set | redirect | think | item | group | recase | unknown =>
      simp only [Fragment.every, Fragment.isUnbroken, hcontent, Bool.and_self]
    | condition =>
      simp only
      split
      · simp only [Fragment.every, Fragment.isUnbroken, hcontent, Bool.and_self]
      · simp only [Fragment.every, Fragment.isUnbroken, hbranches, Bool.and_self]
      · simp only [Fragment.every, Fragment.isUnbroken, hbranches, Bool.and_self]

/-- No text in a template has a line feed, at any depth. -/
theorem unbroken_fragmentsOf :
    ∀ nodes : List Node, Fragment.everyOf Fragment.isUnbroken (fragmentsOf nodes) = true
  | [] => by rw [fragmentsOf, Fragment.everyOf]
  | .text content :: nodes => by
    have hcontent : Fragment.isUnbroken (.text (collapseLineBreaks content)) = true :=
      decide_eq_true (lacks_collapseLineBreaks content)
    rw [fragmentsOf, Fragment.everyOf, Fragment.every, hcontent, unbroken_fragmentsOf nodes,
      Bool.and_self]
  | .element element :: nodes => by
    rw [fragmentsOf, Fragment.everyOf, unbroken_ofElement element, unbroken_fragmentsOf nodes,
      Bool.and_self]

/-- No text in an alternative has a line feed. -/
theorem unbroken_elementFragmentsOf :
    ∀ nodes : List Node, Fragment.everyOf Fragment.isUnbroken (elementFragmentsOf nodes) = true
  | [] => by rw [elementFragmentsOf, Fragment.everyOf]
  | .text _ :: nodes => by
    rw [elementFragmentsOf]
    exact unbroken_elementFragmentsOf nodes
  | .element element :: nodes => by
    rw [elementFragmentsOf, Fragment.everyOf, unbroken_ofElement element,
      unbroken_elementFragmentsOf nodes, Bool.and_self]

/-- No text in a branch of a condition has a line feed. -/
theorem unbroken_branchesOf :
    ∀ nodes : List Node, Branch.everyOf Fragment.isUnbroken (branchesOf nodes) = true
  | [] => by rw [branchesOf, Branch.everyOf]
  | .text _ :: nodes => by
    rw [branchesOf]
    exact unbroken_branchesOf nodes
  | .element (.mk tag attributes children) :: nodes => by
    rw [branchesOf]
    split
    · rw [Branch.everyOf, unbroken_fragmentsOf children, unbroken_branchesOf nodes, Bool.and_self]
    · exact unbroken_branchesOf nodes

end

/-! ## Categories without line breaks -/

/-- No text in the template of a category has a line feed. -/
theorem Category.unbroken_of_ofElement? {element : Element} {category : Category}
    (h : Category.ofElement? element = some category) :
    Fragment.everyOf Fragment.isUnbroken category.template = true := by
  obtain ⟨pattern, -, rfl⟩ := Option.map_eq_some_iff.1 h
  cases htemplate : element.child? "template" with
  | none => rfl
  | some template => exact unbroken_fragmentsOf template.children

/-- No text in a category of a document has a line feed. -/
theorem unbroken_of_mem_categoriesIn {document : Element} {category : Category}
    (h : category ∈ categoriesIn document) :
    Fragment.everyOf Fragment.isUnbroken category.template = true := by
  rw [categoriesIn_eq] at h
  obtain ⟨place, -, hcategory⟩ := List.mem_filterMap.1 h
  exact Category.unbroken_of_ofElement? hcategory

/-- Collapsing the line breaks of a text leaves no line feed and loses no character but blanks; it
leaves a text alone exactly if there is no line feed in it, so that nothing changes when it is done
a second time.  Hence no text of any category of a document has a line feed, however deep it is in
the template, and whether it is written as plain text or as a CDATA section, which are both texts
of the document. -/
theorem line_breaks_collapsed :
    (∀ t : String,
      Lacks '\n' (collapseLineBreaks t) ∧
      visible (collapseLineBreaks t).toList = visible t.toList ∧
      (collapseLineBreaks t = t ↔ Lacks '\n' t) ∧
      collapseLineBreaks (collapseLineBreaks t) = collapseLineBreaks t) ∧
    ∀ document : Element, ∀ category ∈ categoriesIn document,
      Fragment.everyOf Fragment.isUnbroken category.template = true := by
  refine ⟨fun t => ⟨lacks_collapseLineBreaks t, ?_, collapseLineBreaks_eq_self_iff, ?_⟩,
    fun document category => unbroken_of_mem_categoriesIn⟩
  · rw [collapseLineBreaks, String.toList_ofList]
    exact visible_collapseBreaks false t.toList
  · exact collapseLineBreaks_eq_self_iff.2 (lacks_collapseLineBreaks t)

/-- A document whose only category answers with a text of two lines. -/
def twoLines : Element :=
  .mk "" [] [.element (.mk "category" [] [
    .element (.mk "pattern" [] [.text "HI"]),
    .element (.mk "template" [] [.element (.mk "random" [] [
      .element (.mk "li" [] [.text "Hello \t\r\n\n there"])])])])]

/-- The category of the document. -/
def oneLine : Category where
  pattern := ⟨[.text "HI"]⟩
  that := none
  template := [.random [.item [.text "Hello there"]]]

/-- The text of the category is written on one line. -/
theorem line_breaks_collapsed_twoLines :
    oneLine ∈ categoriesIn twoLines ∧
      Fragment.everyOf Fragment.isUnbroken oneLine.template = true := by
  have hmem : oneLine ∈ categoriesIn twoLines := List.mem_singleton.2 rfl
  exact ⟨hmem, line_breaks_collapsed.2 twoLines oneLine hmem⟩

end Dialogue
