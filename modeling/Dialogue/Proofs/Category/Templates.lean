import Dialogue.Proofs.Markup.Halves
import Dialogue.Proofs.Markup.Insertion
import Dialogue.Proofs.Resolution.Answers
import Mathlib.Data.List.Forall2

/-!
# Templates with a remark in their source

A remark in the source of a template makes two fragments of a text.  They stand for the same as
the one, unless the remark is next to a line break, and for the value of a variable unless it
parts a wildcard from other text.  So does the element that they are in, and every element around
it, up to the template.

Main results:

- Theorem `Fragment.AlikeAll.middle`: fragments that cannot be told apart can be exchanged.
- Theorem `Fragment.alike_ofElement`: so can elements whose contents cannot be told apart.
- Theorem `alike_of_differs`: a remark that is not noticed leaves every template alone.
-/

namespace Dialogue

open Text Markup

/-! ## Fragments that cannot be told apart -/

namespace Fragment

/-- Lists of fragments that stand for the same text and give the same answer. -/
structure AlikeAll (fragments fragments' : List Fragment) : Prop where
  join : ∀ setting, concatenate setting fragments = concatenate setting fragments'
  answer : ∀ setting, respond setting fragments = respond setting fragments'

/-- Fragments that stand for the same wherever they are in a template. -/
structure Alike (fragment fragment' : Fragment) : Prop where
  evaluate : ∀ setting, evaluateFragment setting fragment = evaluateFragment setting fragment'
  alone : ∀ setting, respond setting [fragment] = respond setting [fragment']
  alternative : ∀ setting,
    respond setting fragment.asAlternative = respond setting fragment'.asAlternative
  isBlank : fragment.isBlank = fragment'.isBlank
  takesCapture : fragment.takesCapture = fragment'.takesCapture

/-- A fragment cannot be told apart from itself. -/
theorem Alike.refl (fragment : Fragment) : Alike fragment fragment :=
  ⟨fun _ => rfl, fun _ => rfl, fun _ => rfl, rfl, rfl⟩

instance : Std.Refl Alike := ⟨Alike.refl⟩

/-- Fragments cannot be told apart from themselves. -/
theorem AlikeAll.refl (fragments : List Fragment) : AlikeAll fragments fragments :=
  ⟨fun _ => rfl, fun _ => rfl⟩

end Fragment

/-- Branches with the same condition and contents that cannot be told apart. -/
structure Branch.Alike (branch branch' : Branch) : Prop where
  name : branch.name = branch'.name
  value : branch.value = branch'.value
  content : Fragment.AlikeAll branch.content branch'.content

/-- A branch cannot be told apart from itself. -/
theorem Branch.Alike.refl (branch : Branch) : Branch.Alike branch branch :=
  ⟨rfl, rfl, .refl _⟩

instance : Std.Refl Branch.Alike := ⟨Branch.Alike.refl⟩

section Lists

variable (setting : Setting)

/-- Texts of two lists of fragments are joined one after the other. -/
theorem concatenate_append (fragments later : List Fragment) :
    concatenate setting (fragments ++ later) = do
      let text ← concatenate setting fragments
      let rest ← concatenate setting later
      return text ++ rest := by
  induction fragments with
  | nil => simp only [List.nil_append, concatenate, pure_bind, String.empty_append, bind_pure]
  | cons fragment fragments ih =>
    simp only [List.cons_append, concatenate, ih, bind_assoc, pure_bind, String.append_assoc]

/-- Fragments that are no single template answer their joined texts, unless they are all blank. -/
theorem respond_of_not_group {fragments : List Fragment}
    (h : ∀ content, fragments ≠ [.group content]) :
    respond setting fragments =
      if fragments.all Fragment.isBlank then pure none
      else (answerOf <| clean ·) <$> concatenate setting fragments := by
  rw [respond_eq]
  split
  · exact absurd rfl (h _)
  · rfl

end Lists

namespace Fragment

variable {fragment fragment' : Fragment} {content content' : List Fragment}

/-- Lists that differ in fragments that cannot be told apart cannot be told apart. -/
theorem AlikeAll.middle (h : Alike fragment fragment') (before after : List Fragment) :
    AlikeAll (before ++ fragment :: after) (before ++ fragment' :: after) := by
  have hjoin : ∀ setting, concatenate setting (before ++ fragment :: after) =
      concatenate setting (before ++ fragment' :: after) := by
    intro setting
    simp only [concatenate_append, concatenate, h.evaluate]
  refine ⟨hjoin, fun setting => ?_⟩
  by_cases halone : before = [] ∧ after = []
  · rcases halone with ⟨rfl, rfl⟩
    exact h.alone setting
  · have hmany : ∀ f content, before ++ f :: after ≠ [.group content] := by
      intro f content heq
      have hlength := congrArg List.length heq
      rw [List.length_append, List.length_cons, List.length_singleton] at hlength
      have hbefore : before.length = 0 := by omega
      have hafter : after.length = 0 := by omega
      exact halone ⟨List.length_eq_zero_iff.1 hbefore, List.length_eq_zero_iff.1 hafter⟩
    rw [respond_of_not_group setting (hmany fragment),
      respond_of_not_group setting (hmany fragment'), hjoin, List.all_append, List.all_append,
      List.all_cons, List.all_cons, h.isBlank]

/-- Two texts one after the other cannot be told apart from one text. -/
theorem AlikeAll.divide (front back : List Char) (before after : List Fragment) :
    AlikeAll (before ++ .text (String.ofList (front ++ back)) :: after)
      (before ++ .text (String.ofList front) :: .text (String.ofList back) :: after) := by
  have hjoin : ∀ setting, concatenate setting
      (before ++ .text (String.ofList (front ++ back)) :: after) = concatenate setting
        (before ++ .text (String.ofList front) :: .text (String.ofList back) :: after) := by
    intro setting
    simp only [concatenate_append, concatenate, evaluateFragment, String.ofList_append, pure_bind,
      bind_assoc, String.append_assoc]
  have hblank : (before ++ .text (String.ofList (front ++ back)) :: after).all Fragment.isBlank =
      (before ++ .text (String.ofList front) :: .text (String.ofList back) :: after).all
        Fragment.isBlank := by
    simp only [List.all_append, List.all_cons, isBlank_text, String.toList_ofList, isBlankText,
      Bool.and_assoc]
  have hother : ∀ text later content, before ++ Fragment.text text :: later ≠ [.group content] := by
    intro text later content heq
    have hmem : Fragment.text text ∈ [Fragment.group content] := by
      rw [← heq]
      exact List.mem_append_right before List.mem_cons_self
    cases List.mem_singleton.1 hmem
  refine ⟨hjoin, fun setting => ?_⟩
  rw [respond_of_not_group setting (hother _ _), respond_of_not_group setting (hother _ _), hjoin,
    hblank]

/-- Fragments that are neither list items nor templates cannot be told apart if they stand for the
same text. -/
theorem Alike.of_evaluate
    (hevaluate : ∀ setting, evaluateFragment setting fragment = evaluateFragment setting fragment')
    (hisBlank : fragment.isBlank = fragment'.isBlank)
    (htakesCapture : fragment.takesCapture = fragment'.takesCapture)
    (halternative : fragment.asAlternative = [fragment])
    (halternative' : fragment'.asAlternative = [fragment'])
    (hgroup : ∀ content, fragment ≠ .group content)
    (hgroup' : ∀ content, fragment' ≠ .group content) : Alike fragment fragment' := by
  have halone : ∀ setting, respond setting [fragment] = respond setting [fragment'] := by
    intro setting
    have hother : ∀ content, [fragment] ≠ [.group content] :=
      fun content heq => hgroup content (List.singleton_inj.1 heq)
    have hother' : ∀ content, [fragment'] ≠ [.group content] :=
      fun content heq => hgroup' content (List.singleton_inj.1 heq)
    have hblank : [fragment].all Fragment.isBlank = [fragment'].all Fragment.isBlank := by
      rw [List.all_cons, List.all_cons, hisBlank]
    have hjoin : concatenate setting [fragment] = concatenate setting [fragment'] := by
      simp only [concatenate, hevaluate]
    rw [respond_of_not_group setting hother, respond_of_not_group setting hother', hblank, hjoin]
  refine ⟨hevaluate, halone, fun setting => ?_, hisBlank, htakesCapture⟩
  rw [halternative, halternative']
  exact halone setting

/-- List items cannot be told apart if their contents cannot. -/
theorem Alike.item (h : AlikeAll content content') : Alike (.item content) (.item content') := by
  have hevaluate : ∀ setting, evaluateFragment setting (.item content) =
      evaluateFragment setting (.item content') := by
    intro setting
    rw [evaluateFragment, evaluateFragment, h.join]
  refine ⟨hevaluate, fun setting => ?_, h.answer, rfl, rfl⟩
  have hjoin : concatenate setting [.item content] = concatenate setting [.item content'] := by
    simp only [concatenate, hevaluate]
  rw [respond_of_not_group setting (by simp), respond_of_not_group setting (by simp), hjoin]
  rfl

/-- Templates inside of templates cannot be told apart if their contents cannot. -/
theorem Alike.group (h : AlikeAll content content') :
    Alike (.group content) (.group content') := by
  have halone : ∀ setting,
      respond setting [.group content] = respond setting [.group content'] := by
    intro setting
    rw [respond_eq setting [.group content], respond_eq setting [.group content']]
    exact h.answer setting
  refine ⟨fun setting => ?_, halone, halone, rfl, rfl⟩
  rw [evaluateFragment, evaluateFragment, h.join]

/-- Variables are bound to the same if the values cannot be told apart, and neither begins with a
mark for a capture unless the other one does. -/
theorem Alike.set (name : String) (h : AlikeAll content content')
    (hfirst : content.head?.map Fragment.takesCapture = content'.head?.map Fragment.takesCapture) :
    Alike (.set name content) (.set name content') := by
  refine .of_evaluate (fun setting => ?_) rfl rfl rfl rfl nofun nofun
  rw [evaluateFragment, evaluateFragment, h.join]
  cases hhead : content.head? with
  | none =>
    cases hhead' : content'.head? with
    | none => rfl
    | some first' => simp [hhead, hhead'] at hfirst
  | some first =>
    cases hhead' : content'.head? with
    | none => simp [hhead, hhead'] at hfirst
    | some first' =>
      have hsame : first.takesCapture = first'.takesCapture := by
        simpa [hhead, hhead'] using hfirst
      simp only [hsame]

/-- Choices between alternatives that cannot be told apart cannot be told apart. -/
theorem Alike.random {alternatives alternatives' : List Fragment}
    (h : List.Forall₂ Alike alternatives alternatives') :
    Alike (.random alternatives) (.random alternatives') := by
  refine .of_evaluate (fun setting => ?_) rfl rfl rfl rfl nofun nofun
  have hrespond : ∀ i, respondAt setting alternatives i = respondAt setting alternatives' i := by
    intro i
    rw [respondAt_eq, respondAt_eq]
    induction h generalizing i with
    | nil => rfl
    | cons hfirst _ ih =>
      cases i with
      | zero => exact hfirst.alternative setting
      | succ i => exact ih i
  rw [evaluateFragment, evaluateFragment, h.length_eq]
  simp only [hrespond]

/-- The first of several branches that is taken gives the same answer and the same text. -/
theorem first_alike {isTaken : Branch → Bool}
    (htaken : ∀ branch branch', Branch.Alike branch branch' → isTaken branch = isTaken branch')
    {branches branches' : List Branch} (h : List.Forall₂ Branch.Alike branches branches')
    (setting : Setting) :
    respondFirst setting isTaken branches = respondFirst setting isTaken branches' ∧
      evaluateFirst setting isTaken branches = evaluateFirst setting isTaken branches' := by
  induction h with
  | nil => exact ⟨rfl, rfl⟩
  | @cons branch branch' branches branches' hfirst _ ih =>
    simp only [respondFirst_eq, evaluateFirst_eq, List.find?_cons, htaken branch branch' hfirst]
      at ih ⊢
    cases isTaken branch' with
    | true => exact ⟨hfirst.content.answer setting, by simp only [hfirst.content.join setting]⟩
    | false => exact ih

/-- Whether a branch is taken does not depend on its content. -/
theorem holds_alike (vars : Bindings) {branch branch' : Branch} (h : Branch.Alike branch branch') :
    Branch.holds vars branch = Branch.holds vars branch' := by
  rw [Branch.holds, Branch.holds, h.name, h.value]

/-- Whether a branch is taken does not depend on its content. -/
theorem holdsOf_alike (vars : Bindings) (name : String) {branch branch' : Branch}
    (h : Branch.Alike branch branch') :
    Branch.holdsOf vars name branch = Branch.holdsOf vars name branch' := by
  rw [Branch.holdsOf, Branch.holdsOf, h.value]

/-- Conditions on branches that cannot be told apart cannot be told apart. -/
theorem Alike.firstOf {branches branches' : List Branch}
    (h : List.Forall₂ Branch.Alike branches branches') :
    Alike (.firstOf branches) (.firstOf branches') := by
  refine .of_evaluate (fun setting => ?_) rfl rfl rfl rfl nofun nofun
  have hfirst := fun vars => first_alike (fun _ _ hbranch => holds_alike vars hbranch) h setting
  simp only [evaluateFragment, hfirst]

/-- Conditions on branches that cannot be told apart cannot be told apart. -/
theorem Alike.select (name : String) {branches branches' : List Branch}
    (h : List.Forall₂ Branch.Alike branches branches') :
    Alike (.select name branches) (.select name branches') := by
  refine .of_evaluate (fun setting => ?_) rfl rfl rfl rfl nofun nofun
  have hfirst := fun vars =>
    first_alike (fun _ _ hbranch => holdsOf_alike vars name hbranch) h setting
  simp only [evaluateFragment, hfirst]

end Fragment

/-! ## Elements whose contents cannot be told apart -/

/-- Contents of elements that cannot be told apart, whatever the elements mean. -/
structure Content.Alike (children children' : List Node) : Prop where
  fragments : Fragment.AlikeAll (fragmentsOf children) (fragmentsOf children')
  alternatives : List.Forall₂ Fragment.Alike (elementFragmentsOf children)
    (elementFragmentsOf children')
  branches : List.Forall₂ Branch.Alike (branchesOf children) (branchesOf children')

/-- Elements with the same name and the same attributes, whose contents cannot be told apart, are
fragments that cannot. -/
theorem Fragment.alike_ofElement {name : String} (attributes : Attributes)
    {children children' : List Node} (h : Content.Alike children children')
    (hfirst : TagMeaning.ofName name = .set →
      (fragmentsOf children).head?.map Fragment.takesCapture =
        (fragmentsOf children').head?.map Fragment.takesCapture) :
    Fragment.Alike (Fragment.ofElement (.mk name attributes children))
      (Fragment.ofElement (.mk name attributes children')) := by
  have hjoin := h.fragments.join
  simp only [Fragment.ofElement]
  cases hmeaning : TagMeaning.ofName name with
  | bot | get | star | starAnswer | lineBreak => exact .refl _
  | set => exact .set _ h.fragments (hfirst hmeaning)
  | random => exact .random h.alternatives
  | item => exact .item h.fragments
  | group => exact .group h.fragments
  | redirect | think | recase | unknown =>
    refine .of_evaluate (fun setting => ?_) rfl rfl rfl rfl nofun nofun
    simp only [evaluateFragment, hjoin]
  | condition =>
    simp only
    split
    · refine .of_evaluate (fun setting => ?_) rfl rfl rfl rfl nofun nofun
      simp only [evaluateFragment, hjoin]
    · exact .select _ h.branches
    · exact .firstOf h.branches

/-! ## Remarks in a template -/

section Remarks

variable {s t : List Char}

/-- Whether a text stands for a capture when it is the value of a variable. -/
def isCaptureMark (s : List Char) : Bool :=
  (Fragment.text (String.ofList (prose s))).takesCapture

/-- Whether the first half of a text stands for a capture only if the whole text does, and the
other way round.  There is no first half if one half stands for nothing. -/
def KeepsCaptureMark (s t : List Char) : Prop :=
  prose s = [] ∨ prose t = [] ∨ isCaptureMark (s ++ t) = isCaptureMark s

instance : Decidable (KeepsCaptureMark s t) :=
  inferInstanceAs (Decidable (_ ∨ _ ∨ _))

/-- Behind a blank, a wildcard no longer is the first half of the text. -/
example : isCaptureMark [' ', '*'] = true ∧ ¬KeepsCaptureMark [' '] ['*'] := by decide

/-- The fragments of two lists of nodes come one after the other. -/
theorem fragmentsOf_append (nodes later : List Node) :
    fragmentsOf (nodes ++ later) = fragmentsOf nodes ++ fragmentsOf later := by
  induction nodes with
  | nil => rw [List.nil_append, fragmentsOf, List.nil_append]
  | cons node nodes ih => cases node <;> simp only [List.cons_append, fragmentsOf, ih]

/-- The fragments of elements in two lists of nodes come one after the other. -/
theorem elementFragmentsOf_append (nodes later : List Node) :
    elementFragmentsOf (nodes ++ later) =
      elementFragmentsOf nodes ++ elementFragmentsOf later := by
  induction nodes with
  | nil => rw [List.nil_append, elementFragmentsOf, List.nil_append]
  | cons node nodes ih => cases node <;> simp only [List.cons_append, elementFragmentsOf, ih]

/-- The branches in two lists of nodes come one after the other. -/
theorem branchesOf_append (nodes later : List Node) :
    branchesOf (nodes ++ later) = branchesOf nodes ++ branchesOf later := by
  induction nodes with
  | nil => rw [List.nil_append, branchesOf, List.nil_append]
  | cons node nodes ih =>
    rw [List.cons_append]
    match node with
    | .text _ => simp only [branchesOf, ih]
    | .element (.mk tag attributes children) =>
      simp only [branchesOf, ih]
      split <;> rfl

/-- Text is no fragment of an element. -/
theorem elementFragmentsOf_textNodes (s : List Char) : elementFragmentsOf (textNodes s) = [] := by
  rw [textNodes]
  split <;> simp only [elementFragmentsOf]

/-- Text is no branch. -/
theorem branchesOf_textNodes (s : List Char) : branchesOf (textNodes s) = [] := by
  rw [textNodes]
  split <;> simp only [branchesOf]

/-- The two halves of a text are the same fragments as the whole one, or they are one fragment
each. -/
theorem fragmentsOf_halves (hseam : Seamless s t) :
    fragmentsOf (textNodes (s ++ t)) = fragmentsOf (textNodes s) ++ fragmentsOf (textNodes t) ∨
      prose s ≠ [] ∧ prose t ≠ [] ∧
        fragmentsOf (textNodes (s ++ t)) = [.text (String.ofList (prose s ++ prose t))] ∧
        fragmentsOf (textNodes s) ++ fragmentsOf (textNodes t) =
          [.text (String.ofList (prose s)), .text (String.ofList (prose t))] := by
  have hwhole : prose (s ++ t) = prose s ++ prose t := hseam
  simp only [fragmentsOf_textNodes, hwhole]
  by_cases hs : prose s = []
  · left
    rw [hs, List.nil_append, if_pos rfl, List.nil_append]
  by_cases ht : prose t = []
  · left
    rw [ht, List.append_nil, if_pos rfl, List.append_nil]
  · right
    have hne : prose s ++ prose t ≠ [] := fun hnil => hs (List.append_eq_nil_iff.1 hnil).1
    rw [if_neg hne, if_neg hs, if_neg ht]
    exact ⟨hs, ht, rfl, rfl⟩

/-- A text in two halves cannot be told apart from the whole one, whatever is around it. -/
theorem alikeAll_halves (hseam : Seamless s t) (before after : List Fragment) :
    Fragment.AlikeAll (before ++ fragmentsOf (textNodes (s ++ t)) ++ after)
      (before ++ (fragmentsOf (textNodes s) ++ fragmentsOf (textNodes t)) ++ after) := by
  rcases fragmentsOf_halves hseam with hsame | ⟨hs, ht, hwhole, hhalves⟩
  · rw [hsame]
    exact .refl _
  · rw [hwhole, hhalves]
    rw [List.append_assoc, List.append_assoc]
    exact .divide (prose s) (prose t) before after

/-- The first half of a text stands for a capture if the whole one does. -/
theorem takesCapture_halves (hseam : Seamless s t) (hmark : KeepsCaptureMark s t)
    (before after : List Fragment) :
    (before ++ fragmentsOf (textNodes (s ++ t)) ++ after).head?.map Fragment.takesCapture =
      (before ++ (fragmentsOf (textNodes s) ++ fragmentsOf (textNodes t)) ++
        after).head?.map Fragment.takesCapture := by
  rcases fragmentsOf_halves hseam with hsame | ⟨hs, ht, hwhole, hhalves⟩
  · rw [hsame]
  · rw [hwhole, hhalves]
    cases before with
    | cons first before => rfl
    | nil =>
      have hsame := (hmark.resolve_left hs).resolve_left ht
      have hprose : prose (s ++ t) = prose s ++ prose t := hseam
      rw [isCaptureMark, isCaptureMark, hprose] at hsame
      exact congrArg some hsame

/-- A text in two halves cannot be told apart from the whole one in the content of an element. -/
theorem Content.alike_halves (hseam : Seamless s t) (before after : List Node) :
    Content.Alike (before ++ textNodes (s ++ t) ++ after)
      (before ++ (textNodes s ++ textNodes t) ++ after) := by
  refine ⟨?_, ?_, ?_⟩
  · simp only [fragmentsOf_append]
    exact alikeAll_halves hseam _ _
  · simp only [elementFragmentsOf_append, elementFragmentsOf_textNodes, List.append_nil]
    exact List.forall₂_refl _
  · simp only [branchesOf_append, branchesOf_textNodes, List.append_nil]
    exact List.forall₂_refl _

/-- Contents that differ in an element cannot be told apart if this element cannot. -/
theorem Content.alike_middle {name : String} {attributes : Attributes}
    {children children' : List Node} (hcontent : Content.Alike children children')
    (hinner : Fragment.Alike (Fragment.ofElement (.mk name attributes children))
      (Fragment.ofElement (.mk name attributes children'))) (before after : List Node) :
    Content.Alike (before ++ .element (.mk name attributes children) :: after)
      (before ++ .element (.mk name attributes children') :: after) := by
  refine ⟨?_, ?_, ?_⟩
  · simp only [fragmentsOf_append, fragmentsOf]
    exact .middle hinner _ _
  · simp only [elementFragmentsOf_append, elementFragmentsOf]
    exact List.rel_append (List.forall₂_refl _) (.cons hinner (List.forall₂_refl _))
  · simp only [branchesOf_append, branchesOf]
    refine List.rel_append (List.forall₂_refl _) ?_
    split
    · exact .cons ⟨rfl, rfl, hcontent.fragments⟩ (List.forall₂_refl _)
    · exact List.forall₂_refl _

/-- A remark that is not noticed leaves the content of every element around it alone: it must not
be next to a line break, nor part a mark for a capture from other text when it is in the value of
a variable. -/
theorem alike_of_differs {tags : List String} {element element' : Element} (hseam : Seamless s t)
    (hmark : ∀ tag ∈ tags.head?, TagMeaning.ofName tag = .set → KeepsCaptureMark s t)
    (h : Element.Differs (textNodes (s ++ t)) (textNodes s ++ textNodes t) tags element element') :
    Content.Alike element.children element'.children ∧
      (TagMeaning.ofName element.name = .set →
        (fragmentsOf element.children).head?.map Fragment.takesCapture =
          (fragmentsOf element'.children).head?.map Fragment.takesCapture) := by
  induction h with
  | here name attributes before after =>
    refine ⟨Content.alike_halves hseam before after, fun hset => ?_⟩
    simp only [Element.children, fragmentsOf_append]
    exact takesCapture_halves hseam (hmark name rfl hset) _ _
  | @inside tags inner inner' name attributes before after h ih =>
    have hhead : (tags ++ [name]).head? = tags.head? :=
      List.head?_append_of_ne_nil tags h.tags_ne_nil
    rw [hhead] at hmark
    rcases ih hmark with ⟨hcontent, hfirst⟩
    have hattributes := h.attributes_eq
    have hname := h.name_eq
    rcases inner with ⟨tag, innerAttributes, children⟩
    rcases inner' with ⟨tag', innerAttributes', children'⟩
    cases hattributes
    cases hname
    have hinner := Fragment.alike_ofElement innerAttributes hcontent hfirst
    refine ⟨Content.alike_middle hcontent hinner before after, fun _ => ?_⟩
    simp only [Element.children, fragmentsOf_append, fragmentsOf]
    cases fragmentsOf before with
    | nil => exact congrArg some hinner.takesCapture
    | cons first others => rfl

end Remarks

end Dialogue
