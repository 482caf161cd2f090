import Dialogue.Category.OfMarkup
import Dialogue.Proofs.Markup.Reading
import Dialogue.Proofs.Text.Seams

/-!
# Texts of a source in two halves

A text of a source is dropped if it is layout, and otherwise stands for itself in a pattern, and
for itself with collapsed line breaks in a template.  In two halves it stands for the same as in
one, unless a line break is next to the seam.

Main results:

- Theorem `seamless_of_plain`: halves without a line feed among the blanks at the seam.
- Theorem `seamless_of_bare_left`, `seamless_of_bare_right`: halves with a seam that has blanks on
  one side at most.
- Theorem `sameWords_halves`: in two halves a text has the same words, whatever is around.
-/

namespace Dialogue.Markup

open Text

/-! ## What a text stands for -/

/-- What a text of a template stands for: nothing if it is layout. -/
def prose (s : List Char) : List Char :=
  if isLayout (String.ofList s) then [] else collapseBreaks false s

/-- Whether a text stands for the same in two halves as in one. -/
def Seamless (s t : List Char) : Prop := prose (s ++ t) = prose s ++ prose t

instance (s t : List Char) : Decidable (Seamless s t) :=
  inferInstanceAs (Decidable (_ = _))

/-- A text is layout if it is blank and has a line feed. -/
theorem isLayout_iff {s : List Char} :
    isLayout (String.ofList s) = true ↔ isBlankText s = true ∧ '\n' ∈ s := by
  rw [isLayout, String.toList_ofList, Bool.and_eq_true, List.contains_iff_mem]

/-- A text that is no layout stands for itself with collapsed line breaks. -/
theorem prose_of_not_isLayout {s : List Char} (h : isLayout (String.ofList s) = false) :
    prose s = collapseBreaks false s := by
  rw [prose, h, if_neg Bool.false_ne_true]

/-- Something is left when line breaks are collapsed. -/
theorem collapseBreaks_ne_nil {s : List Char} (h : s ≠ []) : collapseBreaks false s ≠ [] := by
  rcases List.exists_cons_of_ne_nil h with ⟨c, s, rfl⟩
  rw [collapseBreaks, Bool.false_and, if_neg Bool.false_ne_true]
  split <;> exact List.cons_ne_nil _ _

/-- A text stands for nothing exactly if it is no node. -/
theorem prose_eq_nil_iff {s : List Char} :
    prose s = [] ↔ (s.isEmpty || isLayout (String.ofList s)) = true := by
  cases hlayout : isLayout (String.ofList s) with
  | true => simp [prose, hlayout]
  | false =>
    rw [prose_of_not_isLayout hlayout, Bool.or_false, List.isEmpty_iff]
    constructor
    · intro hnil
      by_contra hne
      exact collapseBreaks_ne_nil hne hnil
    · rintro rfl
      rfl

/-- The fragments of a text are what it stands for, if that is something. -/
theorem fragmentsOf_textNodes (s : List Char) :
    fragmentsOf (textNodes s) =
      if prose s = [] then [] else [.text (String.ofList (prose s))] := by
  by_cases hnil : prose s = []
  · rw [if_pos hnil, textNodes, if_pos (prose_eq_nil_iff.1 hnil), fragmentsOf]
  · have hnode : ¬(s.isEmpty || isLayout (String.ofList s)) = true :=
      fun hnode => hnil (prose_eq_nil_iff.2 hnode)
    rw [if_neg hnil, textNodes, if_neg hnode]
    rw [Bool.or_eq_true, not_or, Bool.not_eq_true, Bool.not_eq_true] at hnode
    simp only [fragmentsOf, collapseLineBreaks, String.toList_ofList,
      prose_of_not_isLayout hnode.2]

/-! ## Seams that are not noticed -/

section Seams

variable {s t : List Char}

/-- An empty half is not noticed. -/
theorem seamless_nil_left (t : List Char) : Seamless [] t := rfl

/-- An empty half is not noticed. -/
theorem seamless_nil_right (s : List Char) : Seamless s [] := by
  rw [Seamless, List.append_nil]
  exact (List.append_nil _).symm

/-- A seam in the middle of layout is not noticed. -/
theorem seamless_of_isLayout (hs : isLayout (String.ofList s) = true)
    (ht : isLayout (String.ofList t) = true) : Seamless s t := by
  have hblank := isLayout_iff.1 hs
  have hwhole : isLayout (String.ofList (s ++ t)) = true := by
    rw [isLayout_iff, isBlankText, List.all_append, Bool.and_eq_true]
    exact ⟨⟨hblank.1, (isLayout_iff.1 ht).1⟩, List.mem_append_left t hblank.2⟩
  rw [Seamless, prose, prose, prose, if_pos hs, if_pos ht, if_pos hwhole, List.append_nil]

/-- A text of which neither half is layout is no layout. -/
theorem isLayout_append_eq_false (hs : isLayout (String.ofList s) = false)
    (ht : isLayout (String.ofList t) = false) : isLayout (String.ofList (s ++ t)) = false := by
  rw [Bool.eq_false_iff] at *
  intro hwhole
  rw [ne_eq, isLayout_iff] at hs ht
  rw [isLayout_iff, isBlankText, List.all_append, Bool.and_eq_true] at hwhole
  rcases List.mem_append.1 hwhole.2 with hfeed | hfeed
  · exact hs ⟨hwhole.1.1, hfeed⟩
  · exact ht ⟨hwhole.1.2, hfeed⟩

/-- A character that is not blank is not part of layout. -/
theorem isLayout_eq_false {c : Char} (hmem : c ∈ s) (hc : isBlank c = false) :
    isLayout (String.ofList s) = false := by
  rw [Bool.eq_false_iff, ne_eq, isLayout_iff]
  rintro ⟨hblank, -⟩
  rw [List.all_eq_true.1 hblank c hmem] at hc
  cases hc

/-- A seam is not noticed if no blank comes after it, and no layout before. -/
theorem seamless_of_bare_right (hs : isLayout (String.ofList s) = false) {c : Char}
    (hc : isBlank c = false) (t : List Char) : Seamless s (c :: t) := by
  have ht : isLayout (String.ofList (c :: t)) = false := isLayout_eq_false List.mem_cons_self hc
  have hfirst := collapseBreaks_append_bare false [] hc t
  rw [List.nil_append] at hfirst
  rw [Seamless, prose_of_not_isLayout hs, prose_of_not_isLayout ht,
    prose_of_not_isLayout (isLayout_append_eq_false hs ht), collapseBreaks_append_bare false s hc,
    hfirst]
  rfl

/-- A seam is not noticed if no blank comes before it, and no layout after. -/
theorem seamless_of_bare_left (s : List Char) {c : Char} (hc : isBlank c = false)
    (ht : isLayout (String.ofList t) = false) : Seamless (s ++ [c]) t := by
  have hs : isLayout (String.ofList (s ++ [c])) = false :=
    isLayout_eq_false (List.mem_append_right s (List.mem_singleton.2 rfl)) hc
  have hwhole := collapseBreaks_append_bare false s hc t
  have hhalf := collapseBreaks_append_bare false s hc []
  rw [Seamless, prose_of_not_isLayout hs, prose_of_not_isLayout ht,
    prose_of_not_isLayout (isLayout_append_eq_false hs ht), List.append_assoc,
    List.singleton_append, hwhole, hhalf, List.append_assoc]
  rfl

/-- A seam is not noticed if there is no line feed among the blanks before and after it. -/
theorem seamless_of_plain (hs : '\n' ∉ s.rtakeWhile isBlank) (ht : '\n' ∉ t.takeWhile isBlank) :
    Seamless s t := by
  have hlayoutLeft : isLayout (String.ofList s) = false := by
    rw [Bool.eq_false_iff, ne_eq, isLayout_iff]
    rintro ⟨hblank, hfeed⟩
    apply hs
    rwa [List.rtakeWhile_eq_self_iff.2 (List.all_eq_true.1 hblank)]
  have hlayoutRight : isLayout (String.ofList t) = false := by
    rw [Bool.eq_false_iff, ne_eq, isLayout_iff]
    rintro ⟨hblank, hfeed⟩
    apply ht
    rwa [List.takeWhile_eq_self_iff.2 (List.all_eq_true.1 hblank)]
  have hleft : s.rdropWhile isBlank ++ s.rtakeWhile isBlank = s :=
    List.rdropWhile_append_rtakeWhile
  have hright : t.takeWhile isBlank ++ t.dropWhile isBlank = t := List.takeWhile_append_dropWhile
  have hend : ∀ c ∈ (s.rdropWhile isBlank).getLast?, isBlank c = false := by
    intro c hc
    rcases List.eq_nil_or_concat (s.rdropWhile isBlank) with hnil | ⟨front, last, hconcat⟩
    · rw [hnil] at hc
      cases hc
    · rw [List.concat_eq_append] at hconcat
      rw [hconcat, List.getLast?_concat] at hc
      cases hc
      exact eq_false_of_dropEndWhile hconcat
  have hbegin := head?_dropWhile_eq_false isBlank t
  have hmiddle : '\n' ∉ s.rtakeWhile isBlank ++ t.takeWhile isBlank := by
    rw [List.mem_append, not_or]
    exact ⟨hs, ht⟩
  have hwhole := collapseBreaks_around hend hmiddle hbegin
  have hfront := collapseBreaks_around hend hs (t := []) nofun
  have hback := collapseBreaks_around (s := []) nofun ht hbegin
  rw [List.append_nil, hleft] at hfront
  rw [List.nil_append, hright] at hback
  have hassoc : s.rdropWhile isBlank ++ (s.rtakeWhile isBlank ++ t.takeWhile isBlank) ++
      t.dropWhile isBlank = s ++ t := by
    rw [← List.append_assoc, hleft, List.append_assoc, hright]
  rw [hassoc] at hwhole
  rw [Seamless, prose_of_not_isLayout hlayoutLeft, prose_of_not_isLayout hlayoutRight,
    prose_of_not_isLayout (isLayout_append_eq_false hlayoutLeft hlayoutRight), hwhole, hfront,
    hback]
  simp [collapseBreaks]

end Seams

/-- Between a line break and another one, a seam is noticed: each of them becomes a space. -/
example : prose "Hello\n\nWorld".toList = "Hello World".toList ∧
    prose "Hello\n".toList ++ prose "\nWorld".toList = "Hello  World".toList := by decide

/-! ## Words -/

/-- The texts of two lists of nodes are joined. -/
theorem nodesText_append (nodes later : List Node) :
    nodesText (nodes ++ later) = nodesText nodes ++ nodesText later := by
  induction nodes with
  | nil => rw [List.nil_append, nodesText, String.empty_append]
  | cons node nodes ih => rw [List.cons_append, nodesText, nodesText, ih, String.append_assoc]

/-- A text has the words of what it stands for, whatever is around. -/
theorem sameWords_textNodes (s : List Char) :
    SameWords (nodesText (textNodes s)).toList (prose s) := by
  by_cases hnil : prose s = []
  · rw [textNodes, if_pos (prose_eq_nil_iff.1 hnil), hnil, nodesText]
    exact .refl []
  · have hnode : ¬(s.isEmpty || isLayout (String.ofList s)) = true :=
      fun hnode => hnil (prose_eq_nil_iff.2 hnode)
    rw [textNodes, if_neg hnode, nodesText, nodesText, String.append_empty, Node.allText,
      String.toList_ofList]
    rw [Bool.or_eq_true, not_or, Bool.not_eq_true, Bool.not_eq_true] at hnode
    rw [prose_of_not_isLayout hnode.2]
    exact (sameWords_collapseBreaks s).symm

/-- In two halves with a seam that is not noticed, a text has the same words, whatever is
around. -/
theorem sameWords_halves {s t : List Char} (h : Seamless s t) :
    SameWords (nodesText (textNodes (s ++ t))).toList
      (nodesText (textNodes s ++ textNodes t)).toList := by
  rw [nodesText_append, String.toList_append]
  have hwhole := sameWords_textNodes (s ++ t)
  rw [h] at hwhole
  exact hwhole.trans ((sameWords_textNodes s).append (sameWords_textNodes t)).symm

end Dialogue.Markup
