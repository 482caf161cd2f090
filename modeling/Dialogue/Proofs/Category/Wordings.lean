import Dialogue.Proofs.Markup.Halves
import Dialogue.Proofs.Markup.Insertion
import Dialogue.Proofs.Pattern.Matching

/-!
# Wordings with a remark in their source

A pattern is matched by its words.  A remark right in the source of a pattern makes two parts of
one, which are shown with a space between them: this does not matter unless it divides a word.
The texts in an element inside of a pattern are joined without a space: there a remark does not
matter unless it is next to a line break.

Main results:

- Theorem `matchText_congr`: what a pattern captures depends on its words only.
- Theorem `words_render`: the words of a wording are those of its parts.
- Theorem `captures?_congr_of_differs`: a remark that is not noticed leaves all captures alone.
-/

namespace Dialogue

open Text Markup

/-! ## Captures and words -/

/-- What a pattern captures is determined by the tokens of its words. -/
theorem matchText_eq (input pattern : String) :
    matchText input pattern =
      if (patternTokens pattern).countP Token.isWildcard ≤ maxWildcards then
        (captureTokens (patternTokens pattern) (collapse input.toList)).map
          (·.map fun capture => String.ofList (Pattern.tidy capture))
      else none := by
  unfold matchText Pattern.ofText?
  simp only [map_ofWord_strip]
  split <;> rfl

/-- What a pattern captures depends on its words only. -/
theorem matchText_congr (input : String) {pattern pattern' : String}
    (h : words pattern.toList = words pattern'.toList) :
    matchText input pattern = matchText input pattern' := by
  have htokens : patternTokens pattern = patternTokens pattern' := by
    rw [patternTokens, patternTokens, words_dropClosing_congr h]
  rw [matchText_eq, matchText_eq, htokens]

/-- Texts with spaces between them have the words of all. -/
theorem words_intercalate (texts : List (List Char)) :
    words ([' '].intercalate texts) = texts.flatMap words := by
  induction texts with
  | nil => rfl
  | cons text texts ih =>
    cases texts with
    | nil => rw [List.intercalate_singleton, List.flatMap_singleton]
    | cons next texts =>
      rw [List.intercalate_cons_cons, List.append_assoc, List.singleton_append,
        words_append_blank text _ isBlank_space, ih]
      rfl

/-- The words of a wording are those of its parts. -/
theorem Wording.words_render (w : Wording) (profile vars : Bindings) :
    words (w.render profile vars).toList =
      w.parts.flatMap fun part => words (part.render profile vars).toList := by
  have hspace : " ".toList = [' '] := rfl
  rw [render, String.toList_intercalate, hspace, words_intercalate, List.flatMap_map,
    List.flatMap_map]

/-! ## Parts of a wording -/

section Remarks

variable {s t : List Char} {tags : List String} {element element' : Element}

/-- The words of the parts that nodes are. -/
def partWords (profile vars : Bindings) (nodes : List Node) : List (List Char) :=
  nodes.flatMap fun node => words ((Wording.Part.ofNode node).render profile vars).toList

/-- The words of a wording are those of the parts that the nodes of its element are. -/
theorem words_render_ofElement (profile vars : Bindings) (element : Element) :
    words ((Wording.ofElement element).render profile vars).toList =
      partWords profile vars element.children := by
  rw [Wording.words_render, Wording.ofElement, List.flatMap_map, partWords]

/-- A text has its words, also if it is layout. -/
theorem partWords_textNodes (profile vars : Bindings) (s : List Char) :
    partWords profile vars (textNodes s) = words s := by
  rw [textNodes]
  split
  · rename_i hnone
    rw [Bool.or_eq_true, List.isEmpty_iff, isLayout_iff] at hnone
    rcases hnone with rfl | ⟨hblank, -⟩
    · rfl
    · rw [words_eq_nil_iff.2 hblank]
      rfl
  · rw [partWords, List.flatMap_singleton, Wording.Part.ofNode, Wording.Part.render,
      String.toList_ofList]

/-- Elements that differ in a text with a seam that is not noticed have the same words. -/
theorem sameWords_text (hseam : Seamless s t)
    (h : Element.Differs (textNodes (s ++ t)) (textNodes s ++ textNodes t) tags element element') :
    SameWords element.text.toList element'.text.toList := by
  induction h with
  | here name attributes before after =>
    simp only [Element.text, nodesText_append _ after, nodesText_append before,
      String.toList_append]
    exact ((SameWords.refl _).append (sameWords_halves hseam)).append (.refl _)
  | inside name attributes before after _ ih =>
    simp only [Element.text, nodesText_append before, nodesText, Node.allText,
      String.toList_append]
    exact (SameWords.refl _).append (ih.append (.refl _))

/-- Elements that differ in a text with a seam that is not noticed are parts of a wording with the
same words. -/
theorem words_ofNode (hseam : Seamless s t)
    (h : Element.Differs (textNodes (s ++ t)) (textNodes s ++ textNodes t) tags element element')
    (profile vars : Bindings) :
    words ((Wording.Part.ofNode (.element element)).render profile vars).toList =
      words ((Wording.Part.ofNode (.element element')).render profile vars).toList := by
  have hname : nameOf element = nameOf element' := by
    rw [nameOf, nameOf, Element.attribute?, Element.attribute?, h.attributes_eq]
  have htag : ∀ tag, element.is tag = element'.is tag := by
    intro tag
    rw [Element.is, Element.is, h.name_eq]
  rw [Wording.Part.ofNode, Wording.Part.ofNode, htag, htag, hname]
  by_cases hbot : element'.is "bot" = true
  · rw [if_pos hbot, if_pos hbot]
  by_cases hget : element'.is "get" = true
  · rw [if_neg hbot, if_neg hbot, if_pos hget, if_pos hget]
  · rw [if_neg hbot, if_neg hbot, if_neg hget, if_neg hget]
    exact (sameWords_text hseam h).words_eq

/-- A remark that is not noticed leaves all captures of a wording alone: right in the source of
the wording, it must not divide a word, and in an element inside of it, it must not be next to a
line break. -/
theorem captures?_congr_of_differs
    (h : Element.Differs (textNodes (s ++ t)) (textNodes s ++ textNodes t) tags element element')
    (hword : tags = [element.name] → words (s ++ t) = words s ++ words t)
    (hseam : tags ≠ [element.name] → Seamless s t) (profile vars : Bindings) (input : String) :
    (Wording.ofElement element).captures? profile vars input =
      (Wording.ofElement element').captures? profile vars input := by
  apply matchText_congr
  rw [words_render_ofElement, words_render_ofElement]
  cases h with
  | here name attributes before after =>
    have hparts := partWords_textNodes profile vars
    simp only [partWords, Element.children, List.flatMap_append] at hparts ⊢
    rw [hparts, hparts, hparts, hword rfl]
  | @inside tags inner inner' name attributes before after h =>
    have hdeeper : tags ++ [name] ≠ [name] :=
      fun heq => h.tags_ne_nil (List.append_left_eq_self.1 heq)
    simp only [partWords, Element.children, List.flatMap_append, List.flatMap_cons,
      words_ofNode (hseam hdeeper) h]

end Remarks

end Dialogue
