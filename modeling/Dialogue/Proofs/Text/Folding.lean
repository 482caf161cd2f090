import Dialogue.Pattern.Match
import Dialogue.Proofs.Text.Table

/-!
# Case folding and the classes of characters

Whether a character is blank, ends a sentence, separates words or belongs to a
word does not depend on its case.  A blank and a punctuation mark are their own
folds, and the word characters are closed under changes of case.

Main results:

- Theorems `isBlank_foldChar`, `isClosing_foldChar`, `isSeparator_foldChar` and
  `isWordChar_foldChar`: the four classes are kept by case folding.
- Theorem `isSeparator_eq_false_of_isWordChar`: no word character separates words.
- Theorem `SameText.append_inv`: a text that agrees with two texts in a row up to
  case is cut into two in the same way.
-/

namespace Dialogue

namespace Text

/-! ## Marks -/

/-- The space and the punctuation marks that have a meaning in patterns. -/
def marks : List Char := [' ', '.', '!', '?', ',', ';', ':', '\'', '’', '-']

/-- The runs of case folding keep the code points of characters. -/
theorem foldRuns_keep_chars : foldRuns.all (·.keeps charRanges) = true := by decide +kernel

/-- The runs of case folding neither move a mark nor move another character to
its place. -/
theorem foldRuns_keep_marks :
    (marks.all fun mark => foldRuns.all (·.keeps [(mark.toNat, mark.toNat)])) = true := by
  decide +kernel

/-- A range of one code point has one code point. -/
theorem inRanges_singleton_iff {m n : Nat} : inRanges [(m, m)] n = true ↔ n = m := by
  simp only [inRanges]
  grind

/-- Only a character itself has the character as its fold, if the runs neither move it nor move
another one to its place. -/
theorem foldChar_eq_iff_of_keeps {mark : Char}
    (hmark : foldRuns.all (·.keeps [(mark.toNat, mark.toNat)]) = true) (c : Char) :
    foldChar c = mark ↔ c = mark := by
  have hkeep := inRanges_shiftChar foldRuns_keep_chars hmark c
  rw [← Char.toNat_inj, ← Char.toNat_inj (c := c), ← inRanges_singleton_iff,
    ← inRanges_singleton_iff, foldChar, hkeep]

/-- Only a mark itself has the mark as its fold. -/
theorem foldChar_eq_mark_iff {mark : Char} (h : mark ∈ marks) (c : Char) :
    foldChar c = mark ↔ c = mark :=
  foldChar_eq_iff_of_keeps (List.all_eq_true.1 foldRuns_keep_marks mark h) c

/-- Comparing with a mark gives the same before and after folding. -/
theorem foldChar_beq_mark {mark : Char} (h : mark ∈ marks) (c : Char) :
    (foldChar c == mark) = (c == mark) := by
  rw [Bool.eq_iff_iff, beq_iff_eq, beq_iff_eq, foldChar_eq_mark_iff h]

/-! ## Blanks and closing punctuation -/

/-- The code points of the blank characters. -/
def blankRanges : List (Nat × Nat) :=
  [(0x9, 0xD), (0x20, 0x20), (0x85, 0x85), (0xA0, 0xA0), (0x1680, 0x1680), (0x2000, 0x200A),
   (0x2028, 0x2029), (0x202F, 0x202F), (0x205F, 0x205F), (0x3000, 0x3000)]

/-- The blank characters are those of the ranges. -/
theorem isBlank_eq_inRanges (c : Char) : isBlank c = inRanges blankRanges c.toNat := by
  rw [Bool.eq_iff_iff]
  simp only [isBlank, rareBlanks, blankRanges, inRanges, Char.le_def, UInt32.le_iff_toNat_le,
    Bool.or_eq_true, Bool.and_eq_true, beq_iff_eq, decide_eq_true_eq, List.contains_eq_mem,
    List.mem_cons, List.not_mem_nil, ← Char.toNat_inj]
  simp
  omega

/-- The runs of case folding keep the blanks. -/
theorem foldRuns_keep_blanks : foldRuns.all (·.keeps blankRanges) = true := by decide +kernel

/-- A character is blank exactly if its fold is. -/
theorem isBlank_foldChar (c : Char) : isBlank (foldChar c) = isBlank c := by
  rw [isBlank_eq_inRanges, isBlank_eq_inRanges, foldChar,
    inRanges_shiftChar foldRuns_keep_chars foldRuns_keep_blanks]

/-- A character ends a sentence exactly if its fold does. -/
theorem isSentenceEnd_foldChar (c : Char) : isSentenceEnd (foldChar c) = isSentenceEnd c := by
  rw [isSentenceEnd, isSentenceEnd, foldChar_beq_mark (by decide), foldChar_beq_mark (by decide),
    foldChar_beq_mark (by decide)]

/-- A character is closing exactly if its fold is. -/
theorem isClosing_foldChar (c : Char) : isClosing (foldChar c) = isClosing c := by
  rw [isClosing, isClosing, isSentenceEnd_foldChar, isBlank_foldChar]

/-! ## Word characters -/

/-- The runs of case folding keep the letters and numbers. -/
theorem foldRuns_keep_alphanumerics : foldRuns.all (·.keeps alphanumericRanges) = true := by
  decide +kernel

/-- A character belongs to words exactly if its fold does. -/
theorem isWordChar_foldChar (c : Char) : isWordChar (foldChar c) = isWordChar c := by
  have hkeep := inRanges_shiftChar foldRuns_keep_chars foldRuns_keep_alphanumerics c
  rw [isWordChar, isWordChar, foldChar_beq_mark (by decide), foldChar_beq_mark (by decide),
    foldChar_beq_mark (by decide), foldChar, hkeep]

/-- No blank is a letter or number. -/
theorem blankRanges_outside_alphanumerics :
    ∀ range ∈ blankRanges, spanAnswer range.1 range.2 alphanumericRanges = some false := by
  decide +kernel

/-- No blank belongs to words. -/
theorem isWordChar_of_isBlank {c : Char} (h : isBlank c = true) : isWordChar c = false := by
  have hranges : inRanges alphanumericRanges c.toNat = false :=
    inRanges_eq_false_of_spanAnswer blankRanges_outside_alphanumerics
      (isBlank_eq_inRanges c ▸ h)
  have hquote : c ≠ '\'' := by rintro rfl; exact absurd h (by decide)
  have hcurved : c ≠ '’' := by rintro rfl; exact absurd h (by decide)
  have hhyphen : c ≠ '-' := by rintro rfl; exact absurd h (by decide)
  simp [isWordChar, hranges, hquote, hcurved, hhyphen]

end Text

open Text

/-- A character separates words exactly if its fold does. -/
theorem isSeparator_foldChar (c : Char) : isSeparator (foldChar c) = isSeparator c := by
  rw [isSeparator, isSeparator, foldChar_beq_mark (by decide), foldChar_beq_mark (by decide),
    foldChar_beq_mark (by decide), isSentenceEnd_foldChar, isBlank_foldChar]

/-- A closing character separates words. -/
theorem isSeparator_of_isClosing {c : Char} (h : isClosing c = true) : isSeparator c = true := by
  rcases Bool.or_eq_true_iff.1 h with hend | hblank
  · simp [isSeparator, hend]
  · simp [isSeparator, hblank]

/-- No separator belongs to words. -/
theorem isWordChar_of_isSeparator {c : Char} (h : isSeparator c = true) : isWordChar c = false := by
  simp only [isSeparator, isSentenceEnd, Bool.or_eq_true, beq_iff_eq] at h
  rcases h with (((rfl | rfl) | rfl) | ((rfl | rfl) | rfl)) | hblank
  case inr => exact isWordChar_of_isBlank hblank
  all_goals decide +kernel

/-- No closing character belongs to words. -/
theorem isWordChar_of_isClosing {c : Char} (h : isClosing c = true) : isWordChar c = false :=
  isWordChar_of_isSeparator (isSeparator_of_isClosing h)

/-! ## Texts that agree up to case -/

/-- Two texts agree, character by character, up to case. -/
def SameText (s t : List Char) : Prop := s.map foldChar = t.map foldChar

namespace SameText

variable {s t : List Char}

/-- Every text agrees with itself. -/
theorem refl (s : List Char) : SameText s s := rfl

/-- Texts that agree up to case are equally long. -/
theorem length_eq (h : SameText s t) : s.length = t.length := by
  simpa using congrArg List.length h

/-- Only the empty text agrees with the empty text. -/
theorem eq_nil (h : SameText s []) : s = [] := List.map_eq_nil_iff.1 h

/-- Texts in a row agree if they agree one by one. -/
theorem append {s' t' : List Char} (h : SameText s t) (h' : SameText s' t') :
    SameText (s ++ s') (t ++ t') := by
  rw [SameText, List.map_append, List.map_append, h, h']

/-- A mark in front of texts that agree. -/
theorem cons (c : Char) (h : SameText s t) : SameText (c :: s) (c :: t) := by
  rw [SameText, List.map_cons, List.map_cons, h]

/-- A text that agrees with two texts in a row is cut into two in the same way. -/
theorem append_inv {t' : List Char} (h : SameText s (t ++ t')) :
    ∃ front back, s = front ++ back ∧ SameText front t ∧ SameText back t' := by
  rw [SameText, List.map_append] at h
  exact List.map_eq_append_iff.1 h

/-- A text that agrees with one that begins with a mark begins with the mark. -/
theorem cons_inv {mark : Char} (hmark : mark ∈ marks) (h : SameText s (mark :: t)) :
    ∃ rest, s = mark :: rest ∧ SameText rest t := by
  rcases List.map_eq_cons_iff.1 h with ⟨c, rest, rfl, hc, hrest⟩
  have hfold : foldChar mark = mark := (foldChar_eq_mark_iff hmark mark).2 rfl
  rw [hfold, foldChar_eq_mark_iff hmark] at hc
  exact ⟨rest, by rw [hc], hrest⟩

/-- A property of characters that case folding keeps holds throughout a text if
it holds throughout a text that agrees with it. -/
theorem forall_mem {p : Char → Bool} (hp : ∀ c, p (foldChar c) = p c) (h : SameText s t)
    (ht : ∀ c ∈ t, p c = true) : ∀ c ∈ s, p c = true := by
  intro c hc
  have hmem : foldChar c ∈ t.map foldChar := h ▸ List.mem_map_of_mem hc
  rcases List.mem_map.1 hmem with ⟨d, hd, heq⟩
  rw [← hp c, ← heq, hp d]
  exact ht d hd

end SameText

end Dialogue
