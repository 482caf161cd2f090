import Dialogue.Text.Blank
import Mathlib.Data.List.DropRight

/-!
# Words and ends of texts

The division into words is determined by two equations: a blank in a text
separates the words before it from the words behind it, and a text without
blanks is one word.  Closing characters are cut off a text only at its end.

Main results:

- Theorem `words_append_blank`: the words of a text with a blank in it.
- Theorem `words_eq_singleton`: a text without blanks is one word.
- Theorem `exists_last_word`: the last word ends with the last character that is
  not blank.
- Theorem `words_dropClosing_trim`: the words of a text without closing characters
  at its end do not depend on the blanks around it.
-/

namespace Dialogue.Text

/-! ## Cutting off the end -/

/-- A text is what is left without its end, followed by that end. -/
theorem exists_dropEndWhile (p : Char → Bool) (s : List Char) :
    ∃ tail, s = dropEndWhile p s ++ tail ∧ ∀ c ∈ tail, p c = true := by
  refine ⟨s.rtakeWhile p, ?_, fun c hc => List.mem_rtakeWhile_imp hc⟩
  exact List.rdropWhile_append_rtakeWhile.symm

/-- An end that is cut off leaves the rest to be cut. -/
theorem dropEndWhile_append {p : Char → Bool} (s : List Char) {tail : List Char}
    (h : ∀ c ∈ tail, p c = true) : dropEndWhile p (s ++ tail) = dropEndWhile p s := by
  have hdrop : tail.reverse.dropWhile p = [] :=
    dropWhile_eq_nil_iff.2 fun c hc => h c (List.mem_reverse.1 hc)
  rw [dropEndWhile, List.reverse_append, List.dropWhile_append, hdrop]
  rfl

/-- A text in front of one of which something is left stays whole. -/
theorem dropEndWhile_append_left {p : Char → Bool} (lead : List Char) {s : List Char}
    (h : dropEndWhile p s ≠ []) : dropEndWhile p (lead ++ s) = lead ++ dropEndWhile p s := by
  have hne : s.reverse.dropWhile p ≠ [] := fun hnil => h (by rw [dropEndWhile, hnil]; rfl)
  rw [dropEndWhile, List.reverse_append, List.dropWhile_append,
    if_neg (by simpa using hne), List.reverse_append, List.reverse_reverse]
  rfl

/-- Nothing is cut off behind a last character that stays. -/
theorem dropEndWhile_concat {p : Char → Bool} (s : List Char) {c : Char} (h : p c = false) :
    dropEndWhile p (s ++ [c]) = s ++ [c] := by
  simp [dropEndWhile, h]

/-- The last character of what is left stays. -/
theorem eq_false_of_dropEndWhile {p : Char → Bool} {s front : List Char} {c : Char}
    (h : dropEndWhile p s = front ++ [c]) : p c = false := by
  have hne : s.rdropWhile p ≠ [] := by
    intro hnil
    have : front ++ [c] = [] := h ▸ hnil
    simp at this
  have hlast := List.rdropWhile_last_not p s hne
  have hc : (s.rdropWhile p).getLast hne = c := by
    have heq : s.rdropWhile p = front ++ [c] := h
    simp [heq]
  rw [hc] at hlast
  simpa using hlast

/-! ## Words -/

/-- Words that are already known stay behind those that the division adds. -/
theorem foldr_wordStep (s : List Char) (known : List (List Char)) :
    s.foldr wordStep ([], known) =
      ((s.foldr wordStep ([], [])).1, (s.foldr wordStep ([], [])).2 ++ known) := by
  induction s with
  | nil => rfl
  | cons c s ih =>
    rw [List.foldr_cons, ih, List.foldr_cons]
    rcases s.foldr wordStep ([], []) with ⟨word, rest⟩
    by_cases hc : isBlank c = true
    · cases word <;> simp [wordStep, hc, pushWord]
    · simp [wordStep, hc]

/-- A blank separates the words before it from the words behind it. -/
theorem words_append_blank (s t : List Char) {c : Char} (h : isBlank c = true) :
    words (s ++ c :: t) = words s ++ words t := by
  have hstep : wordStep c (t.foldr wordStep ([], [])) = ([], words t) := by
    simp [wordStep, h, words]
  simp only [words, List.foldr_append, List.foldr_cons]
  rw [hstep, foldr_wordStep]
  rcases s.foldr wordStep ([], []) with ⟨word, rest⟩
  cases word <;> rfl

/-- A text without blanks is one word. -/
theorem words_eq_singleton {s : List Char} (hne : s ≠ []) (h : ∀ c ∈ s, isBlank c = false) :
    words s = [s] := by
  have hfold : s.foldr wordStep ([], []) = (s, []) := by
    clear hne
    induction s with
    | nil => rfl
    | cons c s ih =>
      rw [List.forall_mem_cons] at h
      rw [List.foldr_cons, ih h.2]
      simp [wordStep, h.1]
  rcases List.exists_cons_of_ne_nil hne with ⟨c, rest, rfl⟩
  rw [words, hfold]
  rfl

/-- Blanks in front of a text do not count. -/
theorem words_append_of_blank {lead : List Char} (s : List Char)
    (h : ∀ c ∈ lead, isBlank c = true) : words (lead ++ s) = words s := by
  induction lead with
  | nil => rfl
  | cons c lead ih =>
    rw [List.forall_mem_cons] at h
    rw [List.cons_append, words_cons_of_isBlank _ h.1, ih h.2]

/-- A text has no blanks, or it has a last one. -/
theorem forall_not_blank_or_exists_last (s : List Char) :
    (∀ c ∈ s, isBlank c = false) ∨
      ∃ front b back, s = front ++ b :: back ∧ isBlank b = true ∧
        ∀ c ∈ back, isBlank c = false := by
  induction s with
  | nil => exact Or.inl (by simp)
  | cons c s ih =>
    rcases ih with hall | ⟨front, b, back, rfl, hb, hback⟩
    · cases hc : isBlank c with
      | true => exact Or.inr ⟨[], c, s, rfl, hc, hall⟩
      | false => exact Or.inl (List.forall_mem_cons.2 ⟨hc, hall⟩)
    · exact Or.inr ⟨c :: front, b, back, rfl, hb, hback⟩

/-- The last word ends with the last character that is not blank. -/
theorem exists_last_word (s : List Char) {c : Char} (h : isBlank c = false) :
    ∃ before word, words (s ++ [c]) = before ++ [word ++ [c]] := by
  rcases forall_not_blank_or_exists_last s with hall | ⟨front, b, back, rfl, hb, hback⟩
  · have hword : ∀ d ∈ s ++ [c], isBlank d = false :=
      List.forall_mem_append.2 ⟨hall, by simpa using h⟩
    exact ⟨[], s, words_eq_singleton (by simp) hword⟩
  · have hword : ∀ d ∈ back ++ [c], isBlank d = false :=
      List.forall_mem_append.2 ⟨hback, by simpa using h⟩
    refine ⟨words front, back, ?_⟩
    rw [List.append_assoc, List.cons_append, words_append_blank front _ hb,
      words_eq_singleton (by simp) hword]

/-- Blanks around a text do not change the words that are left without its
closing characters. -/
theorem words_dropClosing_trim (s : List Char) :
    words (dropClosing (trim s)) = words (dropClosing s) := by
  have hblank : ∀ {t : List Char}, (∀ c ∈ t, isBlank c = true) → ∀ c ∈ t, isClosing c = true :=
    fun h c hc => isClosing_of_isBlank (h c hc)
  -- The blanks at the end are cut off with the closing characters.
  have htrim : dropClosing (trim s) = dropClosing (s.dropWhile isBlank) := by
    rcases exists_dropEndWhile isBlank (s.dropWhile isBlank) with ⟨tail, hcut, htail⟩
    rw [trim, dropClosing, dropClosing, hcut, dropEndWhile_append _ (hblank htail), ← hcut]
  -- The blanks in front do not count, unless everything is cut off.
  have hlead : ∀ c ∈ s.takeWhile isBlank, isBlank c = true := fun c hc => List.mem_takeWhile_imp hc
  have hcut : s = s.takeWhile isBlank ++ s.dropWhile isBlank := List.takeWhile_append_dropWhile.symm
  rw [htrim]
  conv_rhs => rw [hcut]
  by_cases hnil : dropClosing (s.dropWhile isBlank) = []
  · have hall := List.forall_mem_append.2 ⟨hblank hlead, dropEndWhile_eq_nil_iff.1 hnil⟩
    rw [hnil, dropClosing, dropEndWhile_eq_nil_iff.2 hall]
  · rw [dropClosing, dropClosing, dropEndWhile_append_left _ hnil, words_append_of_blank _ hlead]

end Dialogue.Text
