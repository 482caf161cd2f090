import Dialogue.Proofs.Text.Words
import Dialogue.Text.Cleanup

/-!
# Texts in two halves

Words and line breaks of a text are those of its two halves, unless the seam is inside a word or
next to a line break.

Main results:

- Theorem `words_dropClosing_congr`: what is left of the words without closing characters depends
  on the words only.
- Theorem `sameWords_collapseBreaks`: collapsing line breaks keeps the words, whatever is around.
- Theorem `collapseBreaks_append_bare`: a text is collapsed in two halves if the second one does
  not begin with a blank.
- Theorem `collapseBreaks_around`: blanks without a line feed between two texts stay as they are.
-/

namespace Dialogue.Text

/-! ## Words in a context -/

/-- Whether two texts stand for the same words, whatever is before and after them. -/
def SameWords (s t : List Char) : Prop :=
  ∀ lead rest, words (lead ++ s ++ rest) = words (lead ++ t ++ rest)

namespace SameWords

variable {s s' t t' u : List Char}

/-- A text stands for the same words as itself. -/
theorem refl (s : List Char) : SameWords s s := fun _ _ => rfl

/-- Standing for the same words is symmetric. -/
theorem symm (h : SameWords s t) : SameWords t s := fun lead rest => (h lead rest).symm

/-- Standing for the same words is transitive. -/
theorem trans (h : SameWords s t) (h' : SameWords t u) : SameWords s u :=
  fun lead rest => (h lead rest).trans (h' lead rest)

/-- Texts one after the other stand for the same words if each of them does. -/
theorem append (h : SameWords s t) (h' : SameWords s' t') : SameWords (s ++ s') (t ++ t') := by
  intro lead rest
  have hfirst := h lead (s' ++ rest)
  have hsecond := h' (lead ++ t) rest
  simp only [List.append_assoc] at hfirst hsecond ⊢
  rw [hfirst, hsecond]

/-- Alone, the texts have the same words. -/
theorem words_eq (h : SameWords s t) : words s = words t := by
  have halone := h [] []
  rwa [List.nil_append, List.append_nil, List.nil_append, List.append_nil] at halone

end SameWords

/-! ## Words without closing characters -/

/-- The words that are left without closing characters at the end; the last word comes first. -/
def openWords : List (List Char) → List (List Char)
  | [] => []
  | word :: earlier =>
    match dropClosing word with
    | [] => openWords earlier
    | word => word :: earlier

/-- Without a first closing character, the same is left of the word and of all words. -/
theorem openWords_cons_congr {word word' : List Char} (h : dropClosing word = dropClosing word')
    (earlier : List (List Char)) : openWords (word :: earlier) = openWords (word' :: earlier) := by
  rw [openWords, openWords, h]

/-- One more character that is not blank belongs to the last word, or is a new one. -/
theorem exists_words_concat (s : List Char) {c : Char} (hc : isBlank c = false) :
    ∃ before word, words (s ++ [c]) = before ++ [word ++ [c]] ∧
      words s = before ++ pushWord word [] := by
  rcases forall_not_blank_or_exists_last s with hall | ⟨front, b, back, rfl, hb, hback⟩
  · have hword : ∀ d ∈ s ++ [c], isBlank d = false :=
      List.forall_mem_append.2 ⟨hall, List.forall_mem_singleton.2 hc⟩
    refine ⟨[], s, words_eq_singleton (by simp) hword, ?_⟩
    cases s with
    | nil => rfl
    | cons d s => exact words_eq_singleton (List.cons_ne_nil d s) hall
  · have hword : ∀ d ∈ back ++ [c], isBlank d = false :=
      List.forall_mem_append.2 ⟨hback, List.forall_mem_singleton.2 hc⟩
    refine ⟨words front, back, ?_, ?_⟩
    · rw [List.append_assoc, List.cons_append, words_append_blank front _ hb,
        words_eq_singleton (by simp) hword]
    · rw [words_append_blank front _ hb]
      cases back with
      | nil => rfl
      | cons d back =>
        rw [words_eq_singleton (List.cons_ne_nil d back) hback]
        rfl

/-- Closing characters are cut off the words at the end. -/
theorem words_dropClosing (s : List Char) :
    words (dropClosing s) = (openWords (words s).reverse).reverse := by
  induction s using List.reverseRecOn with
  | nil => rfl
  | append_singleton s c ih =>
    by_cases hclosing : isClosing c = true
    · have hdrop : dropClosing (s ++ [c]) = dropClosing s :=
        dropEndWhile_append s (List.forall_mem_singleton.2 hclosing)
      rw [hdrop, ih]
      cases hblank : isBlank c with
      | true =>
        rw [words_append_blank s [] hblank]
        exact congrArg (fun ws => (openWords ws.reverse).reverse) (List.append_nil _).symm
      | false =>
        rcases exists_words_concat s hblank with ⟨before, word, hwith, hwithout⟩
        rw [hwith, hwithout, List.reverse_append, List.reverse_append]
        congr 1
        cases word with
        | nil =>
          have hnil : dropClosing ([] ++ [c]) = [] :=
            dropEndWhile_append [] (by simpa using hclosing)
          rw [List.reverse_singleton, List.singleton_append, openWords, hnil]
          rfl
        | cons d word =>
          have hsame : dropClosing (d :: word ++ [c]) = dropClosing (d :: word) :=
            dropEndWhile_append _ (List.forall_mem_singleton.2 hclosing)
          exact openWords_cons_congr hsame.symm _
    · rw [Bool.not_eq_true] at hclosing
      have hblank : isBlank c = false := by
        cases hblank : isBlank c with
        | false => rfl
        | true => rw [isClosing_of_isBlank hblank] at hclosing; cases hclosing
      rcases exists_words_concat s hblank with ⟨before, word, hwith, -⟩
      have hkeep : dropClosing (word ++ [c]) = word ++ [c] := dropEndWhile_concat word hclosing
      rw [dropClosing, dropEndWhile_concat s hclosing, hwith, List.reverse_append,
        List.reverse_singleton, List.singleton_append, openWords, hkeep]
      cases word <;> simp

/-- What is left of the words without closing characters depends on the words only. -/
theorem words_dropClosing_congr {s t : List Char} (h : words s = words t) :
    words (dropClosing s) = words (dropClosing t) := by
  rw [words_dropClosing, words_dropClosing, h]

/-! ## Line breaks -/

/-- A line break begins with a blank. -/
theorem isBlank_of_startsBreak {c : Char} {s : List Char} (h : startsBreak (c :: s) = true) :
    isBlank c = true := by
  unfold startsBreak at h
  split at h
  all_goals first
    | rename_i heq
      cases heq
      rfl
    | cases h

/-- No line break goes on to a character that is not blank. -/
theorem startsBreak_append_bare (s : List Char) {c : Char} (hc : isBlank c = false)
    (rest : List Char) : startsBreak (s ++ c :: rest) = startsBreak s := by
  fun_induction startsBreak s with
  | case1 => rfl
  | case2 => rfl
  | case3 s ih => exact ih
  | case4 s ih => exact ih
  | case5 s hfeed hreturn hspace htab =>
    cases s with
    | nil =>
      rw [List.nil_append, Bool.eq_false_iff]
      intro hbreak
      rw [isBlank_of_startsBreak hbreak] at hc
      cases hc
    | cons d s =>
      rw [List.cons_append, Bool.eq_false_iff]
      intro hbreak
      unfold startsBreak at hbreak
      split at hbreak
      · rename_i heq
        cases heq
        exact hfeed s rfl
      · rename_i heq
        rcases List.cons.inj heq with ⟨rfl, hrest⟩
        cases s with
        | nil =>
          cases hrest
          cases hc
        | cons e s =>
          cases hrest
          exact hreturn s rfl
      · rename_i heq
        cases heq
        exact hspace s rfl
      · rename_i heq
        cases heq
        exact htab s rfl
      · cases hbreak

/-- Blanks that are skipped after a blank, and line breaks, keep the words. -/
theorem words_collapseBreaks (skipping : Bool) (s lead rest : List Char)
    (hlead : skipping = true → ∃ front b, lead = front ++ [b] ∧ isBlank b = true) :
    words (lead ++ collapseBreaks skipping s ++ rest) = words (lead ++ s ++ rest) := by
  induction s generalizing skipping lead with
  | nil => rfl
  | cons c s ih =>
    rw [collapseBreaks]
    split
    · rename_i hskip
      rw [Bool.and_eq_true] at hskip
      rw [ih true lead (fun _ => hlead hskip.1)]
      rcases hlead hskip.1 with ⟨front, b, rfl, hb⟩
      simp only [List.append_assoc, List.cons_append, List.nil_append]
      rw [words_append_blank front _ hb, words_append_blank front _ hb,
        words_cons_of_isBlank _ hskip.2]
    · split
      · rename_i hbreak
        have hnext := ih true (lead ++ [' ']) (fun _ => ⟨lead, ' ', rfl, rfl⟩)
        simp only [List.append_assoc, List.cons_append, List.nil_append] at hnext ⊢
        rw [hnext, words_append_blank lead _ isBlank_space,
          words_append_blank lead _ (isBlank_of_startsBreak hbreak)]
      · have hnext := ih false (lead ++ [c]) (fun h => absurd h Bool.false_ne_true)
        simpa only [List.append_assoc, List.cons_append, List.nil_append] using hnext

/-- Collapsing line breaks keeps the words, whatever is around. -/
theorem sameWords_collapseBreaks (s : List Char) : SameWords (collapseBreaks false s) s := by
  intro lead rest
  exact words_collapseBreaks false s lead rest nofun

/-- A text is collapsed in two halves if the second one does not begin with a blank. -/
theorem collapseBreaks_append_bare (skipping : Bool) (s : List Char) {c : Char}
    (hc : isBlank c = false) (rest : List Char) :
    collapseBreaks skipping (s ++ c :: rest) =
      collapseBreaks skipping s ++ c :: collapseBreaks false rest := by
  induction s generalizing skipping with
  | nil =>
    have hbreak : startsBreak (c :: rest) = false := startsBreak_append_bare [] hc rest
    have hfirst : collapseBreaks skipping (c :: rest) = c :: collapseBreaks false rest := by
      rw [collapseBreaks, hc, Bool.and_false, if_neg Bool.false_ne_true, hbreak,
        if_neg Bool.false_ne_true]
    exact hfirst
  | cons d s ih =>
    have hbreak : startsBreak (d :: (s ++ c :: rest)) = startsBreak (d :: s) :=
      startsBreak_append_bare (d :: s) hc rest
    rw [List.cons_append, collapseBreaks, collapseBreaks, hbreak]
    split
    · exact ih true
    · split
      · rw [ih true, List.cons_append]
      · rw [ih false, List.cons_append]

/-- The part of a text up to its last character that is not blank, and the part from its first
one on, are collapsed by themselves if there is no line feed between them. -/
theorem collapseBreaks_around {s blanks t : List Char}
    (hs : ∀ c ∈ s.getLast?, isBlank c = false) (hblanks : '\n' ∉ blanks)
    (ht : ∀ c ∈ t.head?, isBlank c = false) :
    collapseBreaks false (s ++ blanks ++ t) =
      collapseBreaks false s ++ blanks ++ collapseBreaks false t := by
  have hmiddle : collapseBreaks false (s ++ blanks) = collapseBreaks false s ++ blanks := by
    rcases List.eq_nil_or_concat s with rfl | ⟨front, last, rfl⟩
    · exact collapseBreaks_of_not_mem hblanks
    · rw [List.concat_eq_append] at hs ⊢
      have hlast := hs last List.getLast?_concat
      have hwhole := collapseBreaks_append_bare false front hlast blanks
      have hend := collapseBreaks_append_bare false front hlast []
      rw [collapseBreaks_of_not_mem hblanks] at hwhole
      rw [List.append_assoc, List.singleton_append, hwhole, hend, List.append_assoc]
      rfl
  cases t with
  | nil => rw [List.append_nil, hmiddle, collapseBreaks, List.append_nil]
  | cons c t =>
    have hfirst := collapseBreaks_append_bare false [] (ht c rfl) t
    rw [List.nil_append] at hfirst
    rw [collapseBreaks_append_bare false _ (ht c rfl), hmiddle, hfirst]
    rfl

end Dialogue.Text
