import Dialogue.Proofs.Text.Folding
import Dialogue.Proofs.Text.Seams

/-!
# Texts in another case

Case folding keeps what divides a text into words and what ends it, and so does every function that
changes characters in case only, such as the one that lowers the ASCII letters of a text.

Main results:

- Theorem `keepsFold_toLower`: lowering changes characters in case only.
- Theorem `KeepsFold.keepsMarks`, `keepsMarks_foldChar`: which functions keep the marks.
- Theorem `KeepsMarks.words_map`: a text in another case has the words of the text, in that case.
- Theorem `KeepsMarks.dropClosing_map`: nor do closing characters at the end depend on the case.
- Theorem `dropClosing_collapse`: closing characters are cut off before or after the blanks are
  collapsed.
-/

namespace Dialogue.Text

/-! ## Changes of case -/

/-- A function that changes characters in case only. -/
def KeepsFold (f : Char → Char) : Prop := ∀ c, foldChar (f c) = foldChar c

/-- Lowering an ASCII character changes it in case only. -/
theorem foldChar_toLower_of_ascii :
    ∀ n < 128, foldChar (Char.ofNat n).toLower = foldChar (Char.ofNat n) := by
  decide +kernel

/-- Lowering changes characters in case only: nothing is lowered beyond ASCII. -/
theorem keepsFold_toLower : KeepsFold Char.toLower := by
  intro c
  by_cases hascii : c.toNat < 128
  · have hchar := foldChar_toLower_of_ascii c.toNat hascii
    rwa [Char.ofNat_toNat] at hchar
  · unfold Char.toLower
    rw [dif_neg]
    rintro ⟨-, hle⟩
    have hcode : c.toNat ≤ 90 := UInt32.le_iff_toNat_le.1 hle
    omega

/-- The wildcards of patterns. -/
def wildcardMarks : List Char := ['*', '_']

/-- The runs of case folding neither move a wildcard nor move another character to its place. -/
theorem foldRuns_keep_wildcards :
    (wildcardMarks.all fun mark => foldRuns.all (·.keeps [(mark.toNat, mark.toNat)])) = true := by
  decide +kernel

/-- A function that keeps what divides a text into words and what ends it: blanks, closing
characters and wildcards stay what they are, and nothing else becomes one of them. -/
structure KeepsMarks (f : Char → Char) : Prop where
  isBlank : ∀ c, isBlank (f c) = isBlank c
  isClosing : ∀ c, isClosing (f c) = isClosing c
  space : ∀ c, f c = ' ' ↔ c = ' '
  wildcard : ∀ mark ∈ wildcardMarks, ∀ c, f c = mark ↔ c = mark

/-- Folding keeps the marks. -/
theorem keepsMarks_foldChar : KeepsMarks foldChar where
  isBlank := isBlank_foldChar
  isClosing := isClosing_foldChar
  space := foldChar_eq_mark_iff (by decide)
  wildcard mark hmark :=
    foldChar_eq_iff_of_keeps (List.all_eq_true.1 foldRuns_keep_wildcards mark hmark)

namespace KeepsFold

variable {f : Char → Char} (hf : KeepsFold f)

include hf

/-- What folding keeps, every function keeps that changes characters in case only. -/
theorem keepsMarks : KeepsMarks f where
  isBlank c := by rw [← isBlank_foldChar, hf c, isBlank_foldChar]
  isClosing c := by rw [← isClosing_foldChar, hf c, isClosing_foldChar]
  space c := by rw [← keepsMarks_foldChar.space, hf c, keepsMarks_foldChar.space]
  wildcard mark hmark c := by
    rw [← keepsMarks_foldChar.wildcard mark hmark, hf c, keepsMarks_foldChar.wildcard mark hmark]

/-- A word character belongs to words in any case. -/
theorem isWordChar (c : Char) : isWordChar (f c) = isWordChar c := by
  rw [← isWordChar_foldChar, hf c, isWordChar_foldChar]

/-- A separator separates words in any case. -/
theorem isSeparator (c : Char) : isSeparator (f c) = isSeparator c := by
  rw [← isSeparator_foldChar, hf c, isSeparator_foldChar]

end KeepsFold

/-- Lowering keeps the marks. -/
theorem keepsMarks_toLower : KeepsMarks Char.toLower := keepsFold_toLower.keepsMarks

/-! ## Words and ends of a text -/

/-- Between two words stands a space. -/
theorem unwords_cons_cons (word next : List Char) (ws : List (List Char)) :
    unwords (word :: next :: ws) = word ++ ' ' :: unwords (next :: ws) := rfl

/-- Joining words goes the same way with other words. -/
theorem unwords_map {f : Char → Char} (hspace : f ' ' = ' ') (ws : List (List Char)) :
    unwords (ws.map (List.map f)) = (unwords ws).map f := by
  induction ws with
  | nil => rfl
  | cons word ws ih =>
    cases ws with
    | nil => rfl
    | cons next ws =>
      rw [List.map_cons] at ih ⊢
      rw [List.map_cons, unwords_cons_cons, ih, unwords_cons_cons, List.map_append, List.map_cons,
        hspace]

section KeepsMarks

variable {f : Char → Char} (hf : KeepsMarks f)

include hf

/-- The division into words goes the same way in another case. -/
theorem KeepsMarks.foldr_wordStep_map (s : List Char) :
    (s.map f).foldr wordStep ([], []) =
      ((s.foldr wordStep ([], [])).1.map f, (s.foldr wordStep ([], [])).2.map (List.map f)) := by
  induction s with
  | nil => rfl
  | cons c s ih =>
    rw [List.map_cons, List.foldr_cons, List.foldr_cons, ih]
    rcases s.foldr wordStep ([], []) with ⟨word, rest⟩
    cases hc : Text.isBlank c with
    | true => cases word <;> simp [wordStep, hf.isBlank, hc, pushWord]
    | false => simp [wordStep, hf.isBlank, hc]

/-- A text in another case has the words of the text, in that case. -/
theorem KeepsMarks.words_map (s : List Char) : words (s.map f) = (words s).map (List.map f) := by
  rw [words, hf.foldr_wordStep_map, words]
  rcases s.foldr wordStep ([], []) with ⟨word, rest⟩
  cases word <;> rfl

/-- Closing characters are cut off in the same place in another case. -/
theorem KeepsMarks.dropClosing_map (s : List Char) :
    dropClosing (s.map f) = (dropClosing s).map f := by
  have hclosing : Text.isClosing ∘ f = Text.isClosing := funext hf.isClosing
  rw [dropClosing, dropEndWhile, ← List.map_reverse, List.dropWhile_map, hclosing,
    ← List.map_reverse]
  rfl

/-- Blanks are collapsed in the same way in another case. -/
theorem KeepsMarks.collapse_map (s : List Char) : collapse (s.map f) = (collapse s).map f := by
  have hspace : f ' ' = ' ' := (hf.space ' ').2 rfl
  rw [collapse, hf.words_map, unwords_map hspace, collapse]

end KeepsMarks

/-! ## Closing characters and blanks -/

/-- One more word at the end stands behind a space, unless it is the only one. -/
theorem unwords_concat (ws : List (List Char)) (word : List Char) :
    unwords (ws ++ [word]) = if ws = [] then word else unwords ws ++ ' ' :: word := by
  induction ws with
  | nil => rfl
  | cons first ws ih =>
    cases ws with
    | nil => rfl
    | cons next ws =>
      rw [if_neg (List.cons_ne_nil next ws), List.cons_append] at ih
      rw [if_neg (List.cons_ne_nil first _), List.cons_append, List.cons_append,
        unwords_cons_cons, ih, unwords_cons_cons, List.append_assoc, List.cons_append]

/-- Closing characters are cut off joined words as they are cut off the words. -/
theorem dropClosing_unwords (ws : List (List Char)) :
    dropClosing (unwords ws) = unwords (openWords ws.reverse).reverse := by
  induction ws using List.reverseRecOn with
  | nil => rfl
  | append_singleton ws word ih =>
    rw [unwords_concat, List.reverse_append, List.reverse_singleton, List.singleton_append,
      openWords]
    cases hword : dropClosing word with
    | nil =>
      -- Nothing is left of the last word, and nothing of the space in front of it.
      have hall : ∀ c ∈ ' ' :: word, isClosing c = true :=
        List.forall_mem_cons.2 ⟨rfl, dropEndWhile_eq_nil_iff.1 hword⟩
      split
      · rename_i hempty
        rw [hempty, hword]
        rfl
      · exact (dropEndWhile_append _ hall).trans ih
    | cons c rest =>
      rw [List.reverse_cons, List.reverse_reverse, unwords_concat]
      split
      · exact hword
      · have hkeep : dropClosing word ≠ [] := hword ▸ List.cons_ne_nil c rest
        rw [List.append_cons, dropClosing, dropEndWhile_append_left _ hkeep]
        rw [dropClosing] at hword
        rw [hword, ← List.append_cons]

/-- Closing characters are cut off before or after the blanks are collapsed. -/
theorem dropClosing_collapse (s : List Char) :
    dropClosing (collapse s) = collapse (dropClosing s) := by
  rw [collapse, dropClosing_unwords, collapse, words_dropClosing]

end Dialogue.Text
