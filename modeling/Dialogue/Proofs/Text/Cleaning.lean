import Dialogue.Text.Cleanup
import Mathlib.Data.List.DropRight

/-!
# Clean texts

A clean text has no carriage returns and no blanks at its ends.  Cleaning is what
makes a text clean, and it leaves a clean text alone.

Main results:

- Theorem `trim_eq_self_iff`: trimming leaves a text alone exactly if it has no
  blanks at its ends.
- Theorem `clean_clean`: cleaning twice is cleaning once.
-/

namespace Dialogue.Text

/-! ## Blanks at the ends -/

/-- A text without blanks at its ends. -/
structure HasBareEnds (s : List Char) : Prop where
  first : ∀ c ∈ s.head?, isBlank c = false
  last : ∀ c ∈ s.getLast?, isBlank c = false

/-- The text that is left when the end is cut off begins as before. -/
theorem head?_dropEndWhile {p : Char → Bool} {s : List Char} {c : Char}
    (h : c ∈ (dropEndWhile p s).head?) : c ∈ s.head? := by
  rcases List.rdropWhile_prefix p (l := s) with ⟨tail, hs⟩
  have hdrop : dropEndWhile p s ++ tail = s := hs
  cases hleft : dropEndWhile p s with
  | nil => simp [hleft] at h
  | cons first rest =>
    rw [hleft] at h hdrop
    rw [← hdrop]
    exact h

/-- Trimming leaves no blanks at the ends. -/
theorem hasBareEnds_trim (s : List Char) : HasBareEnds (trim s) := by
  constructor
  · intro c hc
    have hhead : c ∈ (s.dropWhile isBlank).head? := head?_dropEndWhile hc
    have hnot := List.head?_dropWhile_not isBlank s
    rw [Option.mem_def.1 hhead] at hnot
    simpa using hnot
  · intro c hc
    rw [trim, dropEndWhile, List.getLast?_reverse] at hc
    have hnot := List.head?_dropWhile_not isBlank (s.dropWhile isBlank).reverse
    rw [Option.mem_def.1 hc] at hnot
    simpa using hnot

/-- Trimming leaves a text without blanks at its ends alone. -/
theorem HasBareEnds.trim_eq {s : List Char} (h : HasBareEnds s) : trim s = s := by
  have hfirst : s.dropWhile isBlank = s := by
    cases s with
    | nil => rfl
    | cons c s => simp [h.first c rfl]
  have hlast : s.reverse.dropWhile isBlank = s.reverse := by
    cases hs : s.reverse with
    | nil => rfl
    | cons c rest =>
      have hc : c ∈ s.getLast? := by
        rw [← List.head?_reverse, hs]
        rfl
      simp [h.last c hc]
  rw [trim, hfirst, dropEndWhile, hlast, List.reverse_reverse]

/-- Trimming leaves a text alone exactly if it has no blanks at its ends. -/
theorem trim_eq_self_iff {s : List Char} : trim s = s ↔ HasBareEnds s := by
  constructor
  · intro h
    rw [← h]
    exact hasBareEnds_trim s
  · intro h
    exact h.trim_eq

/-- Trimming takes characters away and adds none. -/
theorem mem_of_mem_trim {s : List Char} {c : Char} (h : c ∈ trim s) : c ∈ s := by
  rw [trim, dropEndWhile, List.mem_reverse] at h
  have hmem := (List.dropWhile_sublist isBlank).subset h
  rw [List.mem_reverse] at hmem
  exact (List.dropWhile_sublist isBlank).subset hmem

/-! ## Carriage returns -/

/-- No carriage return is left. -/
theorem not_mem_dropReturns (s : List Char) : '\r' ∉ dropReturns s := by
  fun_induction dropReturns s <;> simp_all [eq_comm]

/-- A text without carriage returns is left alone. -/
theorem dropReturns_of_not_mem {s : List Char} (h : '\r' ∉ s) : dropReturns s = s := by
  fun_induction dropReturns s <;> simp_all

/-! ## Cleaning -/

/-- A clean text has no carriage return. -/
theorem not_mem_cleanChars (s : List Char) : '\r' ∉ cleanChars s := by
  intro h
  exact not_mem_dropReturns s (mem_of_mem_trim h)

/-- A clean text has no blanks at its ends. -/
theorem hasBareEnds_cleanChars (s : List Char) : HasBareEnds (cleanChars s) :=
  hasBareEnds_trim _

/-- Cleaning twice is cleaning once. -/
@[simp] theorem clean_clean (s : String) : clean (clean s) = clean s := by
  have hreturns : dropReturns (cleanChars s.toList) = cleanChars s.toList :=
    dropReturns_of_not_mem (not_mem_cleanChars _)
  have htrim : trim (cleanChars s.toList) = cleanChars s.toList :=
    (hasBareEnds_cleanChars _).trim_eq
  rw [clean, clean, String.toList_ofList, cleanChars, hreturns, htrim]

/-- The empty text is clean. -/
@[simp] theorem clean_empty : clean "" = "" := rfl

end Dialogue.Text
