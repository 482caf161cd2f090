import Dialogue.Proofs.Text.Cleaning
import Dialogue.Proofs.Text.Words

/-!
# Blanks around texts

Cleaning takes the blanks at both ends of a text away, also where a carriage return at its seam
with them takes a line feed with it.  So blanks around a text leave no trace when it is cleaned, and
a text of which nothing is left has had nothing but blanks.

Main results:

- Theorem `clean_append_blank`, `clean_blank_append`: blanks around a text leave no trace.
- Theorem `clean_eq_empty_iff`: exactly blank texts are cleaned to nothing.
-/

namespace Dialogue.Text

variable {c : Char} {s tail lead : List Char}

/-! ## Carriage returns -/

/-- A character that is not a carriage return stays. -/
theorem dropReturns_cons_of_ne (hc : c ≠ '\r') : dropReturns (c :: s) = c :: dropReturns s := by
  rw [dropReturns, if_neg hc]
  exact fun _ h _ => hc h

/-- A carriage return goes alone unless a line feed follows. -/
theorem dropReturns_return (hs : s.head? ≠ some '\n') :
    dropReturns ('\r' :: s) = dropReturns s := by
  rw [dropReturns, if_pos rfl]
  rintro rest - rfl
  exact hs rfl

/-- Without its carriage returns a text is blank exactly if it has been blank before. -/
@[simp] theorem isBlankText_dropReturns (s : List Char) :
    isBlankText (dropReturns s) = isBlankText s := by
  have hreturn : isBlank '\r' = true := rfl
  have hfeed : isBlank '\n' = true := rfl
  fun_induction dropReturns s <;> simp_all [isBlankText]

/-- Blanks behind a text are blanks behind what is left of it. -/
theorem exists_dropReturns_append (s : List Char) (htail : isBlankText tail = true) :
    ∃ rest, isBlankText rest = true ∧ dropReturns (s ++ tail) = dropReturns s ++ rest := by
  fun_induction dropReturns s with
  | case1 => exact ⟨dropReturns tail, by rwa [isBlankText_dropReturns], rfl⟩
  | case2 s ih => exact ih
  | case3 s hfeed ih =>
    cases s with
    -- The last carriage return may take a line feed of the blanks with it.
    | nil => exact ⟨dropReturns ('\r' :: tail), by rwa [isBlankText_dropReturns], rfl⟩
    | cons c s =>
      have hhead : (c :: s ++ tail).head? ≠ some '\n' := by
        intro h
        cases h
        exact hfeed s rfl rfl
      rw [List.cons_append, dropReturns_return hhead]
      exact ih
  | case4 c s _ hc ih =>
    obtain ⟨rest, hrest, hdrop⟩ := ih
    refine ⟨rest, hrest, ?_⟩
    rw [List.cons_append, dropReturns_cons_of_ne hc, hdrop, List.cons_append]

/-- One blank in front of a text is a blank in front of what is left of it, or takes one away. -/
theorem dropWhile_dropReturns_cons (hc : isBlank c = true) :
    (dropReturns (c :: s)).dropWhile isBlank = (dropReturns s).dropWhile isBlank := by
  by_cases hreturn : c = '\r'
  · subst hreturn
    by_cases hfeed : s.head? = some '\n'
    · obtain ⟨rest, rfl⟩ := List.head?_eq_some_iff.1 hfeed
      rw [dropReturns, dropReturns_cons_of_ne (by decide), List.dropWhile_cons_of_pos rfl]
    · rw [dropReturns_return hfeed]
  · rw [dropReturns_cons_of_ne hreturn, List.dropWhile_cons_of_pos hc]

/-- Blanks in front of a text leave no blanks that are not in front of it. -/
theorem dropWhile_dropReturns_append (hlead : isBlankText lead = true) :
    (dropReturns (lead ++ s)).dropWhile isBlank = (dropReturns s).dropWhile isBlank := by
  induction lead with
  | nil => rfl
  | cons c lead ih =>
    rw [isBlankText, List.all_cons, Bool.and_eq_true] at hlead
    rw [List.cons_append, dropWhile_dropReturns_cons hlead.1]
    exact ih hlead.2

/-! ## Cleaning -/

/-- Blanks behind a text leave no trace. -/
theorem clean_append_blank (s : String) {tail : String} (htail : isBlankText tail.toList = true) :
    clean (s ++ tail) = clean s := by
  obtain ⟨rest, hrest, hdrop⟩ := exists_dropReturns_append s.toList htail
  rw [isBlankText, List.all_eq_true] at hrest
  rw [clean, clean, cleanChars, cleanChars, String.toList_append, hdrop, trim, trim,
    List.dropWhile_append]
  split
  · rename_i hnil
    rw [List.isEmpty_iff] at hnil
    rw [hnil, dropWhile_eq_nil_iff.2 hrest]
  · rw [dropEndWhile_append _ hrest]

/-- Blanks in front of a text leave no trace. -/
theorem clean_blank_append {lead : String} (hlead : isBlankText lead.toList = true) (s : String) :
    clean (lead ++ s) = clean s := by
  rw [clean, clean, cleanChars, cleanChars, String.toList_append, trim, trim,
    dropWhile_dropReturns_append hlead]

/-- Exactly blank texts are cleaned to nothing. -/
theorem clean_eq_empty_iff {s : String} : clean s = "" ↔ isBlankText s.toList = true := by
  rw [← isBlankText_dropReturns, ← trim_eq_nil_iff, clean, cleanChars]
  exact String.ofList_eq_empty_iff

end Dialogue.Text
