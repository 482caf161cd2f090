import Dialogue.Proofs.Text.Folding

/-!
# Phrases

A phrase is what one wildcard can stand for: words with separators between them.
The search for the rest of a phrase works from character to character, so a
phrase is described in the same way here: it begins with a word character, goes
on with word characters and separators, and ends with a word character.

Main results:

- Theorem `isPhrase_iff`: the two descriptions of a phrase agree.
- Theorem `fill_sound`: what the search takes is the rest of a phrase, and the
  pattern goes on behind it.
- Theorem `fill_longest`: the search takes at least as much as any rest of a
  phrase behind which the pattern goes on.
-/

namespace Dialogue

open Text

/-! ## Runs and phrases -/

/-- A run of characters of one kind. -/
structure IsRun (p : Char → Bool) (s : List Char) : Prop where
  ne_nil : s ≠ []
  all : ∀ c ∈ s, p c = true

/-- Words with separators between them. -/
inductive IsPhrase : List Char → Prop
  /-- A single word. -/
  | word {word : List Char} : IsRun isWordChar word → IsPhrase word
  /-- A word in front of a phrase. -/
  | cons {word gap rest : List Char} :
      IsRun isWordChar word → IsRun isSeparator gap → IsPhrase rest →
      IsPhrase (word ++ (gap ++ rest))

/-- The rest of a phrase that has been begun, character by character. -/
inductive IsPhraseTail : List Char → Prop
  /-- The last character. -/
  | last {c : Char} : isWordChar c = true → IsPhraseTail [c]
  /-- One more character of a word. -/
  | word {c : Char} {s : List Char} :
      isWordChar c = true → IsPhraseTail s → IsPhraseTail (c :: s)
  /-- One more separator. -/
  | gap {c : Char} {s : List Char} :
      isSeparator c = true → IsPhraseTail s → IsPhraseTail (c :: s)

/-- The rest of a phrase is not empty. -/
theorem IsPhraseTail.ne_nil {s : List Char} (h : IsPhraseTail s) : s ≠ [] := by
  cases h <;> simp

/-- Word characters in front of the rest of a phrase. -/
theorem IsPhraseTail.append_word {word s : List Char} (hword : ∀ c ∈ word, isWordChar c = true)
    (h : IsPhraseTail s) : IsPhraseTail (word ++ s) := by
  induction word with
  | nil => exact h
  | cons c word ih =>
    rw [List.forall_mem_cons] at hword
    exact .word hword.1 (ih hword.2)

/-- Separators in front of the rest of a phrase. -/
theorem IsPhraseTail.append_gap {gap s : List Char} (hgap : ∀ c ∈ gap, isSeparator c = true)
    (h : IsPhraseTail s) : IsPhraseTail (gap ++ s) := by
  induction gap with
  | nil => exact h
  | cons c gap ih =>
    rw [List.forall_mem_cons] at hgap
    exact .gap hgap.1 (ih hgap.2)

/-- A run of word characters is the rest of a phrase. -/
theorem IsPhraseTail.of_run {word : List Char} (h : IsRun isWordChar word) :
    IsPhraseTail word := by
  rcases List.eq_nil_or_concat word |>.resolve_left h.ne_nil with ⟨front, c, rfl⟩
  have hall := h.all
  simp only [List.concat_eq_append, List.forall_mem_append, List.forall_mem_singleton] at hall
  rw [List.concat_eq_append]
  exact IsPhraseTail.append_word hall.1 (.last hall.2)

/-- A phrase begins with a word character. -/
theorem IsPhrase.exists_cons {s : List Char} (h : IsPhrase s) :
    ∃ c rest, s = c :: rest ∧ isWordChar c = true := by
  have hrun : ∀ {word : List Char}, IsRun isWordChar word →
      ∃ c rest, word = c :: rest ∧ isWordChar c = true := by
    intro word hword
    rcases List.exists_cons_of_ne_nil hword.ne_nil with ⟨c, rest, rfl⟩
    exact ⟨c, rest, rfl, hword.all c List.mem_cons_self⟩
  cases h with
  | word hword => exact hrun hword
  | cons hword hgap hrest =>
    rcases hrun hword with ⟨c, rest, rfl, hc⟩
    exact ⟨c, _, rfl, hc⟩

/-- A phrase is the rest of a phrase. -/
theorem IsPhrase.isPhraseTail {s : List Char} (h : IsPhrase s) : IsPhraseTail s := by
  induction h with
  | word hword => exact .of_run hword
  | cons hword hgap _ ih => exact .append_word hword.all (.append_gap hgap.all ih)

/-- One more word character in front of a phrase. -/
theorem IsPhrase.cons_word {c : Char} {s : List Char} (hc : isWordChar c = true)
    (h : IsPhrase s) : IsPhrase (c :: s) := by
  have hrun : ∀ {word : List Char}, IsRun isWordChar word → IsRun isWordChar (c :: word) := by
    intro word hword
    exact ⟨by simp, List.forall_mem_cons.2 ⟨hc, hword.all⟩⟩
  cases h with
  | word hword => exact .word (hrun hword)
  | cons hword hgap hrest => exact .cons (hrun hword) hgap hrest

/-- The rest of a phrase is a phrase behind separators, of which there may be
none. -/
theorem IsPhraseTail.exists_gap {s : List Char} (h : IsPhraseTail s) :
    ∃ gap rest, s = gap ++ rest ∧ (∀ c ∈ gap, isSeparator c = true) ∧ IsPhrase rest := by
  induction h with
  | @last c hc => exact ⟨[], [c], rfl, by simp, .word ⟨by simp, by simpa using hc⟩⟩
  | @gap c s hc _ ih =>
    rcases ih with ⟨gap, rest, rfl, hgap, hrest⟩
    exact ⟨c :: gap, rest, rfl, List.forall_mem_cons.2 ⟨hc, hgap⟩, hrest⟩
  | @word c s hc _ ih =>
    rcases ih with ⟨gap, rest, rfl, hgap, hrest⟩
    refine ⟨[], c :: (gap ++ rest), rfl, by simp, ?_⟩
    by_cases hempty : gap = []
    · rw [hempty]
      exact hrest.cons_word hc
    · have hword : IsRun isWordChar [c] := ⟨by simp, by simpa using hc⟩
      exact .cons hword ⟨hempty, hgap⟩ hrest

/-- The two descriptions of a phrase agree. -/
theorem isPhrase_iff {s : List Char} :
    IsPhrase s ↔ (∃ c rest, s = c :: rest ∧ isWordChar c = true) ∧ IsPhraseTail s := by
  constructor
  · intro h
    exact ⟨h.exists_cons, h.isPhraseTail⟩
  · rintro ⟨⟨c, rest, rfl, hc⟩, htail⟩
    rcases htail.exists_gap with ⟨gap, phrase, heq, hgap, hphrase⟩
    cases gap with
    | nil => rwa [heq]
    | cons d gap =>
      rcases List.cons.inj heq with ⟨rfl, -⟩
      have hsep : isSeparator c = true := hgap c List.mem_cons_self
      rw [isWordChar_of_isSeparator hsep] at hc
      simp at hc

/-- The rest of a phrase ends with a word character. -/
theorem IsPhraseTail.exists_last {s : List Char} (h : IsPhraseTail s) :
    ∃ front c, s = front ++ [c] ∧ isWordChar c = true := by
  induction h with
  | @last c hc => exact ⟨[], c, rfl, hc⟩
  | @word d s _ _ ih =>
    rcases ih with ⟨front, c, rfl, hc⟩
    exact ⟨d :: front, c, rfl, hc⟩
  | @gap d s _ _ ih =>
    rcases ih with ⟨front, c, rfl, hc⟩
    exact ⟨d :: front, c, rfl, hc⟩

/-- A text that agrees with a phrase up to case is a phrase. -/
theorem IsPhrase.of_sameText {s t : List Char} (h : IsPhrase t) (hst : SameText s t) :
    IsPhrase s := by
  have hrun : ∀ {p : Char → Bool} {s t : List Char}, (∀ c, p (foldChar c) = p c) →
      SameText s t → IsRun p t → IsRun p s := by
    intro p s t hp hst ht
    refine ⟨?_, hst.forall_mem hp ht.all⟩
    rintro rfl
    have hlen := hst.length_eq
    rw [List.length_nil] at hlen
    exact ht.ne_nil (List.length_eq_zero_iff.1 hlen.symm)
  induction h generalizing s with
  | word hword => exact .word (hrun isWordChar_foldChar hst hword)
  | cons hword hgap _ ih =>
    rcases hst.append_inv with ⟨word, back, rfl, hsame, hback⟩
    rcases hback.append_inv with ⟨gap, rest, rfl, hsameGap, hrest⟩
    exact .cons (hrun isWordChar_foldChar hsame hword) (hrun isSeparator_foldChar hsameGap hgap)
      (ih hrest)

/-! ## The search for a phrase -/

variable {next : List Char → Option Captures}

/-- What the search takes is the rest of a phrase, and the pattern goes on behind
it. -/
theorem fill_sound {s taken : List Char} {more : Captures}
    (h : fill next s = some (taken, more)) :
    IsPhraseTail taken ∧ ∃ rest, s = taken ++ rest ∧ next rest = some more := by
  induction s generalizing taken with
  | nil => simp [fill] at h
  | cons c s ih =>
    -- In both cases that go on, the rest of the phrase is one found in the tail.
    have hextend : (fill next s).map (fun out => (c :: out.1, out.2)) = some (taken, more) →
        ∃ tail, taken = c :: tail ∧ IsPhraseTail tail ∧
          ∃ rest, s = tail ++ rest ∧ next rest = some more := by
      intro hmap
      rcases Option.map_eq_some_iff.1 hmap with ⟨⟨tail, others⟩, hfill, heq⟩
      rcases Prod.mk.inj heq with ⟨rfl, rfl⟩
      exact ⟨tail, rfl, ih hfill⟩
    simp only [fill] at h
    split at h
    · rename_i hc
      rw [Option.orElse_eq_orElse, Option.orElse_eq_or] at h
      rcases Option.or_eq_some_iff.1 h with hmap | ⟨-, hstop⟩
      · rcases hextend hmap with ⟨tail, rfl, htail, rest, rfl, hrest⟩
        exact ⟨.word hc htail, rest, rfl, hrest⟩
      · rcases Option.map_eq_some_iff.1 hstop with ⟨others, hnext, heq⟩
        rcases Prod.mk.inj heq with ⟨rfl, rfl⟩
        exact ⟨.last hc, s, rfl, hnext⟩
    · split at h
      · rename_i hsep
        rcases hextend h with ⟨tail, rfl, htail, rest, rfl, hrest⟩
        exact ⟨.gap hsep htail, rest, rfl, hrest⟩
      · simp at h

/-- The search takes at least as much as any rest of a phrase behind which the
pattern goes on: more, or that rest with the captures behind it. -/
theorem fill_longest {taken rest : List Char} {more : Captures} (h : IsPhraseTail taken)
    (hnext : next rest = some more) :
    ∃ longest others, fill next (taken ++ rest) = some (longest, others) ∧
      (taken.length < longest.length ∨ (longest = taken ∧ others = more)) := by
  induction h with
  | @last c hc =>
    simp only [List.singleton_append, fill, hc, if_true]
    cases hfill : fill next rest with
    | none => exact ⟨[c], more, by simp [hnext], Or.inr ⟨rfl, rfl⟩⟩
    | some found =>
      rcases found with ⟨tail, others⟩
      have hpos : 0 < tail.length := List.length_pos_iff.2 (fill_sound hfill).1.ne_nil
      exact ⟨c :: tail, others, by simp, Or.inl (by simpa using hpos)⟩
  | @word c s hc _ ih =>
    rcases ih with ⟨longest, others, hfill, hlong⟩
    refine ⟨c :: longest, others, by simp [fill, hc, hfill], ?_⟩
    rcases hlong with hlt | ⟨rfl, rfl⟩
    · exact Or.inl (by simpa using hlt)
    · exact Or.inr ⟨rfl, rfl⟩
  | @gap c s hsep _ ih =>
    rcases ih with ⟨longest, others, hfill, hlong⟩
    have hc : isWordChar c = false := isWordChar_of_isSeparator hsep
    refine ⟨c :: longest, others, by simp [fill, hc, hsep, hfill], ?_⟩
    rcases hlong with hlt | ⟨rfl, rfl⟩
    · exact Or.inl (by simpa using hlt)
    · exact Or.inr ⟨rfl, rfl⟩

end Dialogue
