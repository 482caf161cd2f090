import Dialogue.Pattern.Wording
import Dialogue.Proofs.Pattern.Matching
import Dialogue.Proofs.Text.Cleaning

/-!
# Texts without a character of markup

The characters that markup is written with are neither word characters nor separators, so that
no wildcard takes one, and they are in no other character's capital or small form.  What is made
of texts without such a character does not have it.

Main results:

- Theorem `eq_of_mem_upperChar`, `eq_of_mem_lowerChar`: no other character has a character of
  markup in its forms.
- Theorem `Lacks.clean`, `Lacks.apply`: cleaning a text and changing its case bring no character
  of markup into it.
- Theorem `Wording.lacks_of_captures?`: no wildcard takes a character of markup.
-/

namespace Dialogue

open Text

/-- Whether a character does not occur in a text. -/
def Lacks (c : Char) (s : String) : Prop := c ∉ s.toList

instance (c : Char) (s : String) : Decidable (Lacks c s) :=
  inferInstanceAs (Decidable (c ∉ s.toList))

/-- The characters that markup is written with. -/
def markupChars : List Char := ['<', '>', '&', '"']

variable {c : Char}

/-! ## Parts of texts -/

/-- No character occurs in the empty text. -/
theorem lacks_empty (c : Char) : Lacks c "" := List.not_mem_nil

/-- A character that occurs in none of two texts does not occur in them together. -/
theorem Lacks.append {s t : String} (hs : Lacks c s) (ht : Lacks c t) : Lacks c (s ++ t) := by
  rw [Lacks, String.toList_append, List.mem_append]
  exact not_or_intro hs ht

/-- What is left without carriage returns was there before. -/
theorem mem_of_mem_dropReturns {s : List Char} (h : c ∈ dropReturns s) : c ∈ s := by
  fun_induction dropReturns s with
  | case1 => exact h
  | case2 s ih => exact List.mem_cons_of_mem _ (List.mem_cons_of_mem _ (ih h))
  | case3 s hs ih => exact List.mem_cons_of_mem _ (ih h)
  | case4 d s hs hd ih =>
    rcases List.mem_cons.1 h with rfl | h
    · exact List.mem_cons_self
    · exact List.mem_cons_of_mem d (ih h)

/-- Cleaning brings no character into a text. -/
theorem Lacks.clean {s : String} (hs : Lacks c s) : Lacks c (clean s) := by
  rw [Lacks, Text.clean, String.toList_ofList]
  intro h
  exact hs (mem_of_mem_dropReturns (mem_of_mem_trim h))

/-! ## Changes of case -/

/-- What holds of each character of markup. -/
theorem forall_markupChars {p : Char → Prop} (hopen : p '<') (hclose : p '>') (hand : p '&')
    (hquote : p '"') : ∀ mark ∈ markupChars, p mark := by
  simp only [markupChars, List.forall_mem_cons, List.not_mem_nil, false_implies, implies_true,
    and_true]
  exact ⟨hopen, hclose, hand, hquote⟩

/-- The mappings to capital and to small letters keep the code points of characters. -/
theorem caseRuns_keep_chars :
    upperRuns.all (·.keeps charRanges) = true ∧ lowerRuns.all (·.keeps charRanges) = true := by
  decide +kernel

/-- The mappings to capital and to small letters neither move a character of markup nor move
another character to its place. -/
theorem caseRuns_keep_markup :
    ∀ mark ∈ markupChars, upperRuns.all (·.keeps [(mark.toNat, mark.toNat)]) = true ∧
      lowerRuns.all (·.keeps [(mark.toNat, mark.toNat)]) = true := by
  apply forall_markupChars <;> decide +kernel

/-- The forms of several characters have no character of markup. -/
theorem expansions_lack_markup :
    ∀ mark ∈ markupChars, (∀ entry ∈ upperExpansions, mark ∉ entry.2.map Char.ofNat) ∧
      ∀ entry ∈ lowerExpansions, mark ∉ entry.2.map Char.ofNat := by
  apply forall_markupChars <;> decide +kernel

/-- Neither small sigma is a character of markup. -/
theorem sigmas_lack_markup : ∀ mark ∈ markupChars, mark ∉ ['ς'] ∧ mark ∉ ['σ'] := by
  apply forall_markupChars <;> decide

/-- Only a character of markup is moved to its place. -/
theorem eq_of_shiftChar {runs : List Shift} {d : Char}
    (hchars : runs.all (·.keeps charRanges) = true)
    (hkeep : runs.all (·.keeps [(c.toNat, c.toNat)]) = true) (h : c = shiftChar runs d) :
    d = c := by
  have hsame := inRanges_shiftChar hchars hkeep d
  have hself : inRanges [(c.toNat, c.toNat)] (shiftChar runs d).toNat = true :=
    inRanges_singleton_iff.2 (congrArg Char.toNat h.symm)
  rw [hself] at hsame
  exact Char.toNat_inj.1 (inRanges_singleton_iff.1 hsame.symm)

/-- Only a character of markup has itself in its form. -/
theorem eq_of_mem_caseForm {expansions : List (Nat × List Nat)} {runs : List Shift} {d : Char}
    (hchars : runs.all (·.keeps charRanges) = true)
    (hkeep : runs.all (·.keeps [(c.toNat, c.toNat)]) = true)
    (hexpansions : ∀ entry ∈ expansions, c ∉ entry.2.map Char.ofNat)
    (h : c ∈ caseForm expansions runs d) : d = c := by
  unfold caseForm at h
  split at h
  · rename_i codes hlookup
    rcases List.lookup_eq_some_iff.1 hlookup with ⟨before, after, hentries, _⟩
    have hmem : (d.toNat, codes) ∈ expansions := by
      rw [hentries]
      exact List.mem_append_right before List.mem_cons_self
    exact absurd h (hexpansions _ hmem)
  · exact eq_of_shiftChar hchars hkeep (List.mem_singleton.1 h)

/-- No other character has a character of markup in its capital form. -/
theorem eq_of_mem_upperChar (hc : c ∈ markupChars) {d : Char} (h : c ∈ upperChar d) : d = c := by
  have hkeep := (caseRuns_keep_markup c hc).1
  unfold upperChar at h
  split at h
  · exact eq_of_shiftChar caseRuns_keep_chars.1 hkeep (List.mem_singleton.1 h)
  · exact eq_of_mem_caseForm caseRuns_keep_chars.1 hkeep (expansions_lack_markup c hc).1 h

/-- No other character has a character of markup in its small form. -/
theorem eq_of_mem_lowerChar (hc : c ∈ markupChars) {d : Char} (h : c ∈ lowerChar d) : d = c := by
  have hkeep := (caseRuns_keep_markup c hc).2
  unfold lowerChar at h
  split at h
  · exact eq_of_shiftChar caseRuns_keep_chars.2 hkeep (List.mem_singleton.1 h)
  · exact eq_of_mem_caseForm caseRuns_keep_chars.2 hkeep (expansions_lack_markup c hc).2 h

/-- Capitals bring no character of markup into a text. -/
theorem mem_of_mem_upperChars (hc : c ∈ markupChars) {s : List Char} (h : c ∈ upperChars s) :
    c ∈ s := by
  rcases List.mem_flatMap.1 h with ⟨d, hd, hform⟩
  rw [eq_of_mem_upperChar hc hform] at hd
  exact hd

/-- Small letters bring no character of markup into a text. -/
theorem mem_of_mem_lowerAfter (hc : c ∈ markupChars) {s : List Char} :
    ∀ before, c ∈ lowerAfter before s → c ∈ s := by
  induction s with
  | nil => exact fun _ h => h
  | cons d s ih =>
    intro before h
    simp only [lowerAfter, List.mem_append] at h
    rcases h with hform | hrest
    · have hsigma := sigmas_lack_markup c hc
      split at hform
      · split at hform
        · exact absurd hform hsigma.1
        · exact absurd hform hsigma.2
      · rw [eq_of_mem_lowerChar hc hform]
        exact List.mem_cons_self
    · exact List.mem_cons_of_mem d (ih _ hrest)

/-- Capitalised words bring no character of markup into a text. -/
theorem mem_of_mem_capitaliseEach (hc : c ∈ markupChars) {s : List Char} :
    ∀ fresh, c ∈ capitaliseEach fresh s → c ∈ s := by
  induction s with
  | nil => exact fun _ h => h
  | cons d s ih =>
    intro fresh h
    simp only [capitaliseEach, List.mem_append] at h
    rcases h with hform | hrest
    · split at hform
      · rw [eq_of_mem_upperChar hc hform]
        exact List.mem_cons_self
      · exact List.mem_cons.2 (.inl (List.mem_singleton.1 hform))
    · exact List.mem_cons_of_mem d (ih _ hrest)

/-- A capital at the beginning brings no character of markup into a text. -/
theorem mem_of_mem_capitaliseChars (hc : c ∈ markupChars) {s : List Char}
    (h : c ∈ capitaliseChars s) : c ∈ s := by
  cases s with
  | nil => exact h
  | cons d s =>
    rcases List.mem_append.1 h with hform | hrest
    · rw [eq_of_mem_upperChar hc hform]
      exact List.mem_cons_self
    · exact List.mem_cons_of_mem d hrest

/-- Capitals bring no character of markup into a text. -/
theorem Lacks.uppercase (hc : c ∈ markupChars) {s : String} (hs : Lacks c s) :
    Lacks c (uppercase s) := by
  rw [Lacks, Text.uppercase, String.toList_ofList]
  exact fun h => hs (mem_of_mem_upperChars hc h)

/-- No change of case brings a character of markup into a text. -/
theorem Lacks.apply (hc : c ∈ markupChars) (casing : Casing) {s : String} (hs : Lacks c s) :
    Lacks c (casing.apply s) := by
  cases casing with
  | upper => exact hs.uppercase hc
  | lower =>
    rw [Lacks, Casing.apply, lowercase, String.toList_ofList]
    exact fun h => hs (mem_of_mem_lowerAfter hc [] h)
  | formal =>
    rw [Lacks, Casing.apply, String.toList_ofList]
    exact fun h => hs (mem_of_mem_capitaliseEach hc true h)
  | sentence =>
    rw [Lacks, Casing.apply, String.toList_ofList]
    exact fun h => hs (mem_of_mem_capitaliseChars hc h)

/-! ## Captures -/

/-- A character of markup neither belongs to words nor separates them. -/
theorem isWordChar_isSeparator_of_markup (hc : c ∈ markupChars) :
    isWordChar c = false ∧ isSeparator c = false := by
  have hall : ∀ mark ∈ markupChars, isWordChar mark = false ∧ isSeparator mark = false := by
    apply forall_markupChars <;> decide +kernel
  exact hall c hc

/-- No phrase has a character of markup. -/
theorem IsPhraseTail.not_mem (hc : c ∈ markupChars) {s : List Char} (h : IsPhraseTail s) :
    c ∉ s := by
  rcases isWordChar_isSeparator_of_markup hc with ⟨hword, hsep⟩
  have hne : ∀ {d : Char}, isWordChar d = true ∨ isSeparator d = true → c ≠ d := by
    rintro d hd rfl
    simp [hword, hsep] at hd
  induction h with
  | last hd => exact fun hmem => hne (.inl hd) (List.mem_singleton.1 hmem)
  | word hd _ ih => exact List.not_mem_cons_of_ne_of_not_mem (hne (.inl hd)) ih
  | gap hd _ ih => exact List.not_mem_cons_of_ne_of_not_mem (hne (.inr hd)) ih

/-- No wildcard of a pattern takes a character of markup. -/
theorem Pattern.lacks_of_captures? (hc : c ∈ markupChars) {p : Pattern} {input : String}
    {captures : List String} (h : p.captures? input = some captures) :
    ∀ capture ∈ captures, Lacks c capture := by
  intro capture hcapture
  have hfollow := Pattern.captures?_eq_some_iff.1 h
  have hphrase : IsPhrase capture.toList :=
    (follow_sound hfollow).isPhrase _ (List.mem_map_of_mem hcapture)
  exact hphrase.isPhraseTail.not_mem hc

/-- No wildcard of a rule takes a character of markup. -/
theorem Wording.lacks_of_captures? (hc : c ∈ markupChars) {w : Wording} {profile vars : Bindings}
    {input : String} {captures : List String}
    (h : w.captures? profile vars input = some captures) :
    ∀ capture ∈ captures, Lacks c capture := by
  unfold Wording.captures? matchText at h
  rcases Option.bind_eq_some_iff.1 h with ⟨p, _, hcaptures⟩
  exact Pattern.lacks_of_captures? hc hcaptures

end Dialogue
