import Dialogue.Pattern.Wording
import Dialogue.Proofs.Pattern.Matching
import Dialogue.Proofs.Text.Cleaning

/-!
# Texts that are clean already

What a wildcard takes is clean: it stands in the question, where all blanks have become single
spaces, and it begins and ends with characters of words.

Main results:

- Theorem `isClean_iff`: a clean text has no carriage returns, and no blanks at its ends.
- Theorem `Wording.isClean_of_captures?`: no wildcard takes anything but a clean text.
-/

namespace Dialogue

open Text

/-- Whether cleaning leaves a text alone. -/
def IsClean (s : String) : Prop := clean s = s

/-- A clean text is one that has no carriage returns, and no blanks at its ends. -/
theorem isClean_iff {s : String} : IsClean s ↔ '\r' ∉ s.toList ∧ HasBareEnds s.toList := by
  constructor
  · intro h
    rw [← h, clean, String.toList_ofList]
    exact ⟨not_mem_cleanChars _, hasBareEnds_cleanChars _⟩
  · rintro ⟨hreturn, hbare⟩
    rw [IsClean, clean, cleanChars, dropReturns_of_not_mem hreturn, hbare.trim_eq,
      String.ofList_toList]

/-- The empty text is clean. -/
theorem isClean_empty : IsClean "" := clean_empty

/-- A text is clean once it has been cleaned. -/
theorem isClean_clean (s : String) : IsClean (clean s) := clean_clean s

/-! ## Phrases -/

/-- A phrase has no blanks at its ends. -/
theorem IsPhrase.hasBareEnds {s : List Char} (h : IsPhrase s) : HasBareEnds s := by
  have hword : ∀ {c : Char}, isWordChar c = true → isBlank c = false := by
    intro c hc
    by_contra hblank
    rw [isWordChar_of_isBlank (by simpa using hblank)] at hc
    cases hc
  constructor
  · intro c hc
    rcases h.exists_cons with ⟨d, rest, rfl, hd⟩
    cases hc
    exact hword hd
  · intro c hc
    rcases h.isPhraseTail.exists_last with ⟨front, d, rfl, hd⟩
    rw [List.getLast?_concat] at hc
    cases hc
    exact hword hd

/-! ## Blanks of a question -/

/-- Joined words have the characters of the words, and spaces. -/
theorem mem_of_mem_unwords {parts : List (List Char)} {c : Char} (h : c ∈ unwords parts) :
    c = ' ' ∨ ∃ part ∈ parts, c ∈ part := by
  fun_induction unwords parts with
  | case1 => cases h
  | case2 word => exact .inr ⟨word, List.mem_cons_self, h⟩
  | case3 word rest _ ih =>
    rcases List.mem_append.1 h with hword | hrest
    · exact .inr ⟨word, List.mem_cons_self, hword⟩
    · rcases List.mem_cons.1 hrest with rfl | hrest
      · exact .inl rfl
      · rcases ih hrest with hspace | ⟨part, hpart, hc⟩
        · exact .inl hspace
        · exact .inr ⟨part, List.mem_cons_of_mem word hpart, hc⟩

/-- The only blank that a question is compared with is the space. -/
theorem eq_space_of_mem_collapse {s : List Char} {c : Char} (h : c ∈ collapse s)
    (hblank : isBlank c = true) : c = ' ' := by
  rcases mem_of_mem_unwords h with hspace | ⟨word, hword, hc⟩
  · exact hspace
  · rw [(isWord_of_mem_words hword).2 c hc] at hblank
    cases hblank

/-- Texts that occur in a text have its characters. -/
theorem OccurInOrder.subset {parts : List (List Char)} {s : List Char} (h : OccurInOrder parts s) :
    ∀ part ∈ parts, part ⊆ s := by
  induction parts generalizing s with
  | nil => exact nofun
  | cons part parts ih =>
    rcases h with ⟨before, after, rfl, hafter⟩
    refine List.forall_mem_cons.2 ⟨?_, fun other hother => ?_⟩
    · exact fun c hc => List.mem_append_left _ (List.mem_append_right _ hc)
    · exact fun c hc => List.mem_append_right _ (ih hafter other hother hc)

/-! ## Captures -/

/-- What the wildcards of a pattern take is clean, and it is not empty. -/
theorem Pattern.isClean_of_captures? {p : Pattern} {input : String} {captures : List String}
    (h : p.captures? input = some captures) :
    ∀ capture ∈ captures, IsClean capture ∧ capture ≠ "" := by
  have hcut := follow_sound (Pattern.captures?_eq_some_iff.1 h)
  have hoccur := (hcut.occurInOrder.of_space hcut.isPhrase).subset
  intro capture hcapture
  have hmem : capture.toList ∈ captures.map String.toList := List.mem_map_of_mem hcapture
  have hphrase : IsPhrase capture.toList := hcut.isPhrase _ hmem
  have hreturn : '\r' ∉ capture.toList := by
    intro hin
    have hspace := eq_space_of_mem_collapse (hoccur _ hmem hin) rfl
    exact absurd hspace (by decide)
  refine ⟨isClean_iff.2 ⟨hreturn, hphrase.hasBareEnds⟩, ?_⟩
  rintro rfl
  exact hphrase.isPhraseTail.ne_nil rfl

/-- What the wildcards of a rule take is clean, and it is not empty. -/
theorem Wording.isClean_of_captures? {w : Wording} {profile vars : Bindings} {input : String}
    {captures : List String} (h : w.captures? profile vars input = some captures) :
    ∀ capture ∈ captures, IsClean capture ∧ capture ≠ "" := by
  unfold Wording.captures? matchText at h
  rcases Option.bind_eq_some_iff.1 h with ⟨p, _, hcaptures⟩
  exact Pattern.isClean_of_captures? hcaptures

end Dialogue
