import Dialogue.Proofs.Pattern.Assignment
import Dialogue.Proofs.Pattern.Translation

/-!
# What a pattern matches, and with which captures

A pattern matches exactly the inputs that it spells, up to case, under some
assignment of phrases to its wildcards.  Of all such assignments the captures are
the one that gives the first wildcard the longest phrase, then the second, and so
on.

Main results:

- Theorem `isSome_captures?_iff_assigns`: a pattern has captures exactly if some
  assignment spells the input.
- Theorem `captures?_longest`: the captures are the longest assignment, they stand
  in the input one after the other, and they are reported as they stand there.
-/

namespace Dialogue

open Text

/-- The tokens that the text of a pattern is read as: one for each word, without
the closing characters at the end. -/
def patternTokens (text : String) : List Token :=
  (words (dropClosing text.toList)).map Token.ofWord

/-- What of an input is compared with a pattern: the input with single spaces for
its runs of blanks, without the closing characters at the end. -/
def comparedPart (input : String) : List Char := dropClosing (collapse input.toList)

/-! ## Cuts of a whole text -/

/-- The captures of a cut of a text are an assignment that spells the text
without its closing characters. -/
theorem Follows.assigns {tokens : List Token} {captures : Captures} {s : List Char}
    (h : Follows tokens captures (' ' :: s)) (hopen : LastOpen tokens) :
    Assigns tokens captures (dropClosing s) := by
  have hlen := h.length_eq
  have hphrases := h.isPhrase
  rcases h.sameText with ⟨body, tail, hcut, htail, hbody⟩
  refine ⟨hlen, hphrases, ?_⟩
  by_cases hne : tokens = []
  · subst hne
    obtain rfl : body = [] := hbody.eq_nil
    have hclosing : ∀ c ∈ s, isClosing c = true := by
      rw [List.nil_append] at hcut
      intro c hc
      exact htail c (hcut ▸ List.mem_cons_of_mem ' ' hc)
    rw [dropClosing, dropEndWhile_eq_nil_iff.2 hclosing]
    exact .refl []
  · have hend : EndsOpen body :=
      (endsOpen_spaced_place hne hopen hlen hphrases).of_sameText hbody
    rcases exists_place_cons hne hlen with ⟨part, parts, hplace⟩
    rw [hplace, spaced_cons] at hbody
    rcases hbody.cons_inv (by decide) with ⟨rest, rfl, hrest⟩
    rw [List.cons_append] at hcut
    rcases List.cons.inj hcut with ⟨-, rfl⟩
    -- The space in front is not the last character, since it is closing.
    have hendRest : EndsOpen rest := by
      rcases hend with ⟨front, c, heq, hc⟩
      cases front with
      | nil =>
        rcases List.cons.inj heq with ⟨rfl, -⟩
        exact absurd hc (by decide)
      | cons d front => exact ⟨front, c, (List.cons.inj heq).2, hc⟩
    rw [dropClosing_append_of_endsOpen hendRest htail, hplace]
    exact hrest

/-- An assignment that spells a text without its closing characters gives a cut
of the text. -/
theorem Assigns.exists_follows {tokens : List Token} {phrases : Captures} {s : List Char}
    (h : Assigns tokens phrases (dropClosing s)) :
    ∃ captures, Follows tokens captures (' ' :: s) ∧ List.Forall₂ SameText captures phrases := by
  rcases exists_dropEndWhile isClosing s with ⟨tail, hcut, htail⟩
  by_cases hne : tokens = []
  · subst hne
    obtain rfl : phrases = [] := List.length_eq_zero_iff.1 h.length_eq
    have hall : ∀ c ∈ s, isClosing c = true := dropEndWhile_eq_nil_iff.1 h.sameText.eq_nil
    refine ⟨[], .closing (List.forall_mem_cons.2 ⟨by decide, hall⟩), .nil⟩
  · rcases exists_place_cons hne h.length_eq with ⟨part, parts, hplace⟩
    have hbody : SameText (' ' :: dropClosing s) (spaced (place tokens phrases)) := by
      rw [hplace, spaced_cons, ← hplace]
      exact h.sameText.cons ' '
    have hfollows := Dialogue.exists_follows h.length_eq h.isPhrase hbody htail
    rw [List.cons_append, dropClosing, ← hcut] at hfollows
    exact hfollows

/-! ## The tokens of a pattern -/

/-- A text is read as the same tokens after it has been stripped. -/
theorem map_ofWord_strip (text : String) :
    (words (Pattern.strip text).toList).map Token.ofWord = patternTokens text := by
  rw [Pattern.strip, String.toList_ofList, words_dropClosing_trim, patternTokens]

/-- A pattern has the tokens that its text is read as. -/
theorem Pattern.tokens_ofText? {text : String} {p : Pattern} (h : ofText? text = some p) :
    p.tokens = patternTokens text := by
  rw [p.tokens_eq, ofText?_text h, map_ofWord_strip]

/-- The last word of a pattern given as a text ends with a character that is not closing. -/
theorem lastOpen_patternTokens (text : String) : LastOpen (patternTokens text) := by
  intro word hlast
  rw [patternTokens, List.getLast?_map] at hlast
  rcases Option.map_eq_some_iff.1 hlast with ⟨lastWord, hword, hliteral⟩
  obtain rfl := Token.eq_of_ofWord_eq_literal hliteral
  rcases List.eq_nil_or_concat (dropClosing text.toList) with hnil | ⟨front, c, hconcat⟩
  · rw [hnil] at hword
    simp [words, pushWord] at hword
  · rw [List.concat_eq_append] at hconcat
    have hc : isClosing c = false := eq_false_of_dropEndWhile hconcat
    have hblank : isBlank c = false := by
      by_contra hblank
      rw [isClosing_of_isBlank (by simpa using hblank)] at hc
      simp at hc
    rcases exists_last_word front hblank with ⟨before, wordFront, hwords⟩
    rw [hconcat, hwords, List.getLast?_concat, Option.some.injEq] at hword
    exact ⟨wordFront, c, hword.symm, hc⟩

/-- The last word of a pattern ends with a character that is not closing. -/
theorem Pattern.lastOpen {text : String} {p : Pattern} (h : ofText? text = some p) :
    LastOpen p.tokens := by
  rw [tokens_ofText? h]
  exact lastOpen_patternTokens text

/-! ## Captures -/

/-- The captures of a pattern before they are tidied, if it matches. -/
theorem captureTokens_eq_follow (tokens : List Token) (s : List Char) :
    captureTokens tokens s = follow tokens (' ' :: s) := by
  rw [captures_eq_search, search_eq_follow]

/-- A phrase is reported as it stands. -/
theorem IsPhrase.tidy_eq {s : List Char} (h : IsPhrase s) : Pattern.tidy s = s := by
  have hedge : ∀ c, isWordChar c = true →
      (isBlank c || c == ',' || c == ';' || c == ':') = false := by
    intro c hc
    by_contra hsep
    have : isSeparator c = true := by
      simp only [Bool.not_eq_false, Bool.or_eq_true] at hsep
      simp only [isSeparator, Bool.or_eq_true]
      tauto
    rw [isWordChar_of_isSeparator this] at hc
    simp at hc
  have hfront : s.dropWhile (fun c => isBlank c || c == ',' || c == ';' || c == ':') = s := by
    rcases h.exists_cons with ⟨c, rest, rfl, hc⟩
    rw [List.dropWhile_cons_of_neg]
    simp [hedge c hc]
  rcases h.isPhraseTail.exists_last with ⟨front, c, hlast, hc⟩
  have hend : dropEndWhile (fun c => isBlank c || c == ',' || c == ';' || c == ':') s = s := by
    rw [hlast]
    exact dropEndWhile_concat front (hedge c hc)
  have hmark : s.getLast? ≠ some '?' := by
    rw [hlast, List.getLast?_concat, ne_eq, Option.some.injEq]
    rintro rfl
    exact absurd hc (by decide)
  simp only [Pattern.tidy]
  rw [hfront, hend, if_neg hmark]

/-- The captures that are reported are those of the search. -/
theorem Pattern.captures?_eq_some_iff {p : Pattern} {input : String} {captures : List String} :
    p.captures? input = some captures ↔
      follow p.tokens (' ' :: collapse input.toList) = some (captures.map String.toList) := by
  rw [captures?, captureTokens_eq_follow]
  cases hfollow : follow p.tokens (' ' :: collapse input.toList) with
  | none => simp
  | some raw =>
    have htidy : ∀ capture ∈ raw, tidy capture = capture := fun capture hmem =>
      ((follow_sound hfollow).isPhrase capture hmem).tidy_eq
    have hmap : raw.map (fun capture => String.ofList (tidy capture)) = raw.map String.ofList :=
      List.map_congr_left fun capture hmem => by rw [htidy capture hmem]
    rw [Option.map_some, hmap, Option.some.injEq, Option.some.injEq]
    constructor
    · rintro rfl
      simp
    · rintro rfl
      simp

/-- A pattern that has been read captures what its text captures. -/
theorem Pattern.captures?_eq_matchText {text : String} {p : Pattern} (h : ofText? text = some p)
    (input : String) : p.captures? input = matchText input text := by
  rw [matchText, h, Option.bind_some]

/-- A pattern has captures, and so matches, exactly if some assignment of phrases
to its wildcards spells the input. -/
theorem isSome_captures?_iff_assigns {text : String} {p : Pattern}
    (hp : Pattern.ofText? text = some p) (input : String) :
    p.isMatch input = (p.captures? input).isSome ∧
      ((p.captures? input).isSome ↔
        ∃ phrases, Assigns (patternTokens text) phrases (comparedPart input)) := by
  refine ⟨rfl, ?_⟩
  rw [← Pattern.tokens_ofText? hp, Pattern.captures?, captureTokens_eq_follow, Option.isSome_map]
  constructor
  · intro hsome
    rcases Option.isSome_iff_exists.1 hsome with ⟨captures, hfollow⟩
    exact ⟨captures, (follow_sound hfollow).assigns (Pattern.lastOpen hp)⟩
  · rintro ⟨phrases, hassigns⟩
    rcases hassigns.exists_follows with ⟨captures, hfollows, -⟩
    rcases follow_greedy hfollows with ⟨longest, hfollow, -⟩
    rw [hfollow]
    rfl

/-- A literal word with marks of its own and two wildcards are matched with the
input `Tom, Dick  (and) Harry!?`. -/
theorem isSome_captures?_iff_assigns_tom :
    ∃ p, Pattern.ofText? "* (AND) _ ?" = some p ∧ p.isMatch "Tom, Dick  (and) Harry!?" = true ∧
      ∃ phrases, Assigns (patternTokens "* (AND) _ ?") phrases
        (comparedPart "Tom, Dick  (and) Harry!?") := by
  have hread : (Pattern.ofText? "* (AND) _ ?").isSome = true := by decide +kernel
  rcases Option.isSome_iff_exists.1 hread with ⟨p, hp⟩
  rcases isSome_captures?_iff_assigns hp "Tom, Dick  (and) Harry!?" with ⟨hmatch, hassigns⟩
  have hsome : (p.captures? "Tom, Dick  (and) Harry!?").isSome = true := by
    rw [Pattern.captures?_eq_matchText hp]
    decide +kernel
  exact ⟨p, hp, hmatch.trans hsome, hassigns.1 hsome⟩

/-! ## The longest assignment -/

/-- Texts that occur in a text one after the other, from left to right. -/
def OccurInOrder : List (List Char) → List Char → Prop
  | [], _ => True
  | part :: parts, s => ∃ before after, s = before ++ part ++ after ∧ OccurInOrder parts after

/-- Texts that occur in the end of a text occur in the text. -/
theorem OccurInOrder.append {parts : List (List Char)} {s : List Char} (lead : List Char)
    (h : OccurInOrder parts s) : OccurInOrder parts (lead ++ s) := by
  cases parts with
  | nil => trivial
  | cons part parts =>
    rcases h with ⟨before, after, rfl, hafter⟩
    exact ⟨lead ++ before, after, by simp, hafter⟩

/-- Phrases that occur behind a space occur without the space. -/
theorem OccurInOrder.of_space {parts : List (List Char)} {s : List Char}
    (hphrases : ∀ part ∈ parts, IsPhrase part) (h : OccurInOrder parts (' ' :: s)) :
    OccurInOrder parts s := by
  cases parts with
  | nil => trivial
  | cons part parts =>
    rcases h with ⟨before, after, hcut, hafter⟩
    cases before with
    | nil =>
      rcases (hphrases part List.mem_cons_self).exists_cons with ⟨c, rest, rfl, hc⟩
      rcases List.cons.inj hcut with ⟨rfl, -⟩
      exact absurd hc (by decide)
    | cons c before => exact ⟨before, after, (List.cons.inj hcut).2, hafter⟩

/-- The captures of a cut occur in the text from left to right. -/
theorem Follows.occurInOrder {tokens : List Token} {captures : Captures} {s : List Char}
    (h : Follows tokens captures s) : OccurInOrder captures s := by
  induction h with
  | closing => trivial
  | @literal word part _ _ _ _ _ ih => exact ih.append (' ' :: part)
  | @wildcard phrase _ _ s _ _ ih => exact ⟨[' '], s, rfl, ih⟩

/-- Phrases that agree with captures up to case are equally long. -/
theorem map_length_eq_of_forall₂ {captures phrases : Captures}
    (h : List.Forall₂ SameText captures phrases) :
    captures.map List.length = phrases.map List.length := by
  induction h with
  | nil => rfl
  | cons hsame _ ih => rw [List.map_cons, List.map_cons, hsame.length_eq, ih]

/-- The captures of a pattern are an assignment that spells the input.  Every other
assignment agrees with them up to case or is shorter at the first wildcard where
they differ.  The captures stand in the input from left to right, each begins and
ends with a word character, and tidying leaves all of them as they are: they are those
of the preferred way to match the expression of the pattern. -/
theorem captures?_longest {text : String} {p : Pattern} (hp : Pattern.ofText? text = some p)
    {input : String} {captures : List String} (h : p.captures? input = some captures) :
    captures.length = p.wildcardCount ∧
      Assigns (patternTokens text) (captures.map String.toList) (comparedPart input) ∧
      (∀ phrases, Assigns (patternTokens text) phrases (comparedPart input) →
        List.Forall₂ SameText (captures.map String.toList) phrases ∨
          phrases.map List.length < captures.map String.length) ∧
      OccurInOrder (captures.map String.toList) (collapse input.toList) ∧
      (∀ capture ∈ captures, ∃ first rest front last,
        capture.toList = first :: rest ∧ isWordChar first = true ∧
          capture.toList = front ++ [last] ∧ isWordChar last = true) ∧
      captureTokens p.tokens (collapse input.toList) = some (captures.map String.toList) ∧
      p.expression.captures? (paddedInput input) = some (captures.map String.toList) := by
  have hfollow := Pattern.captures?_eq_some_iff.1 h
  have hcut := follow_sound hfollow
  refine ⟨?_, ?_, ?_, ?_, ?_, ?_, ?_⟩
  · rw [Pattern.wildcardCount, ← hcut.length_eq, List.length_map]
  · rw [← Pattern.tokens_ofText? hp]
    exact hcut.assigns (Pattern.lastOpen hp)
  · intro phrases hassigns
    rw [← Pattern.tokens_ofText? hp] at hassigns
    rcases hassigns.exists_follows with ⟨others, hothers, hsame⟩
    rcases follow_greedy hothers with ⟨longest, hlongest, hlong⟩
    have hsame' : captures.map String.toList = longest :=
      Option.some.inj (hfollow.symm.trans hlongest)
    subst hsame'
    rcases hlong with rfl | hlt
    · exact Or.inl hsame
    · right
      rw [map_length_eq_of_forall₂ hsame, List.map_map] at hlt
      have hlength : List.length ∘ String.toList = String.length := by
        funext capture
        exact String.length_toList
      rwa [hlength] at hlt
  · exact hcut.occurInOrder.of_space hcut.isPhrase
  · intro capture hcapture
    have hphrase : IsPhrase capture.toList := hcut.isPhrase _ (List.mem_map_of_mem hcapture)
    rcases hphrase.exists_cons with ⟨first, rest, hfirst, hc⟩
    rcases hphrase.isPhraseTail.exists_last with ⟨front, last, hlast, hd⟩
    exact ⟨first, rest, front, last, hfirst, hc, hlast, hd⟩
  · rw [captureTokens_eq_follow, hfollow]
  · rw [Pattern.captures?_expression, captureTokens_eq_follow, hfollow]

/-- In `x and y, and and z?` the first wildcard of `* AND *` takes all but the last
word, and no assignment gives it more. -/
theorem captures?_longest_and :
    ∃ p, Pattern.ofText? "* AND *" = some p ∧
      p.captures? "x and y, and and z?" = some ["x and y, and", "z"] ∧
      (["x and y, and", "z"] : List String).length = p.wildcardCount ∧
      ∀ phrases, Assigns (patternTokens "* AND *") phrases (comparedPart "x and y, and and z?") →
        List.Forall₂ SameText (["x and y, and", "z"].map String.toList) phrases ∨
          phrases.map List.length < ["x and y, and", "z"].map String.length := by
  have hread : (Pattern.ofText? "* AND *").isSome = true := by decide +kernel
  rcases Option.isSome_iff_exists.1 hread with ⟨p, hp⟩
  have hcaptures : p.captures? "x and y, and and z?" = some ["x and y, and", "z"] := by
    rw [Pattern.captures?_eq_matchText hp]
    decide +kernel
  rcases captures?_longest hp hcaptures with ⟨hcount, -, hlongest, -⟩
  exact ⟨p, hp, hcaptures, hcount, hlongest⟩

end Dialogue
