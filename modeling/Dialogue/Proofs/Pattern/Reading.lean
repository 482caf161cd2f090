import Dialogue.Proofs.Pattern.Phrase

/-!
# How tokens read a text

The search matches tokens against a text from left to right.  Its answers are
described by a relation with one rule for each kind of token, which says how the
text is cut without saying in which order the cuts are tried.

Main results:

- Theorem `follow_sound`: the captures of the search are those of some cut.
- Theorem `follow_greedy`: among the captures of all cuts those of the search are
  the first in the order that compares their lengths from left to right.
-/

namespace Dialogue

open Text

/-! ## Single tokens -/

/-- A literal word is dropped exactly where the text begins with it up to case. -/
theorem dropLiteral_eq_some_iff {word s rest : List Char} :
    dropLiteral word s = some rest ↔ ∃ part, s = part ++ rest ∧ SameText part word := by
  induction word generalizing s with
  | nil =>
    simp only [dropLiteral, Option.some.injEq]
    constructor
    · intro h
      exact ⟨[], by simpa using h, .refl []⟩
    · rintro ⟨part, rfl, hpart⟩
      rw [hpart.eq_nil, List.nil_append]
  | cons w word ih =>
    cases s with
    | nil =>
      simp only [dropLiteral, reduceCtorEq, false_iff, not_exists, not_and]
      intro part hpart hsame
      have hlen := hsame.length_eq
      simp [(List.append_eq_nil_iff.1 hpart.symm).1] at hlen
    | cons c s =>
      simp only [dropLiteral]
      split
      · rename_i hfold
        have hc : foldChar w = foldChar c := sameFold_iff.1 hfold
        rw [ih]
        constructor
        · rintro ⟨part, rfl, hpart⟩
          refine ⟨c :: part, rfl, ?_⟩
          rw [SameText, List.map_cons, List.map_cons, hc, hpart]
        · rintro ⟨part, hpart, hsame⟩
          rcases List.map_eq_cons_iff.1 hsame with ⟨d, part, rfl, -, hrest⟩
          rcases List.cons.inj hpart with ⟨-, rfl⟩
          exact ⟨part, rfl, hrest⟩
      · rename_i hfold
        simp only [reduceCtorEq, false_iff, not_exists, not_and]
        rintro part hpart hsame
        rcases List.map_eq_cons_iff.1 hsame with ⟨d, part, rfl, hd, -⟩
        rcases List.cons.inj hpart with ⟨rfl, -⟩
        exact hfold (sameFold_iff.2 hd.symm)

/-- What is left behind a literal word does not depend on how the word is cut
off. -/
theorem dropLiteral_append {word part : List Char} (rest : List Char) (h : SameText part word) :
    dropLiteral word (part ++ rest) = some rest :=
  dropLiteral_eq_some_iff.2 ⟨part, rfl, h⟩

variable {next : List Char → Option Captures}

/-- What a wildcard takes is a phrase, and the pattern goes on behind it. -/
theorem take_wildcard_sound {s : List Char} {captures : Captures}
    (h : Token.wildcard.take next s = some captures) :
    ∃ phrase more rest, captures = phrase :: more ∧ IsPhrase phrase ∧ s = phrase ++ rest ∧
      next rest = some more := by
  cases s with
  | nil => simp [Token.take] at h
  | cons c s =>
    simp only [Token.take] at h
    split at h
    · rename_i hc
      rcases Option.map_eq_some_iff.1 h with ⟨⟨phrase, more⟩, hfill, rfl⟩
      rcases fill_sound hfill with ⟨htail, rest, hcut, hrest⟩
      rcases List.exists_cons_of_ne_nil htail.ne_nil with ⟨d, tail, rfl⟩
      rcases List.cons.inj hcut with ⟨rfl, -⟩
      exact ⟨_, more, rest, rfl, isPhrase_iff.2 ⟨⟨c, tail, rfl, hc⟩, htail⟩, hcut, hrest⟩
    · simp at h

/-- A wildcard takes at least as much as any phrase behind which the pattern goes
on: more, or that phrase with the captures behind it. -/
theorem take_wildcard_longest {phrase rest : List Char} {more : Captures} (h : IsPhrase phrase)
    (hnext : next rest = some more) :
    ∃ longest others, Token.wildcard.take next (phrase ++ rest) = some (longest :: others) ∧
      (phrase.length < longest.length ∨ (longest = phrase ∧ others = more)) := by
  rcases fill_longest h.isPhraseTail hnext with ⟨longest, others, hfill, hlong⟩
  rcases h.exists_cons with ⟨c, tail, rfl, hc⟩
  refine ⟨longest, others, ?_, hlong⟩
  simp only [List.cons_append] at hfill
  simp [Token.take, hc, hfill]

/-! ## Cuts of a text -/

/-- The tokens that follow a matched token read a text: in front of each token
stands a space, literal words agree with the text up to case, the captures are
the phrases that the wildcards stand for, and closing characters are left. -/
inductive Follows : List Token → Captures → List Char → Prop
  /-- Nothing but closing characters is left. -/
  | closing {s : List Char} : (∀ c ∈ s, isClosing c = true) → Follows [] [] s
  /-- A literal word. -/
  | literal {word part : List Char} {tokens : List Token} {captures : Captures}
      {s : List Char} :
      SameText part word → Follows tokens captures s →
      Follows (.literal word :: tokens) captures (' ' :: (part ++ s))
  /-- A phrase in the place of a wildcard. -/
  | wildcard {phrase : List Char} {tokens : List Token} {captures : Captures}
      {s : List Char} :
      IsPhrase phrase → Follows tokens captures s →
      Follows (.wildcard :: tokens) (phrase :: captures) (' ' :: (phrase ++ s))

/-- A whole text is searched as if a space stood in front of it. -/
theorem search_eq_follow (tokens : List Token) (s : List Char) :
    search tokens s = follow tokens (' ' :: s) := by
  cases tokens with
  | nil =>
    have hspace : isClosing ' ' = true := isClosing_of_isBlank isBlank_space
    simp [search, follow, hspace]
  | cons token tokens => simp [search, follow]

/-- The captures of the search are those of a cut of the text. -/
theorem follow_sound {tokens : List Token} {s : List Char} {captures : Captures}
    (h : follow tokens s = some captures) : Follows tokens captures s := by
  induction tokens generalizing s captures with
  | nil =>
    simp only [follow] at h
    split at h
    · rename_i hall
      obtain rfl := Option.some.inj h
      exact .closing (List.all_eq_true.1 hall)
    · simp at h
  | cons token tokens ih =>
    cases s with
    | nil => simp [follow] at h
    | cons c s =>
      simp only [follow] at h
      split at h
      · rename_i hc
        subst hc
        cases token with
        | literal word =>
          rcases Option.bind_eq_some_iff.1 h with ⟨rest, hdrop, hrest⟩
          rcases dropLiteral_eq_some_iff.1 hdrop with ⟨part, rfl, hpart⟩
          exact .literal hpart (ih hrest)
        | wildcard =>
          rcases take_wildcard_sound h with ⟨phrase, more, rest, rfl, hphrase, rfl, hrest⟩
          exact .wildcard hphrase (ih hrest)
      · simp at h

/-- Every cut of the text is found, or one that is longer at the first wildcard
where the two differ. -/
theorem follow_greedy {tokens : List Token} {s : List Char} {captures : Captures}
    (h : Follows tokens captures s) :
    ∃ longest, follow tokens s = some longest ∧
      (longest = captures ∨ captures.map List.length < longest.map List.length) := by
  induction h with
  | @closing s hall => exact ⟨[], by simpa [follow] using hall, Or.inl rfl⟩
  | @literal word part tokens captures s hpart _ ih =>
    rcases ih with ⟨longest, hfollow, hlong⟩
    refine ⟨longest, ?_, hlong⟩
    simp [follow, Token.take, dropLiteral_append s hpart, hfollow]
  | @wildcard phrase tokens captures s hphrase _ ih =>
    rcases ih with ⟨more, hfollow, hmore⟩
    rcases take_wildcard_longest hphrase hfollow with ⟨longest, others, htake, hlong⟩
    refine ⟨longest :: others, by simpa [follow] using htake, ?_⟩
    simp only [List.map_cons, List.cons_lt_cons_iff]
    rcases hlong with hlt | ⟨rfl, rfl⟩
    · exact Or.inr (Or.inl hlt)
    · rcases hmore with rfl | hlt
      · exact Or.inl rfl
      · exact Or.inr (Or.inr ⟨rfl, hlt⟩)

end Dialogue
