import Dialogue.Proofs.Pattern.Matching

/-!
# More general patterns

A wildcard takes whatever a word made of word characters is read as.  So a pattern in which
wildcards stand in the places of such words matches whatever the pattern with the words matches.
The two may cut an input in different places: a wildcard in front takes as much as it can, and
what is in the place of a word is then something else.

Main results:

- Theorem `Follows.exists_of_covers`: a cut for the words gives one for the wildcards.
- Theorem `isSome_matchText_of_covers`: what the one pattern matches the other one matches.
-/

namespace Dialogue

open Text

/-! ## Tokens that cover others -/

/-- One token is as general as another: it is the same, or a wildcard in the place of a word
that is made of word characters. -/
inductive Token.Covers : Token → Token → Prop
  | same (token : Token) : Covers token token
  | wildcard {word : List Char} (hword : ∀ c ∈ word, isWordChar c = true) :
    Covers .wildcard (.literal word)

/-- Whatever a token reads, a token that covers it reads, if no literal word is empty. -/
theorem Follows.exists_of_covers {general special : List Token}
    (hcovers : List.Forall₂ Token.Covers general special)
    (hwords : ∀ word, Token.literal word ∈ special → word ≠ []) {captures : Captures}
    {s : List Char} (h : Follows special captures s) :
    ∃ others, Follows general others s := by
  induction h generalizing general with
  | closing hall =>
    cases hcovers
    exact ⟨[], .closing hall⟩
  | @literal word part tokens captures s hpart _ ih =>
    rcases hcovers with _ | ⟨hfirst, hrest⟩
    rcases ih hrest fun other hmem => hwords other (List.mem_cons_of_mem _ hmem) with
      ⟨others, hothers⟩
    cases hfirst with
    | same => exact ⟨others, .literal hpart hothers⟩
    | wildcard hword =>
      -- The word as it stands in the text is a phrase of one word.
      have hphrase : IsPhrase word := .word ⟨hwords word List.mem_cons_self, hword⟩
      exact ⟨part :: others, .wildcard (hphrase.of_sameText hpart) hothers⟩
  | @wildcard phrase tokens captures s hphrase _ ih =>
    rcases hcovers with _ | ⟨hfirst, hrest⟩
    rcases ih hrest fun other hmem => hwords other (List.mem_cons_of_mem _ hmem) with
      ⟨others, hothers⟩
    cases hfirst with
    | same => exact ⟨phrase :: others, .wildcard hphrase hothers⟩

/-! ## Patterns that cover others -/

/-- The literal words of a pattern are words. -/
theorem isWord_of_mem_patternTokens {text : String} {word : List Char}
    (h : Token.literal word ∈ patternTokens text) : IsWord word := by
  rcases List.mem_map.1 h with ⟨other, hmem, hliteral⟩
  rw [← Token.eq_of_ofWord_eq_literal hliteral]
  exact isWord_of_mem_words hmem

/-- What a pattern matches is matched by every pattern that can be used and whose tokens cover
those of the first. -/
theorem isSome_matchText_of_covers {general special input : String}
    (hreads : (Pattern.ofText? general).isSome)
    (hcovers : List.Forall₂ Token.Covers (patternTokens general) (patternTokens special))
    (h : (matchText input special).isSome) : (matchText input general).isSome := by
  rcases Option.isSome_iff_exists.1 hreads with ⟨p, hp⟩
  rcases Option.isSome_iff_exists.1 h with ⟨captures, hcaptures⟩
  rcases Option.bind_eq_some_iff.1 hcaptures with ⟨q, hq, hcaptured⟩
  have hcut := follow_sound (Pattern.captures?_eq_some_iff.1 hcaptured)
  rw [Pattern.tokens_ofText? hq] at hcut
  rcases hcut.exists_of_covers hcovers fun word hmem => (isWord_of_mem_patternTokens hmem).1 with
    ⟨others, hothers⟩
  rcases follow_greedy hothers with ⟨longest, hlongest, -⟩
  rw [← Pattern.captures?_eq_matchText hp, Pattern.captures?, captureTokens_eq_follow,
    Pattern.tokens_ofText? hp, hlongest]
  rfl

end Dialogue
