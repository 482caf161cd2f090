import Dialogue.Proofs.Category.Wordings
import Dialogue.Proofs.Text.Recasing

/-!
# Matching in another case

A search goes the same way in a text and in the text in another case: it compares up to case, and
the classes of characters do not depend on the case.  So the captures are the same, in that case.

Main results:

- Theorem `follow_map`, `follow_map_tokens`: the search in a text in another case, and for tokens
  in another case.
- Theorem `map_patternTokens`: the tokens of a pattern in another case.
- Theorem `matchText_eq_follow`: what a pattern given as a text captures.
- Theorem `matchText_lowered`: a lowered pattern captures of a lowered input the lowered captures.
-/

namespace Dialogue

open Text

/-! ## The search -/

section Search

variable {f : Char → Char} (hf : KeepsFold f)

include hf

/-- A literal word is dropped from a text in any case. -/
theorem dropLiteral_map (word s : List Char) :
    dropLiteral word (s.map f) = (dropLiteral word s).map (List.map f) := by
  induction word generalizing s with
  | nil => rfl
  | cons w word ih =>
    cases s with
    | nil => rfl
    | cons c s =>
      have hsame : sameFold w (f c) = sameFold w c := by rw [sameFold, hf c, sameFold]
      rw [List.map_cons, dropLiteral, dropLiteral, hsame, ih]
      split <;> rfl

/-- A literal word is dropped in any case of the word. -/
theorem dropLiteral_map_word (word s : List Char) :
    dropLiteral (word.map f) s = dropLiteral word s := by
  induction word generalizing s with
  | nil => rfl
  | cons w word ih =>
    cases s with
    | nil => rfl
    | cons c s =>
      have hsame : sameFold (f w) c = sameFold w c := by rw [sameFold, hf w, sameFold]
      rw [List.map_cons, dropLiteral, dropLiteral, hsame, ih]

/-- The rest of a capture is the same in another case, if what follows a capture does so in that
case. -/
theorem fill_map {next next' : List Char → Option Captures}
    (hnext : ∀ s, next' (s.map f) = (next s).map (List.map (List.map f))) (s : List Char) :
    fill next' (s.map f) =
      (fill next s).map fun out => (out.1.map f, out.2.map (List.map f)) := by
  induction s with
  | nil => rfl
  | cons c s ih =>
    rw [List.map_cons, fill, fill, hf.isWordChar, hf.isSeparator, ih, hnext]
    cases isWordChar c with
    | true =>
      cases fill next s with
      | none => cases next s <;> rfl
      | some out => rfl
    | false =>
      cases isSeparator c with
      | true => cases fill next s <;> rfl
      | false => rfl

/-- A token takes the same in another case. -/
theorem Token.take_map {next next' : List Char → Option Captures}
    (hnext : ∀ s, next' (s.map f) = (next s).map (List.map (List.map f))) (token : Token)
    (s : List Char) :
    token.take next' (s.map f) = (token.take next s).map (List.map (List.map f)) := by
  cases token with
  | literal word =>
    simp only [take]
    rw [dropLiteral_map hf]
    cases dropLiteral word s with
    | none => rfl
    | some rest => exact hnext rest
  | wildcard =>
    cases s with
    | nil => rfl
    | cons c s =>
      have hfill := fill_map hf hnext (c :: s)
      simp only [List.map_cons] at hfill
      simp only [take, List.map_cons, hf.isWordChar, hfill]
      cases isWordChar c with
      | true => cases fill next (c :: s) <;> rfl
      | false => rfl

/-- The search in a text in another case finds the same captures, in that case. -/
theorem follow_map (tokens : List Token) (s : List Char) :
    follow tokens (s.map f) = (follow tokens s).map (List.map (List.map f)) := by
  induction tokens generalizing s with
  | nil =>
    have hclosing : isClosing ∘ f = isClosing := funext hf.keepsMarks.isClosing
    rw [follow, follow, List.all_map, hclosing]
    split <;> rfl
  | cons token tokens ih =>
    cases s with
    | nil => rfl
    | cons c s =>
      rw [List.map_cons, follow, follow, Token.take_map hf ih]
      simp only [hf.keepsMarks.space c]
      split <;> rfl

end Search

/-! ## Tokens in another case -/

/-- A token in another case. -/
def Token.map (f : Char → Char) : Token → Token
  | literal word => literal (word.map f)
  | wildcard => wildcard

/-- A wildcard is a wildcard in any case. -/
@[simp] theorem Token.isWildcard_map (f : Char → Char) (token : Token) :
    (token.map f).isWildcard = token.isWildcard := by
  cases token <;> rfl

/-- The search for tokens in another case finds the same captures. -/
theorem follow_map_tokens {f : Char → Char} (hf : KeepsFold f) (tokens : List Token)
    (s : List Char) : follow (tokens.map (Token.map f)) s = follow tokens s := by
  induction tokens generalizing s with
  | nil => rfl
  | cons token tokens ih =>
    have hrest : follow (tokens.map (Token.map f)) = follow tokens := funext ih
    have htake : (token.map f).take (follow tokens) = token.take (follow tokens) := by
      cases token with
      | wildcard => rfl
      | literal word =>
        funext s
        simp only [Token.map, Token.take, dropLiteral_map_word hf]
    cases s with
    | nil => rfl
    | cons c s => rw [List.map_cons, follow, follow, hrest, htake]

/-- A word in another case is read as the token in that case. -/
theorem Token.ofWord_map {f : Char → Char} (hf : KeepsMarks f) (word : List Char) :
    ofWord (word.map f) = (ofWord word).map f := by
  have hmark {mark : Char} (hmark : mark ∈ wildcardMarks) :
      word.map f = [mark] ↔ word = [mark] := by
    rw [List.map_eq_singleton_iff]
    constructor
    · rintro ⟨c, rfl, hc⟩
      rw [(hf.wildcard mark hmark c).1 hc]
    · rintro rfl
      exact ⟨mark, rfl, (hf.wildcard mark hmark mark).2 rfl⟩
  have hstar := hmark (by decide : '*' ∈ wildcardMarks)
  have hunderscore := hmark (by decide : '_' ∈ wildcardMarks)
  simp only [ofWord, hstar, hunderscore]
  split <;> rfl

/-- A pattern in another case has the tokens in that case. -/
theorem map_patternTokens {f : Char → Char} (hf : KeepsMarks f) (pattern : String) :
    (patternTokens pattern).map (Token.map f) =
      (words (dropClosing (pattern.toList.map f))).map Token.ofWord := by
  rw [hf.dropClosing_map, hf.words_map, List.map_map, patternTokens, List.map_map]
  exact List.map_congr_left fun word _ => (Token.ofWord_map hf word).symm

/-- Tokens in another case have as many wildcards. -/
@[simp] theorem countP_isWildcard_map (f : Char → Char) (tokens : List Token) :
    (tokens.map (Token.map f)).countP Token.isWildcard = tokens.countP Token.isWildcard := by
  rw [List.countP_map]
  exact List.countP_congr fun token _ => by simp

/-! ## Lowered texts -/

/-- A text with its ASCII letters lowered. -/
def lowered (s : String) : String := String.ofList (s.toList.map Char.toLower)

/-- The characters of a lowered text. -/
@[simp] theorem toList_lowered (s : String) : (lowered s).toList = s.toList.map Char.toLower :=
  String.toList_ofList

/-- A lowered pattern has the lowered tokens. -/
theorem patternTokens_lowered (pattern : String) :
    patternTokens (lowered pattern) = (patternTokens pattern).map (Token.map Char.toLower) := by
  rw [map_patternTokens keepsMarks_toLower, patternTokens, toList_lowered]

/-- What a pattern given as a text captures, if it can be used. -/
theorem matchText_eq_follow (input pattern : String) :
    matchText input pattern =
      if (patternTokens pattern).countP Token.isWildcard ≤ maxWildcards then
        (follow (patternTokens pattern) (' ' :: collapse input.toList)).map
          (List.map String.ofList)
      else none := by
  rw [matchText_eq, captureTokens_eq_follow]
  cases hfollow : follow (patternTokens pattern) (' ' :: collapse input.toList) with
  | none => rfl
  | some raw =>
    have htidy : raw.map (fun capture => String.ofList (Pattern.tidy capture)) =
        raw.map String.ofList :=
      List.map_congr_left fun capture hmem => by
        rw [((follow_sound hfollow).isPhrase capture hmem).tidy_eq]
    rw [Option.map_some, htidy, Option.map_some]

/-- A lowered pattern captures of a lowered input the lowered captures. -/
theorem matchText_lowered (input pattern : String) :
    matchText (lowered input) (lowered pattern) =
      (matchText input pattern).map (List.map lowered) := by
  have hspace : ' ' :: collapse (input.toList.map Char.toLower) =
      (' ' :: collapse input.toList).map Char.toLower := by
    rw [keepsMarks_toLower.collapse_map]
    rfl
  rw [matchText_eq_follow, matchText_eq_follow, patternTokens_lowered, countP_isWildcard_map,
    toList_lowered, hspace, follow_map_tokens keepsFold_toLower, follow_map keepsFold_toLower]
  split
  · rw [Option.map_map, Option.map_map]
    refine congrArg (Option.map · _) (funext fun captures => ?_)
    simp [lowered]
  · rfl

end Dialogue
