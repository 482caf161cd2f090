import Dialogue.Pattern.Captures
import Dialogue.Proofs.Pattern.Expression
import Dialogue.Proofs.Text.Words

/-!
# Patterns as expressions

A pattern is translated to an expression, which is matched against the whole input with
one more space at each end: blanks, the tokens with one or more blanks between them, and
closing characters up to the end.  A wildcard becomes a captured phrase.

Main results:

- Theorem `captures?_ofTokens`: the captures of the expression are those that the search
  finds.
- Theorem `Pattern.captures?_expression`: before they are tidied, the captures of a
  pattern are those of its expression.
-/

namespace Dialogue

open Text

/-! ## The translation -/

namespace Expression

/-- A word up to case. -/
def literal : List Char → Expression
  | [] => empty
  | w :: word => (oneOf (sameFold w)).seq (literal word)

/-- Closing characters up to the end. -/
def closing : Expression := (many (oneOf isClosing)).seq atEnd

end Expression

/-- The expression of a token. -/
def Token.expression : Token → Expression
  | literal word => .literal word
  | wildcard => .capture .phrase

namespace Expression

/-- The expression of the tokens behind a token. -/
def later : List Token → Expression
  | [] => closing
  | token :: tokens => (oneOrMore isBlank).seq (token.expression.seq (later tokens))

/-- The expression of a list of tokens. -/
def ofTokens : List Token → Expression
  | [] => (many (oneOf isBlank)).seq closing
  | token :: tokens => (many (oneOf isBlank)).seq (token.expression.seq (later tokens))

/-! ## Captures of sequences -/

/-- Putting a character in front of ways does not change their captures. -/
theorem head?_map_push (ways : List Way) (c : Char) :
    ((ways.map (Way.push c)).head?.map Way.captures) = ways.head?.map Way.captures := by
  rw [List.head?_map, Option.map_map]
  rfl

/-- A character in front of a sequence captures nothing. -/
theorem captures?_oneOf_seq_cons (p : Char → Bool) (e : Expression) (c : Char) (s : List Char) :
    ((oneOf p).seq e).captures? (c :: s) = if p c then e.captures? s else none := by
  rw [captures?, ways_oneOf_seq_cons]
  by_cases hc : p c = true
  · rw [if_pos hc, if_pos hc, head?_map_push]
    rfl
  · rw [if_neg hc, if_neg hc]
    rfl

/-- A repeated character is taken if what comes behind it can be matched. -/
theorem captures?_many_seq_cons (p : Char → Bool) (e : Expression) (c : Char) (s : List Char) :
    ((many (oneOf p)).seq e).captures? (c :: s) =
      (if p c then ((many (oneOf p)).seq e).captures? s else none).or (e.captures? (c :: s)) := by
  rw [captures?, ways_many_seq_cons, List.head?_append, Option.map_or]
  by_cases hc : p c = true
  · rw [if_pos hc, if_pos hc, head?_map_push]
    rfl
  · rw [if_neg hc, if_neg hc]
    rfl

/-- At the end no character is repeated. -/
theorem captures?_many_seq_nil (p : Char → Bool) (e : Expression) :
    ((many (oneOf p)).seq e).captures? [] = e.captures? [] := by
  rw [captures?, ways_many_seq_nil]
  rfl

/-- One or more characters are taken if there is one, and if what comes behind can be
matched. -/
theorem captures?_oneOrMore_seq_cons (p : Char → Bool) (e : Expression) (c : Char) (s : List Char) :
    ((oneOrMore p).seq e).captures? (c :: s) =
      if p c then ((many (oneOf p)).seq e).captures? s else none := by
  rw [captures?, ways_oneOrMore_seq_cons]
  by_cases hc : p c = true
  · rw [if_pos hc, if_pos hc, head?_map_push]
    rfl
  · rw [if_neg hc, if_neg hc]
    rfl

/-- Sequences can be regrouped. -/
theorem captures?_seq_assoc (first second third : Expression) (s : List Char) :
    ((first.seq second).seq third).captures? s = (first.seq (second.seq third)).captures? s := by
  rw [captures?, ways_seq_assoc]
  rfl

/-! ## Closing characters -/

/-- Nothing but closing characters may be left. -/
theorem captures?_closing (s : List Char) :
    closing.captures? s = if s.all isClosing then some [] else none := by
  induction s with
  | nil =>
    rw [closing, captures?_many_seq_nil, captures?, ways]
    rfl
  | cons c s ih =>
    have hend : atEnd.captures? (c :: s) = none := by
      rw [captures?, ways]
      rfl
    rw [closing, captures?_many_seq_cons, ← closing, ih, hend, Option.or_none]
    by_cases hc : isClosing c = true
    · simp [hc]
    · simp [hc]

/-- Blanks in front of closing characters are closing characters. -/
theorem captures?_blanks_closing (s : List Char) :
    ((many (oneOf isBlank)).seq closing).captures? s =
      if s.all isClosing then some [] else none := by
  induction s with
  | nil => rw [captures?_many_seq_nil, captures?_closing]
  | cons c s ih =>
    rw [captures?_many_seq_cons, captures?_closing, ih]
    by_cases hc : isBlank c = true
    · simp [hc, isClosing_of_isBlank hc]
    · simp [hc]

end Expression

/-! ## Texts with single spaces -/

/-- A text in which every blank is a space before a character that is not blank. -/
def SingleSpaced : List Char → Prop
  | [] => True
  | c :: s => (isBlank c = true → c = ' ' ∧ ∃ d rest, s = d :: rest ∧ isBlank d = false) ∧
      SingleSpaced s

/-- The end of a text with single spaces has single spaces. -/
theorem SingleSpaced.of_append {lead s : List Char} (h : SingleSpaced (lead ++ s)) :
    SingleSpaced s := by
  induction lead with
  | nil => exact h
  | cons c lead ih => exact ih h.2

/-- A word in front of a text with single spaces, with or without a space between. -/
theorem SingleSpaced.append {word s : List Char} (hword : ∀ c ∈ word, isBlank c = false)
    (hs : SingleSpaced s) : SingleSpaced (word ++ s) := by
  induction word with
  | nil => exact hs
  | cons c word ih =>
    rw [List.forall_mem_cons] at hword
    refine ⟨?_, ih hword.2⟩
    intro hblank
    rw [hword.1] at hblank
    cases hblank

/-- A word of a text: it is not empty and has no blanks. -/
def IsWord (word : List Char) : Prop := word ≠ [] ∧ ∀ c ∈ word, isBlank c = false

/-- A text does not begin with a blank. -/
def StartsBare (s : List Char) : Prop := ∀ c rest, s = c :: rest → isBlank c = false

/-- Joined words are not empty if the first is not. -/
theorem unwords_ne_nil {word : List Char} {parts : List (List Char)} (hne : word ≠ []) :
    unwords (word :: parts) ≠ [] := by
  cases parts with
  | nil => exact hne
  | cons word' parts => exact List.append_ne_nil_of_left_ne_nil hne _

/-- Words that are joined have single spaces, and no blank at the beginning. -/
theorem singleSpaced_unwords {parts : List (List Char)} (h : ∀ part ∈ parts, IsWord part) :
    SingleSpaced (unwords parts) ∧ StartsBare (unwords parts) := by
  induction parts with
  | nil => exact ⟨trivial, fun c rest heq => nomatch heq⟩
  | cons word parts ih =>
    rw [List.forall_mem_cons] at h
    rcases h with ⟨⟨hne, hword⟩, hparts⟩
    rcases List.exists_cons_of_ne_nil hne with ⟨d, word', rfl⟩
    have hd : isBlank d = false := hword d List.mem_cons_self
    cases parts with
    | nil =>
      have hnil : SingleSpaced ([] : List Char) := trivial
      constructor
      · simpa [unwords] using hnil.append hword
      · rintro c rest heq
        cases heq
        exact hd
    | cons word' parts =>
      rcases ih hparts with ⟨hspaced, hbare⟩
      have hne' : unwords (word' :: parts) ≠ [] :=
        unwords_ne_nil (hparts word' List.mem_cons_self).1
      rcases List.exists_cons_of_ne_nil hne' with ⟨c, rest, hrest⟩
      have hspace : SingleSpaced (' ' :: unwords (word' :: parts)) :=
        ⟨fun _ => ⟨rfl, c, rest, hrest, hbare c rest hrest⟩, hspaced⟩
      constructor
      · exact hspace.append hword
      · rintro c rest heq
        cases heq
        exact hd

/-- A text without blanks has no word but itself. -/
theorem isWord_of_mem_words_of_bare {s word : List Char} (hall : ∀ c ∈ s, isBlank c = false)
    (h : word ∈ words s) : IsWord word := by
  by_cases hne : s = []
  · rw [hne] at h
    cases h
  · rw [words_eq_singleton hne hall] at h
    rw [List.mem_singleton.1 h]
    exact ⟨hne, hall⟩

/-- The words of a text are words. -/
theorem isWord_of_mem_words {s word : List Char} (h : word ∈ words s) : IsWord word := by
  induction hlength : s.length using Nat.strong_induction_on generalizing s with
  | _ n ih =>
    rcases forall_not_blank_or_exists_last s with hall | ⟨front, b, back, rfl, hb, hback⟩
    · exact isWord_of_mem_words_of_bare hall h
    · rw [words_append_blank front back hb] at h
      rcases List.mem_append.1 h with hfront | hlast
      · refine ih front.length ?_ hfront rfl
        rw [← hlength, List.length_append, List.length_cons]
        omega
      · exact isWord_of_mem_words_of_bare hback hlast

/-- A blank does not agree with another character up to case. -/
theorem sameFold_eq_false_of_isBlank {w c : Char} (hw : isBlank w = false)
    (hc : isBlank c = true) : sameFold w c = false := by
  by_contra hsame
  have hfold := sameFold_iff.1 (Bool.not_eq_false _ ▸ hsame)
  have hblank := congrArg isBlank hfold
  rw [isBlank_foldChar, isBlank_foldChar, hw, hc] at hblank
  cases hblank

/-! ## Tokens -/

/-- A token is a wildcard or a word. -/
def Token.IsPlain (token : Token) : Prop := ∀ word, token = .literal word → IsWord word

namespace Expression

variable {e : Expression} {next : List Char → Option Captures} {s : List Char}

/-- A literal word in front of an expression, in a text with a space behind it. -/
theorem captures?_literal_seq {word : List Char} (hword : ∀ c ∈ word, isBlank c = false)
    (hnext : ∀ lead rest, s = lead ++ rest → e.captures? (rest ++ [' ']) = next rest) :
    ((literal word).seq e).captures? (s ++ [' ']) = (dropLiteral word s).bind next := by
  induction word generalizing s with
  | nil =>
    rw [dropLiteral, Option.bind_some, ← hnext [] s rfl, literal, captures?_seq, ways]
    simp [Way.stay]
  | cons w word ih =>
    rw [List.forall_mem_cons] at hword
    rw [literal, captures?_seq_assoc]
    cases s with
    | nil =>
      rw [List.nil_append, captures?_oneOf_seq_cons,
        sameFold_eq_false_of_isBlank hword.1 isBlank_space]
      rfl
    | cons c s =>
      rw [List.cons_append, captures?_oneOf_seq_cons, dropLiteral]
      by_cases hc : sameFold w c = true
      · rw [if_pos hc, if_pos hc]
        refine ih hword.2 fun lead rest heq => hnext (c :: lead) rest ?_
        rw [heq, List.cons_append]
      · rw [if_neg hc, if_neg hc]
        rfl

/-- The first end of a phrase that an expression can follow, in a text with a space
behind it, is the one that the search finds. -/
theorem findSome?_phraseEnds
    (hnext : ∀ lead rest, s = lead ++ rest → e.captures? (rest ++ [' ']) = next rest) :
    ((phraseEnds (s ++ [' '])).findSome? fun w =>
      (e.captures? w.rest).map fun more => (w.taken, w.captures ++ more)) = fill next s := by
  induction s with
  | nil =>
    have hspace : isWordChar ' ' = false := isWordChar_of_isBlank isBlank_space
    simp [phraseEnds, hspace, fill]
  | cons c s ih =>
    have hlater := ih fun lead rest heq => hnext (c :: lead) rest (by rw [heq, List.cons_append])
    have hhere := hnext [c] s rfl
    have hpush : ((phraseEnds (s ++ [' '])).map (Way.push c)).findSome? (fun w =>
        (e.captures? w.rest).map fun more => (w.taken, w.captures ++ more)) =
          (fill next s).map fun out => (c :: out.1, out.2) := by
      rw [← hlater, List.findSome?_map, List.map_findSome?]
      congr 1
      funext w
      simp only [Function.comp_apply, Way.push, Option.map_map]
      rfl
    rw [List.cons_append, phraseEnds, fill]
    by_cases hc : isWordChar c = true
    · rw [if_pos hc, if_pos hc, List.findSome?_append, hpush, List.findSome?_singleton, hhere]
      cases fill next s with
      | none => rfl
      | some out => rfl
    · by_cases hc' : isSeparator c = true
      · rw [if_neg hc, if_neg hc, if_pos hc', if_pos hc', hpush]
      · rw [if_neg hc, if_neg hc, if_neg hc', if_neg hc']
        rfl

/-- A captured phrase in front of an expression, in a text with a space behind it. -/
theorem captures?_phrase_seq
    (hnext : ∀ lead rest, s = lead ++ rest → e.captures? (rest ++ [' ']) = next rest) :
    ((capture phrase).seq e).captures? (s ++ [' ']) = Token.wildcard.take next s := by
  rw [captures?_seq, ways, List.findSome?_map]
  cases s with
  | nil =>
    have hspace : isWordChar ' ' = false := isWordChar_of_isBlank isBlank_space
    rw [List.nil_append, ways_phrase_cons, hspace]
    rfl
  | cons c s =>
    have hends := findSome?_phraseEnds hnext
    rw [List.cons_append] at hends
    rw [List.cons_append, ways_phrase_cons, Token.take]
    by_cases hc : isWordChar c = true
    · simp only [hc, if_true]
      rw [← hends, List.map_findSome?]
      congr 1
      funext w
      simp only [Function.comp_apply, Way.captured, Option.map_map]
      rfl
    · simp only [if_neg hc]
      rfl

/-- A token in front of an expression, in a text with a space behind it. -/
theorem captures?_token_seq {token : Token} (htoken : token.IsPlain)
    (hnext : ∀ lead rest, s = lead ++ rest → e.captures? (rest ++ [' ']) = next rest) :
    (token.expression.seq e).captures? (s ++ [' ']) = token.take next s := by
  cases token with
  | literal word => exact captures?_literal_seq (htoken word rfl).2 hnext
  | wildcard => exact captures?_phrase_seq hnext

/-- No token begins with a blank. -/
theorem captures?_token_seq_of_blank {token : Token} (htoken : token.IsPlain) (e : Expression)
    {c : Char} (hc : isBlank c = true) (s : List Char) :
    (token.expression.seq e).captures? (c :: s) = none := by
  cases token with
  | literal word =>
    rcases htoken word rfl with ⟨hne, hword⟩
    rcases List.exists_cons_of_ne_nil hne with ⟨w, word, rfl⟩
    rw [Token.expression, literal, captures?_seq_assoc, captures?_oneOf_seq_cons,
      sameFold_eq_false_of_isBlank (hword w List.mem_cons_self) hc]
    rfl
  | wildcard =>
    rw [Token.expression, captures?_seq, ways, ways_phrase_cons, isWordChar_of_isBlank hc]
    rfl

/-- Every token takes something. -/
theorem captures?_token_seq_nil {token : Token} (htoken : token.IsPlain) (e : Expression) :
    (token.expression.seq e).captures? [] = none := by
  cases token with
  | literal word =>
    rcases List.exists_cons_of_ne_nil (htoken word rfl).1 with ⟨w, word, rfl⟩
    rw [Token.expression, literal, captures?_seq_assoc, captures?_seq, ways]
    rfl
  | wildcard =>
    rw [Token.expression, captures?_seq, ways, phrase, ways_oneOrMore_seq_nil]
    rfl

/-- Blanks in front of a token match nothing where no blank is. -/
theorem captures?_blanks_token_seq {token : Token} (htoken : token.IsPlain) (e : Expression)
    (hs : StartsBare s) :
    ((many (oneOf isBlank)).seq (token.expression.seq e)).captures? (s ++ [' ']) =
      (token.expression.seq e).captures? (s ++ [' ']) := by
  cases s with
  | nil =>
    rw [List.nil_append, captures?_many_seq_cons, captures?_many_seq_nil,
      captures?_token_seq_nil htoken]
    rfl
  | cons c s =>
    rw [List.cons_append, captures?_many_seq_cons, hs c s rfl]
    rfl

/-! ## Token lists -/

/-- The captures behind a token, in a text with a space behind it, are those that the
search finds. -/
theorem captures?_later {tokens : List Token} (htokens : ∀ token ∈ tokens, token.IsPlain)
    (hs : SingleSpaced s) : (later tokens).captures? (s ++ [' ']) = follow tokens s := by
  induction tokens generalizing s with
  | nil =>
    have hspace : isClosing ' ' = true := isClosing_of_isBlank isBlank_space
    rw [later, captures?_closing, follow, List.all_append]
    simp [hspace]
  | cons token tokens ih =>
    rw [List.forall_mem_cons] at htokens
    rcases htokens with ⟨htoken, htokens⟩
    cases s with
    | nil =>
      rw [later, List.nil_append, captures?_oneOrMore_seq_cons, captures?_many_seq_nil,
        captures?_token_seq_nil htoken, if_pos isBlank_space]
      rfl
    | cons c s =>
      rw [later, List.cons_append, captures?_oneOrMore_seq_cons, follow]
      by_cases hc : isBlank c = true
      · -- There is only one blank, so the blanks between two tokens can be taken in one way.
        rcases hs.1 hc with ⟨rfl, d, rest, rfl, hd⟩
        have hbare : StartsBare (d :: rest) := by
          rintro c' rest' heq
          cases heq
          exact hd
        have hnext : ∀ lead back, d :: rest = lead ++ back →
            (later tokens).captures? (back ++ [' ']) = follow tokens back := by
          intro lead back heq
          have hspaced : SingleSpaced (d :: rest) := hs.2
          rw [heq] at hspaced
          exact ih htokens hspaced.of_append
        rw [if_pos hc, if_pos rfl, captures?_blanks_token_seq htoken _ hbare,
          captures?_token_seq htoken hnext]
      · have hspace : c ≠ ' ' := by
          rintro rfl
          exact hc isBlank_space
        rw [if_neg hc, if_neg hspace]

/-- The captures of the expression of a list of tokens, in a text with a space at each
end, are those that the search finds. -/
theorem captures?_ofTokens {tokens : List Token} (htokens : ∀ token ∈ tokens, token.IsPlain)
    (hs : SingleSpaced s) (hbare : StartsBare s) :
    (ofTokens tokens).captures? (' ' :: (s ++ [' '])) = captureTokens tokens s := by
  rw [captures_eq_search]
  cases tokens with
  | nil =>
    have hspace : isClosing ' ' = true := isClosing_of_isBlank isBlank_space
    rw [ofTokens, captures?_blanks_closing, search]
    simp [hspace]
  | cons token tokens =>
    rw [List.forall_mem_cons] at htokens
    rcases htokens with ⟨htoken, htokens⟩
    have hnext : ∀ lead rest, s = lead ++ rest →
        (later tokens).captures? (rest ++ [' ']) = follow tokens rest := by
      intro lead rest heq
      rw [heq] at hs
      exact captures?_later htokens hs.of_append
    rw [ofTokens, captures?_many_seq_cons, if_pos isBlank_space,
      captures?_blanks_token_seq htoken _ hbare, captures?_token_seq htoken hnext,
      captures?_token_seq_of_blank htoken _ isBlank_space, Option.or_none, search]

end Expression

/-- The expression of a pattern. -/
def Pattern.expression (p : Pattern) : Expression := .ofTokens p.tokens

/-- A literal word is read as itself. -/
theorem Token.eq_of_ofWord_eq_literal {word literal : List Char}
    (h : ofWord word = .literal literal) : word = literal := by
  unfold ofWord at h
  split at h
  · simp at h
  · exact (Token.literal.inj h)

/-- The tokens of a pattern are wildcards and words. -/
theorem Pattern.isPlain (p : Pattern) : ∀ token ∈ p.tokens, token.IsPlain := by
  intro token htoken literal hliteral
  rw [p.tokens_eq] at htoken
  rcases List.mem_map.1 htoken with ⟨word, hword, rfl⟩
  rw [← Token.eq_of_ofWord_eq_literal hliteral]
  exact isWord_of_mem_words hword

/-- An input as it is matched: with single spaces between its words, and one more at each
end. -/
def paddedInput (input : String) : List Char := ' ' :: (collapse input.toList ++ [' '])

/-- Before they are tidied, the captures of a pattern are those of its expression. -/
theorem Pattern.captures?_expression (p : Pattern) (input : String) :
    p.expression.captures? (paddedInput input) =
      captureTokens p.tokens (collapse input.toList) := by
  have hwords : ∀ word ∈ words input.toList, IsWord word := fun _ hword =>
    isWord_of_mem_words hword
  rcases singleSpaced_unwords hwords with ⟨hspaced, hbare⟩
  exact Expression.captures?_ofTokens p.isPlain hspaced hbare

end Dialogue
