import Dialogue.Proofs.Pattern.Recasing
import Mathlib.Logic.Relation

/-!
# Matching and normalization

How an input is written does not matter as long as its words are the same: the kind and number of
blanks between them, the blanks around them, the closing characters at the end, and the case of
the letters.  The same goes for a pattern, in which moreover both wildcards mean the same.  Each
such change leaves a normal form as it is: of an input, the lowered words that are left without
the closing characters at its end, and of a pattern, the tokens that they are read as.  What a
pattern captures, up to case, depends on the normal forms only.

Main results:

- Theorem `follow_append_closing`: closing characters at the end of a text do not matter.
- Theorem `matchText_congr_words`: what is captured depends on the words without the closing
  characters.
- Theorem `Retouch.words_eq`, `PatternRetouch.tokens_eq`: what each change leaves as it is.
- Theorem `matchText_of_retouched`: whatever changes are made to an input and to a pattern, the
  pattern matches or not as before, with the same captures up to case.
-/

namespace Dialogue

open Text

/-! ## Closing characters at the end -/

/-- The captures of the search are those of a cut of the text, and every other cut is shorter at
the first wildcard where the two differ. -/
theorem follow_eq_some_iff {tokens : List Token} {s : List Char} {captures : Captures} :
    follow tokens s = some captures ↔ Follows tokens captures s ∧
      ∀ others, Follows tokens others s →
        captures = others ∨ others.map List.length < captures.map List.length := by
  constructor
  · intro hfollow
    refine ⟨follow_sound hfollow, fun others hothers => ?_⟩
    rcases follow_greedy hothers with ⟨longest, hlongest, hcase⟩
    obtain rfl : captures = longest := Option.some.inj (hfollow.symm.trans hlongest)
    exact hcase
  · rintro ⟨hcut, hlongest⟩
    rcases follow_greedy hcut with ⟨longest, hfollow, rfl | hlt⟩
    · exact hfollow
    · rcases hlongest longest (follow_sound hfollow) with rfl | hgt
      · exact hfollow
      · exact absurd hgt (List.lt_asymm hlt)

/-- Other closing characters at the end of a text leave its cuts alone. -/
theorem Follows.change_closing {tokens : List Token} (hopen : LastOpen tokens)
    {captures : Captures} {s tail other : List Char} (htail : ∀ c ∈ tail, isClosing c = true)
    (hother : ∀ c ∈ other, isClosing c = true) (h : Follows tokens captures (s ++ tail)) :
    Follows tokens captures (s ++ other) := by
  by_cases hne : tokens = []
  · subst hne
    cases h with
    | closing hall =>
      exact .closing (List.forall_mem_append.2 ⟨(List.forall_mem_append.1 hall).1, hother⟩)
  · have hlen := h.length_eq
    have hphrases := h.isPhrase
    rcases h.exists_body with ⟨body, rest, hcut, hrest, hbody, hothers⟩
    have hend : EndsOpen body :=
      (endsOpen_spaced_place hne hopen hlen hphrases).of_sameText hbody
    -- The body is what is left of the text without the closing characters at its end.
    have hleft : dropClosing s = body := by
      rw [← dropClosing_append_of_endsOpen hend hrest, ← hcut]
      exact (dropEndWhile_append s htail).symm
    rcases exists_dropEndWhile isClosing s with ⟨gap, hs, hgap⟩
    have hs : s = body ++ gap := by
      rw [← hleft]
      exact hs
    rw [hs, List.append_assoc]
    exact hothers (gap ++ other) (List.forall_mem_append.2 ⟨hgap, hother⟩)

/-- Closing characters at the end of a text do not matter to the search. -/
theorem follow_append_closing {tokens : List Token} (hopen : LastOpen tokens) (s : List Char)
    {tail : List Char} (htail : ∀ c ∈ tail, isClosing c = true) :
    follow tokens (s ++ tail) = follow tokens s := by
  have hcuts (captures : Captures) :
      Follows tokens captures (s ++ tail) ↔ Follows tokens captures s := by
    constructor
    · intro h
      have hbare := h.change_closing hopen htail (List.forall_mem_nil _)
      rwa [List.append_nil] at hbare
    · intro h
      rw [← List.append_nil s] at h
      exact h.change_closing hopen (List.forall_mem_nil _) htail
  refine Option.ext fun captures => ?_
  rw [follow_eq_some_iff, follow_eq_some_iff, hcuts]
  exact and_congr_right' (forall_congr' fun others => imp_congr_left (hcuts others))

/-- What the search finds depends on the words that are left without the closing characters. -/
theorem follow_collapse {tokens : List Token} (hopen : LastOpen tokens) (s : List Char) :
    follow tokens (' ' :: collapse s) = follow tokens (' ' :: collapse (dropClosing s)) := by
  rcases exists_dropEndWhile isClosing (collapse s) with ⟨tail, hcut, htail⟩
  rw [← dropClosing_collapse]
  conv_lhs => rw [hcut, ← List.cons_append]
  exact follow_append_closing hopen _ htail

/-- What a pattern captures depends on its tokens and on the words of the input that are left
without the closing characters. -/
theorem matchText_congr_words {input input' pattern pattern' : String}
    (hpattern : patternTokens pattern = patternTokens pattern')
    (hinput : words (dropClosing input.toList) = words (dropClosing input'.toList)) :
    matchText input pattern = matchText input' pattern' := by
  have hopen := lastOpen_patternTokens pattern'
  rw [matchText_eq_follow, matchText_eq_follow, hpattern, follow_collapse hopen,
    follow_collapse hopen input'.toList, collapse, hinput, collapse]

/-! ## Changes that do not matter -/

/-- One change to a text that does not matter. -/
inductive Retouch : List Char → List Char → Prop
  /-- Other blanks stand for a run of blanks. -/
  | blanks (front back : List Char) {gap gap' : List Char} (hgap : IsRun isBlank gap)
    (hgap' : IsRun isBlank gap') : Retouch (front ++ (gap ++ back)) (front ++ (gap' ++ back))
  /-- Blanks are added in front. -/
  | lead (s : List Char) {gap : List Char} (hgap : ∀ c ∈ gap, isBlank c = true) :
    Retouch s (gap ++ s)
  /-- Blanks and marks that end a sentence are added at the end. -/
  | closing (s : List Char) {tail : List Char} (htail : ∀ c ∈ tail, isClosing c = true) :
    Retouch s (s ++ tail)
  /-- ASCII letters are written in the other case. -/
  | letters {s t : List Char} (hsame : s.map Char.toLower = t.map Char.toLower) : Retouch s t

/-- One change to a pattern that does not matter. -/
inductive PatternRetouch : List Char → List Char → Prop
  | text {s t : List Char} (h : Retouch s t) : PatternRetouch s t
  /-- A star that stands alone becomes an underscore. -/
  | wildcard {front back : List Char}
    (hfront : front = [] ∨ ∃ lead b, front = lead ++ [b] ∧ isBlank b = true)
    (hback : back = [] ∨ ∃ b rest, back = b :: rest ∧ isBlank b = true) :
    PatternRetouch (front ++ '*' :: back) (front ++ '_' :: back)

/-- Texts between which there are changes of some kind, one after the other or back. -/
abbrev Retouched (change : List Char → List Char → Prop) (s t : String) : Prop :=
  Relation.EqvGen change s.toList t.toList

/-- The lowered words of a text that are left without the closing characters at its end. -/
def normalWords (s : List Char) : List (List Char) := words (dropClosing (s.map Char.toLower))

/-- They are the words that are left, lowered. -/
theorem normalWords_eq (s : List Char) :
    normalWords s = (words (dropClosing s)).map (List.map Char.toLower) := by
  rw [normalWords, keepsMarks_toLower.dropClosing_map, keepsMarks_toLower.words_map]

/-- A run of blanks separates the words before it from the words behind it. -/
theorem words_append_gap (front back : List Char) {gap : List Char} (hgap : IsRun isBlank gap) :
    words (front ++ (gap ++ back)) = words front ++ words back := by
  rcases List.exists_cons_of_ne_nil hgap.ne_nil with ⟨b, rest, rfl⟩
  have hall := List.forall_mem_cons.1 hgap.all
  rw [List.cons_append, words_append_blank front _ hall.1, words_append_of_blank back hall.2]

/-- A change that does not matter leaves the normal words as they are. -/
theorem Retouch.words_eq {s t : List Char} (h : Retouch s t) : normalWords s = normalWords t := by
  cases h with
  | blanks front back hgap hgap' =>
    have hwords := (words_append_gap front back hgap).trans (words_append_gap front back hgap').symm
    rw [normalWords_eq, normalWords_eq, words_dropClosing_congr hwords]
  | lead _ hgap =>
    rw [normalWords_eq, normalWords_eq, words_dropClosing_congr (words_append_of_blank s hgap)]
  | closing _ htail =>
    rw [normalWords_eq, normalWords_eq, dropClosing, dropClosing, dropEndWhile_append s htail]
  | letters hsame => rw [normalWords, normalWords, hsame]

/-- A word without closing characters at its end stays, whatever is cut off behind it. -/
theorem openWords_append {word : List Char} (hne : word ≠ []) (hword : dropClosing word = word)
    (later earlier : List (List Char)) :
    openWords (later ++ word :: earlier) = openWords later ++ word :: earlier := by
  induction later with
  | nil =>
    rcases List.exists_cons_of_ne_nil hne with ⟨c, rest, rfl⟩
    have hstays : openWords ((c :: rest) :: earlier) = (c :: rest) :: earlier := by
      rw [openWords, hword]
    exact hstays
  | cons first later ih =>
    rw [List.cons_append, openWords, openWords]
    cases dropClosing first with
    | nil => exact ih
    | cons c rest => rfl

/-- A character that stands alone is a word of its own. -/
theorem words_dropClosing_alone {front back : List Char} {mark : Char}
    (hmark : isClosing mark = false)
    (hfront : front = [] ∨ ∃ lead b, front = lead ++ [b] ∧ isBlank b = true)
    (hback : back = [] ∨ ∃ b rest, back = b :: rest ∧ isBlank b = true) :
    words (dropClosing (front ++ mark :: back)) =
      words front ++ [mark] :: words (dropClosing back) := by
  have hbare : isBlank mark = false := by
    cases hblank : isBlank mark with
    | false => rfl
    | true => rw [isClosing_of_isBlank hblank] at hmark; cases hmark
  have halone : words [mark] = [[mark]] :=
    words_eq_singleton (List.cons_ne_nil _ _) (List.forall_mem_singleton.2 hbare)
  have hbehind : words (mark :: back) = [mark] :: words back := by
    rcases hback with rfl | ⟨b, rest, rfl, hb⟩
    · exact halone
    · rw [← List.singleton_append, words_append_blank [mark] rest hb, halone,
        words_cons_of_isBlank rest hb, List.singleton_append]
  have hwords : words (front ++ mark :: back) = words front ++ [mark] :: words back := by
    rcases hfront with rfl | ⟨lead, b, rfl, hb⟩
    · exact hbehind
    · have hlead : words (lead ++ [b]) = words lead := by
        rw [words_append_blank lead [] hb]
        exact List.append_nil _
      rw [hlead, List.append_assoc, List.singleton_append, words_append_blank lead _ hb, hbehind]
  have hkeep : dropClosing [mark] = [mark] := dropEndWhile_concat [] hmark
  rw [words_dropClosing, hwords, List.reverse_append, List.reverse_cons, List.append_assoc,
    List.singleton_append, openWords_append (List.cons_ne_nil _ _) hkeep, List.reverse_append,
    List.reverse_cons, List.reverse_reverse, ← words_dropClosing]
  simp

/-- A change to a pattern that does not matter leaves the tokens of its normal words as they
are. -/
theorem PatternRetouch.tokens_eq {s t : List Char} (h : PatternRetouch s t) :
    (normalWords s).map Token.ofWord = (normalWords t).map Token.ofWord := by
  cases h with
  | text h => rw [h.words_eq]
  | wildcard hfront hback =>
    rw [normalWords_eq, normalWords_eq, words_dropClosing_alone rfl hfront hback,
      words_dropClosing_alone rfl hfront hback]
    simp only [List.map_append, List.map_cons]
    rfl

/-- What every change of some kind leaves as it is, is the same for texts between which there are
such changes. -/
theorem Retouched.congr {α : Type} {change : List Char → List Char → Prop}
    {f : List Char → α} (hchange : ∀ s t, change s t → f s = f t) {s t : String}
    (h : Retouched change s t) : f s.toList = f t.toList :=
  congrArg (Quot.lift f hchange) (Quot.eqvGen_sound h)

/-- Whatever changes that do not matter are made to a pattern and to an input, the pattern
matches exactly if it has matched before, and then with as many captures, which are the same up to
the case of ASCII letters. -/
theorem matchText_of_retouched {pattern pattern' input input' : String}
    (hpattern : Retouched PatternRetouch pattern pattern')
    (hinput : Retouched Retouch input input') :
    ((matchText input' pattern').isSome ↔ (matchText input pattern).isSome) ∧
      ∀ captures ∈ matchText input pattern, ∀ captures' ∈ matchText input' pattern',
        captures'.length = captures.length ∧ captures'.map lowered = captures.map lowered := by
  have htokens : patternTokens (lowered pattern) = patternTokens (lowered pattern') := by
    rw [patternTokens, patternTokens, toList_lowered, toList_lowered]
    exact hpattern.congr (fun _ _ h => h.tokens_eq)
  have hwords : words (dropClosing (lowered input).toList) =
      words (dropClosing (lowered input').toList) := by
    rw [toList_lowered, toList_lowered]
    exact hinput.congr (fun _ _ h => h.words_eq)
  have hsame := matchText_congr_words htokens hwords
  rw [matchText_lowered, matchText_lowered] at hsame
  constructor
  · have hsome := congrArg Option.isSome hsame
    rw [Option.isSome_map, Option.isSome_map] at hsome
    rw [hsome]
  · intro captures hcaptures captures' hcaptures'
    rw [Option.mem_def.1 hcaptures, Option.mem_def.1 hcaptures'] at hsame
    have hlowered : captures.map lowered = captures'.map lowered := Option.some.inj hsame
    have hlength := congrArg List.length hlowered
    rw [List.length_map, List.length_map] at hlength
    exact ⟨hlength.symm, hlowered.symm⟩

/-- The closing mark of the pattern hides a wildcard, and the comma of the input belongs to a
capture, but its closing marks do not. -/
theorem matchText_of_retouched_name :
    let pattern := "My name is *"
    let pattern' := "MY NAME IS _ ."
    let input := "my name is Tom, Dick"
    let input' := " MY\t name IS tom, dick ?!"
    Retouched PatternRetouch pattern pattern' ∧ Retouched Retouch input input' ∧
      matchText input pattern = some ["Tom, Dick"] ∧
      ((matchText input' pattern').isSome ↔ (matchText input pattern).isSome) ∧
      matchText input' pattern' = some ["tom, dick"] ∧
      (["tom, dick"] : List String).map lowered = (["Tom, Dick"] : List String).map lowered := by
  intro pattern pattern' input input'
  have hpattern : Retouched PatternRetouch pattern pattern' := by
    let front := "MY NAME IS ".toList
    have hletters : PatternRetouch pattern.toList (front ++ ['*']) :=
      .text (.letters (by decide +kernel))
    have hwildcard : PatternRetouch (front ++ ['*']) (front ++ ['_']) :=
      .wildcard (.inr ⟨"MY NAME IS".toList, ' ', by decide +kernel, rfl⟩) (.inl rfl)
    have hclosing : PatternRetouch (front ++ ['_']) (front ++ ['_'] ++ [' ', '.']) :=
      .text (.closing _ (List.all_eq_true.1 rfl))
    have hend : pattern'.toList = front ++ ['_'] ++ [' ', '.'] := by decide +kernel
    rw [Retouched, hend]
    exact .trans _ _ _ (.rel _ _ hletters)
      (.trans _ _ _ (.rel _ _ hwildcard) (.rel _ _ hclosing))
  have hinput : Retouched Retouch input input' := by
    let front := "MY".toList
    let back := "name IS tom, dick".toList
    have hletters : Retouch input.toList (front ++ ([' '] ++ back)) :=
      .letters (by decide +kernel)
    have hblanks : Retouch (front ++ ([' '] ++ back)) (front ++ (['\t', ' '] ++ back)) :=
      .blanks front back ⟨by simp, List.all_eq_true.1 rfl⟩ ⟨by simp, List.all_eq_true.1 rfl⟩
    have hlead : Retouch (front ++ (['\t', ' '] ++ back))
        ([' '] ++ (front ++ (['\t', ' '] ++ back))) := .lead _ (List.all_eq_true.1 rfl)
    have hclosing : Retouch ([' '] ++ (front ++ (['\t', ' '] ++ back)))
        ([' '] ++ (front ++ (['\t', ' '] ++ back)) ++ [' ', '?', '!']) :=
      .closing _ (List.all_eq_true.1 rfl)
    have hend : input'.toList = [' '] ++ (front ++ (['\t', ' '] ++ back)) ++ [' ', '?', '!'] := by
      decide +kernel
    rw [Retouched, hend]
    exact .trans _ _ _ (.rel _ _ hletters) (.trans _ _ _ (.rel _ _ hblanks)
      (.trans _ _ _ (.rel _ _ hlead) (.rel _ _ hclosing)))
  rcases matchText_of_retouched hpattern hinput with ⟨hmatches, hcaptures⟩
  have hbefore : matchText input pattern = some ["Tom, Dick"] := by decide +kernel
  have hafter : matchText input' pattern' = some ["tom, dick"] := by decide +kernel
  exact ⟨hpattern, hinput, hbefore, hmatches, hafter, (hcaptures _ hbefore _ hafter).2⟩

end Dialogue
