import Dialogue.Pattern.Match
import Dialogue.Proofs.Text.Folding
import Mathlib.Data.List.Basic

/-!
# Expressions with preferences

A pattern stands for an expression over texts that is matched with backtracking.  The
ways to match an expression at the beginning of a text come in an order of preference:
a repetition prefers one round more to one round less, and the ways of the first part
of a sequence matter more than those of the second.  What counts is the first way.

Main results:

- Theorem `taken_append_rest`: a way cuts the text into what it takes and the rest.
- Theorem `ways_phrase_cons`: the ways of the expression for a phrase are the ends that
  the phrase can have, the longest phrase first.
-/

namespace Dialogue

open Text

/-! ## Expressions -/

/-- An expression over texts. -/
inductive Expression where
  /-- The empty text. -/
  | empty
  /-- One character of a class. -/
  | oneOf (p : Char → Bool)
  /-- The end of the text. -/
  | atEnd
  | seq (first second : Expression)
  /-- Any number of rounds, as many as possible. -/
  | many (round : Expression)
  /-- A part whose text is captured. -/
  | capture (part : Expression)

/-- A way to match an expression at the beginning of a text. -/
structure Way where
  /-- What the expression takes. -/
  taken : List Char
  captures : Captures
  rest : List Char
  deriving DecidableEq

namespace Way

/-- The way that takes nothing. -/
def stay (s : List Char) : Way := ⟨[], [], s⟩

/-- A way that goes on with another one. -/
def andThen (w later : Way) : Way :=
  ⟨w.taken ++ later.taken, w.captures ++ later.captures, later.rest⟩

/-- A way behind one more character. -/
def push (c : Char) (w : Way) : Way := ⟨c :: w.taken, w.captures, w.rest⟩

/-- A way whose text is captured. -/
def captured (w : Way) : Way := ⟨w.taken, w.taken :: w.captures, w.rest⟩

/-- Going on is associative. -/
theorem andThen_assoc (w w' later : Way) :
    (w.andThen w').andThen later = w.andThen (w'.andThen later) := by
  simp [andThen]

/-- A way that goes on in the rest of another one cuts the same text. -/
theorem andThen_taken_append_rest {w later : Way} {s : List Char}
    (hw : w.taken ++ w.rest = s) (hlater : later.taken ++ later.rest = w.rest) :
    (w.andThen later).taken ++ (w.andThen later).rest = s := by
  rw [andThen, List.append_assoc, hlater, hw]

end Way

namespace Expression

/-- The ways to match an expression at the beginning of a text, the preferred ones
first.  A round of a repetition that takes nothing does not count. -/
def ways : Expression → List Char → List Way
  | empty, s => [.stay s]
  | oneOf _, [] => []
  | oneOf p, c :: s => if p c then [⟨[c], [], s⟩] else []
  | atEnd, s => if s = [] then [.stay []] else []
  | seq first second, s =>
    (ways first s).flatMap fun w => (ways second w.rest).map w.andThen
  | many round, s =>
    ((ways round s).flatMap fun w =>
      if w.rest.length < s.length then (ways (many round) w.rest).map w.andThen else []) ++
        [.stay s]
  | capture part, s => (ways part s).map Way.captured
termination_by e s => (e, s.length)

/-- The captures of the preferred way, if there is a way. -/
def captures? (e : Expression) (s : List Char) : Option Captures :=
  (e.ways s).head?.map Way.captures

/-! ## Sequences -/

/-- Sequences can be regrouped. -/
theorem ways_seq_assoc (first second third : Expression) (s : List Char) :
    ((first.seq second).seq third).ways s = (first.seq (second.seq third)).ways s := by
  simp only [ways, List.flatMap_assoc, List.flatMap_map, List.map_flatMap, List.map_map]
  congr 1
  funext w
  congr 1
  funext w'
  exact List.map_congr_left fun later _ => Way.andThen_assoc w w' later

/-- The captures of a sequence are those of the first way of its first part that the
second part can follow. -/
theorem captures?_seq (first second : Expression) (s : List Char) :
    (first.seq second).captures? s =
      (first.ways s).findSome? fun w => (second.captures? w.rest).map (w.captures ++ ·) := by
  rw [captures?, ways, List.head?_flatMap, List.map_findSome?]
  congr 1
  funext w
  simp only [Function.comp_apply, captures?, List.head?_map, Option.map_map]
  rfl

/-! ## Characters -/

/-- A character in front of a sequence. -/
theorem ways_oneOf_seq_cons (p : Char → Bool) (e : Expression) (c : Char) (s : List Char) :
    ((oneOf p).seq e).ways (c :: s) = if p c then (e.ways s).map (Way.push c) else [] := by
  rw [ways, ways]
  by_cases hc : p c = true
  · rw [if_pos hc, if_pos hc, List.flatMap_singleton]
    rfl
  · rw [if_neg hc, if_neg hc, List.flatMap_nil]

/-- A repeated character is taken again if possible. -/
theorem ways_many_oneOf_cons (p : Char → Bool) (c : Char) (s : List Char) :
    (many (oneOf p)).ways (c :: s) =
      (if p c then ((many (oneOf p)).ways s).map (Way.push c) else []) ++ [.stay (c :: s)] := by
  rw [ways, ways]
  by_cases hc : p c = true
  · have hshorter : s.length < (c :: s).length := Nat.lt_succ_self _
    rw [if_pos hc, if_pos hc, List.flatMap_singleton]
    dsimp only
    rw [if_pos hshorter]
    rfl
  · rw [if_neg hc, if_neg hc, List.flatMap_nil]

/-- At the end no character is repeated. -/
theorem ways_many_oneOf_nil (p : Char → Bool) : (many (oneOf p)).ways [] = [.stay []] := by
  rw [ways, ways]
  rfl

/-- A repeated character in front of a sequence is taken again if possible. -/
theorem ways_many_seq_cons (p : Char → Bool) (e : Expression) (c : Char) (s : List Char) :
    ((many (oneOf p)).seq e).ways (c :: s) =
      (if p c then (((many (oneOf p)).seq e).ways s).map (Way.push c) else []) ++
        e.ways (c :: s) := by
  rw [ways, ways_many_oneOf_cons, List.flatMap_append, List.flatMap_singleton]
  congr 1
  · by_cases hc : p c = true
    · rw [if_pos hc, if_pos hc, ways, List.flatMap_map, List.map_flatMap]
      congr 1
      funext w
      rw [List.map_map]
      rfl
    · rw [if_neg hc, if_neg hc, List.flatMap_nil]
  · exact List.map_id _

/-- At the end no character is repeated. -/
theorem ways_many_seq_nil (p : Char → Bool) (e : Expression) :
    ((many (oneOf p)).seq e).ways [] = e.ways [] := by
  rw [ways, ways_many_oneOf_nil, List.flatMap_singleton]
  exact List.map_id _

/-! ## Cuts -/

/-- A way cuts the text into what it takes and the rest. -/
theorem taken_append_rest (e : Expression) (s : List Char) :
    ∀ w ∈ e.ways s, w.taken ++ w.rest = s := by
  fun_induction ways e s with
  | case1 s => simp [Way.stay]
  | case2 => simp
  | case3 => simp
  | case4 => simp
  | case5 => simp [Way.stay]
  | case6 => simp
  | case7 first second s hsecond hfirst =>
    intro w hw
    rcases List.mem_flatMap.1 hw with ⟨w', hw', hw⟩
    rcases List.mem_map.1 hw with ⟨later, hlater, rfl⟩
    exact Way.andThen_taken_append_rest (hfirst w' hw') (hsecond w' later hlater)
  | case8 round s hmany hround =>
    intro w hw
    rcases List.mem_append.1 hw with hw | hw
    · rcases List.mem_flatMap.1 hw with ⟨w', hw', hw⟩
      split at hw
      · rename_i hshorter
        rcases List.mem_map.1 hw with ⟨later, hlater, rfl⟩
        exact Way.andThen_taken_append_rest (hround w' hw') (hmany w' hshorter later hlater)
      · cases hw
    · rw [List.mem_singleton.1 hw]
      rfl
  | case9 part s hpart =>
    intro w hw
    rcases List.mem_map.1 hw with ⟨w', hw', rfl⟩
    exact hpart w' hw'

/-- A sequence that begins with a character leaves a shorter rest. -/
theorem length_rest_lt (p : Char → Bool) (e : Expression) (s : List Char) :
    ∀ w ∈ ((oneOf p).seq e).ways s, w.rest.length < s.length := by
  intro w hw
  cases s with
  | nil =>
    rw [ways, ways] at hw
    cases hw
  | cons c s =>
    rw [ways_oneOf_seq_cons] at hw
    by_cases hc : p c = true
    · rw [if_pos hc] at hw
      rcases List.mem_map.1 hw with ⟨w', hw', rfl⟩
      have hcut := congrArg List.length (taken_append_rest e s w' hw')
      rw [List.length_append] at hcut
      simp only [Way.push, List.length_cons]
      omega
    · rw [if_neg hc] at hw
      cases hw

/-- A repetition whose rounds take something goes on behind one round, or stops. -/
theorem ways_many_of_progress {round : Expression}
    (hround : ∀ s, ∀ w ∈ round.ways s, w.rest.length < s.length) (s : List Char) :
    (many round).ways s = (round.seq (many round)).ways s ++ [.stay s] := by
  rw [ways, ways]
  congr 1
  refine List.flatMap_congr fun w hw => ?_
  rw [if_pos (hround s w hw)]

/-! ## Phrases -/

/-- One or more characters of a class. -/
def oneOrMore (p : Char → Bool) : Expression := (oneOf p).seq (many (oneOf p))

/-- Any number of words, each behind separators. -/
def laterWords : Expression := many ((oneOrMore isSeparator).seq (oneOrMore isWordChar))

/-- Words with separators between them. -/
def phrase : Expression := (oneOrMore isWordChar).seq laterWords

/-- One or more characters are one character and any number of others. -/
theorem ways_oneOrMore_seq_cons (p : Char → Bool) (e : Expression) (c : Char) (s : List Char) :
    ((oneOrMore p).seq e).ways (c :: s) =
      if p c then (((many (oneOf p)).seq e).ways s).map (Way.push c) else [] := by
  rw [oneOrMore, ways_seq_assoc, ways_oneOf_seq_cons]

/-- At the end there is no character. -/
theorem ways_oneOrMore_seq_nil (p : Char → Bool) (e : Expression) :
    ((oneOrMore p).seq e).ways [] = [] := by
  rw [oneOrMore, ways_seq_assoc, ways, ways]
  rfl

/-- Later words are another phrase behind separators, or there are none. -/
theorem ways_laterWords (s : List Char) :
    laterWords.ways s = ((oneOrMore isSeparator).seq phrase).ways s ++ [.stay s] := by
  have hround : ∀ s, ∀ w ∈ ((oneOrMore isSeparator).seq (oneOrMore isWordChar)).ways s,
      w.rest.length < s.length := by
    intro s w hw
    rw [oneOrMore, ways_seq_assoc] at hw
    exact length_rest_lt isSeparator _ s w hw
  rw [laterWords, ways_many_of_progress hround, ways_seq_assoc]
  rfl

end Expression

/-- The ends that a phrase which has been begun can have, the longest phrase first:
what is still taken, and the rest. -/
def phraseEnds : List Char → List Way
  | [] => []
  | c :: s =>
    if isWordChar c then (phraseEnds s).map (Way.push c) ++ [⟨[c], [], s⟩]
    else if isSeparator c then (phraseEnds s).map (Way.push c)
    else []

namespace Expression

/-- The ways to go on inside a word lead to the ends that the phrase can have, or end
the phrase at once.  The ways to go on inside separators only lead to later ends. -/
theorem ways_inside_phrase (s : List Char) :
    ((many (oneOf isWordChar)).seq laterWords).ways s = phraseEnds s ++ [.stay s] ∧
      ((many (oneOf isSeparator)).seq phrase).ways s = phraseEnds s := by
  -- A word is followed by separators and separators by a word, so the two facts need each
  -- other at the rest of the text.
  induction s with
  | nil =>
    rw [ways_many_seq_nil, ways_many_seq_nil, ways_laterWords, ways_oneOrMore_seq_nil, phrase,
      ways_oneOrMore_seq_nil]
    exact ⟨rfl, rfl⟩
  | cons c s ih =>
    rcases ih with ⟨hword, hseparator⟩
    rw [ways_many_seq_cons, ways_many_seq_cons, ways_laterWords, ways_oneOrMore_seq_cons, phrase,
      ways_oneOrMore_seq_cons, hword, ← phrase, hseparator]
    by_cases hc : isSeparator c = true
    · have hother := isWordChar_of_isSeparator hc
      simp [phraseEnds, hc, hother]
    · by_cases hc' : isWordChar c = true
      · simp [phraseEnds, hc, hc', Way.push, Way.stay]
      · simp [phraseEnds, hc, hc']

/-- The ways of the expression for a phrase are the ends that the phrase can have, the
longest phrase first. -/
theorem ways_phrase_cons (c : Char) (s : List Char) :
    phrase.ways (c :: s) = if isWordChar c then phraseEnds (c :: s) else [] := by
  rw [phrase, ways_oneOrMore_seq_cons, (ways_inside_phrase s).1]
  by_cases hc : isWordChar c = true
  · simp [phraseEnds, hc, Way.push, Way.stay]
  · rw [if_neg hc, if_neg hc]

end Expression

end Dialogue
