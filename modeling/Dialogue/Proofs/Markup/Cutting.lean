import Dialogue.Markup.Piece
import Mathlib.Data.List.Infix
import Mathlib.Data.List.TakeWhile

/-!
# Cutting a text in two

A text may end between two pieces of markup, or in the middle of a text between them.  What is
cut from it then does not depend on what comes after it, except that the text at its end goes on.

Main results:

- Theorem `markupPiece_append`: closed markup does not depend on what comes after it.
- Theorem `cutPieces_markup`, `cutPieces_text`: one piece is cut off in front of the others.
- Theorem `cutPieces_append`: all pieces of a text come first, and the text at its end goes on.
- Theorem `markupPiece_comment`, `markupPiece_instruction`: how comments and instructions end.
-/

namespace Dialogue.Markup

/-! ## Beginnings of texts -/

section Beginnings

variable {p : Char → Bool} {s rest : List Char}

/-- The longest beginning of characters that pass a test ends where a character fails it. -/
theorem takeWhile_append_stop (hs : ∀ c ∈ s, p c = true) (hrest : ∀ c ∈ rest.head?, p c = false) :
    (s ++ rest).takeWhile p = s := by
  rw [List.takeWhile_append_of_pos hs]
  cases rest with
  | nil => exact List.append_nil s
  | cons c rest => rw [List.takeWhile_cons_of_neg (by simp [hrest c rfl]), List.append_nil]

/-- Without its longest beginning of characters that pass a test, a text begins with the first
character that fails it. -/
theorem dropWhile_append_stop (hs : ∀ c ∈ s, p c = true) (hrest : ∀ c ∈ rest.head?, p c = false) :
    (s ++ rest).dropWhile p = rest := by
  rw [List.dropWhile_append_of_pos hs]
  cases rest with
  | nil => rfl
  | cons c rest => rw [List.dropWhile_cons_of_neg (by simp [hrest c rfl])]

/-- What is left without the longest beginning of characters that pass a test does not begin
with one. -/
theorem head?_dropWhile_eq_false (p : Char → Bool) (s : List Char) :
    ∀ c ∈ (s.dropWhile p).head?, p c = false := by
  intro c hc
  have hnot := List.head?_dropWhile_not p s
  rw [Option.mem_def.1 hc] at hnot
  simpa using hnot

end Beginnings

/-! ## Ends of markup -/

section Ends

variable {isEnd : List Char → Bool} {quote : Option Char} {seen s content rest : List Char}

/-- Markup ends where it ends, whatever comes after it. -/
theorem splitAtEnd_append (h : splitAtEnd isEnd seen s = some (content, rest))
    (after : List Char) : splitAtEnd isEnd seen (s ++ after) = some (content, rest ++ after) := by
  induction s generalizing seen with
  | nil => simp [splitAtEnd] at h
  | cons c s ih =>
    rw [splitAtEnd] at h
    rw [List.cons_append, splitAtEnd]
    by_cases hend : c = '>' ∧ isEnd seen = true
    · rw [if_pos hend] at h ⊢
      cases h
      rfl
    · rw [if_neg hend] at h ⊢
      exact ih h

/-- A tag ends where it ends, whatever comes after it. -/
theorem splitAtTagEnd_append (h : splitAtTagEnd quote seen s = some (content, rest))
    (after : List Char) :
    splitAtTagEnd quote seen (s ++ after) = some (content, rest ++ after) := by
  induction s generalizing seen quote with
  | nil => simp [splitAtTagEnd] at h
  | cons c s ih =>
    rw [List.cons_append]
    cases quote with
    | some q =>
      simp only [splitAtTagEnd] at h ⊢
      exact ih h
    | none =>
      simp only [splitAtTagEnd] at h ⊢
      by_cases hend : c = '>'
      · rw [if_pos hend] at h ⊢
        cases h
        rfl
      · rw [if_neg hend] at h ⊢
        exact ih h

/-- Markup ends at the first angle bracket at which the content before it is complete. -/
theorem splitAtEnd_of_isEnd (hinner : ∀ before after, content = before ++ '>' :: after →
      isEnd (before.reverse ++ seen) = false)
    (hend : isEnd (content.reverse ++ seen) = true) (rest : List Char) :
    splitAtEnd isEnd seen (content ++ '>' :: rest) = some (seen.reverse ++ content, rest) := by
  induction content generalizing seen with
  | nil =>
    rw [List.nil_append, splitAtEnd, if_pos ⟨rfl, hend⟩, List.append_nil]
  | cons c content ih =>
    have hfirst : ¬(c = '>' ∧ isEnd seen = true) := by
      rintro ⟨rfl, hseen⟩
      have hopen := hinner [] content rfl
      rw [List.reverse_nil, List.nil_append, hseen] at hopen
      cases hopen
    rw [List.cons_append, splitAtEnd, if_neg hfirst, ih]
    · rw [List.reverse_cons, List.append_assoc]
      rfl
    · intro before after hcontent
      have hlater := hinner (c :: before) after (by rw [hcontent, List.cons_append])
      rwa [List.reverse_cons, List.append_assoc] at hlater
    · rwa [List.reverse_cons, List.append_assoc] at hend

end Ends

/-! ## Pieces of markup -/

section Pieces

variable {s rest : List Char} {piece : Piece}

/-- A document type. -/
theorem declarationPiece_doctype {c : Char} (hkeyword : c = 'D' ∨ c = 'd') (s : List Char) :
    declarationPiece (c :: s) =
      match splitAtEnd endsDoctype [] (c :: s) with
      | some (content, rest) =>
        match dropKeyword "DOCTYPE".toList content with
        | some name => .ok (.doctype name, rest)
        | none => .error .unclosedDoctype
      | none => .error .unclosedDoctype := by
  rcases hkeyword with rfl | rfl <;> rfl

/-- A tag that does not close an element. -/
theorem markupPiece_tag {c : Char} (hdeclaration : c ≠ '!') (hinstruction : c ≠ '?')
    (hclose : c ≠ '/') (s : List Char) :
    markupPiece (c :: s) =
      match splitAtTagEnd none [] (c :: s) with
      | some (content, rest) => .ok (.tag content, rest)
      | none => .error .unclosedTag := by
  unfold markupPiece
  split
  · rename_i hfirst
    cases hfirst
  · rename_i hfirst
    exact absurd (List.cons.inj hfirst).1 hdeclaration
  · rename_i hfirst
    exact absurd (List.cons.inj hfirst).1 hinstruction
  · rename_i hfirst
    exact absurd (List.cons.inj hfirst).1 hclose
  · rfl

/-- A closed declaration does not depend on what comes after it. -/
theorem declarationPiece_append (h : declarationPiece s = .ok (piece, rest)) (after : List Char) :
    declarationPiece (s ++ after) = .ok (piece, rest ++ after) := by
  unfold declarationPiece at h
  split at h
  · split at h
    · rename_i heq
      cases h
      have hsplit := splitAtEnd_append heq after
      rw [List.cons_append] at hsplit ⊢
      simp only [declarationPiece, hsplit]
    · cases h
  · split at h
    · rename_i heq
      cases h
      have hsplit := splitAtEnd_append heq after
      rw [List.cons_append] at hsplit ⊢
      simp only [declarationPiece, hsplit]
    · cases h
  · split at h
    · rename_i hkeyword
      split at h
      · rename_i heq
        split at h
        · rename_i hname
          cases h
          have hsplit := splitAtEnd_append heq after
          rw [List.cons_append] at hsplit ⊢
          simp only [declarationPiece_doctype hkeyword, hsplit, hname]
        · cases h
      · cases h
    · cases h
  · cases h

/-- Closed markup does not depend on what comes after it. -/
theorem markupPiece_append (h : markupPiece s = .ok (piece, rest)) (after : List Char) :
    markupPiece (s ++ after) = .ok (piece, rest ++ after) := by
  cases s with
  | nil => cases h
  | cons c s =>
    rw [List.cons_append]
    by_cases hdeclaration : c = '!'
    · subst hdeclaration
      simp only [markupPiece] at h ⊢
      exact declarationPiece_append h after
    by_cases hinstruction : c = '?'
    · subst hinstruction
      simp only [markupPiece] at h ⊢
      split at h
      · rename_i heq
        have hsplit := splitAtEnd_append heq after
        rw [List.cons_append] at hsplit
        split at h
        · cases h
        · rename_i hempty
          cases h
          simp only [hsplit, if_neg hempty]
      · cases h
    by_cases hclose : c = '/'
    · subst hclose
      simp only [markupPiece] at h ⊢
      split at h
      · rename_i heq
        cases h
        simp only [splitAtTagEnd_append heq after]
      · cases h
    rw [markupPiece_tag hdeclaration hinstruction hclose] at h ⊢
    split at h
    · rename_i heq
      have hsplit := splitAtTagEnd_append heq after
      rw [List.cons_append] at hsplit
      cases h
      simp only [hsplit]
    · cases h

/-- Markup is no text. -/
theorem markupPiece_ne_text {content : List Char} : markupPiece s ≠ .ok (.text content, rest) := by
  intro h
  unfold markupPiece declarationPiece at h
  repeat' split at h
  all_goals cases h

end Pieces

/-! ## Cuts -/

/-- The piece that a text between markup is, if it is not empty. -/
def textPieces : List Char → List Piece
  | [] => []
  | s => [.text s]

/-- A cut with more pieces in front. -/
def Cut.after (pieces : List Piece) (cut : Cut) : Cut := { cut with pieces := pieces ++ cut.pieces }

/-- One piece comes in front by itself. -/
theorem Cut.after_cons (piece : Piece) (pieces : List Piece) (cut : Cut) :
    cut.after (piece :: pieces) = (cut.after pieces).push piece := rfl

/-- Pieces may come in front one list after the other. -/
theorem Cut.after_append (pieces later : List Piece) (cut : Cut) :
    cut.after (pieces ++ later) = (cut.after later).after pieces := by
  rw [after, after, after, List.append_assoc]

/-- Closed markup is cut off. -/
theorem cutPieces_markup {s rest : List Char} {piece : Piece}
    (h : markupPiece s = .ok (piece, rest)) :
    cutPieces ('<' :: s) = (cutPieces rest).push piece := by
  rw [cutPieces, if_pos rfl]
  split
  · rename_i heq
    rw [h] at heq
    cases heq
    rfl
  · rename_i heq
    rw [h] at heq
    cases heq

/-- A cut without a fault at markup is one after closed markup. -/
theorem exists_of_cutPieces_markup {s : List Char} (h : (cutPieces ('<' :: s)).fault = none) :
    ∃ piece rest, markupPiece s = .ok (piece, rest) ∧ (cutPieces rest).fault = none := by
  rw [cutPieces, if_pos rfl] at h
  split at h
  · rename_i piece rest heq
    exact ⟨piece, rest, heq, h⟩
  · cases h

/-- Where no angle bracket opens a tag, there is only text. -/
theorem isTextChar_of_not_mem {s : List Char} (h : '<' ∉ s) : ∀ c ∈ s, isTextChar c = true := by
  intro c hc
  rw [isTextChar, bne_iff_ne]
  rintro rfl
  exact h hc

/-- A text up to the next markup is cut off. -/
theorem cutPieces_text {s rest : List Char} (hs : ∀ c ∈ s, isTextChar c = true)
    (hrest : ∀ c ∈ rest.head?, isTextChar c = false) :
    cutPieces (s ++ rest) = (cutPieces rest).after (textPieces s) := by
  cases s with
  | nil => rfl
  | cons c s =>
    rw [List.forall_mem_cons] at hs
    have hc : c ≠ '<' := by
      rintro rfl
      cases hs.1
    rw [List.cons_append, cutPieces, if_neg hc, takeWhile_append_stop hs.2 hrest,
      dropWhile_append_stop hs.2 hrest]
    rfl

/-- The text in front of the next markup is cut off. -/
theorem cutPieces_eq (s : List Char) :
    cutPieces s =
      (cutPieces (s.dropWhile isTextChar)).after (textPieces (s.takeWhile isTextChar)) := by
  have hcut := cutPieces_text (s := s.takeWhile isTextChar) (fun c hc => List.mem_takeWhile_imp hc)
    (head?_dropWhile_eq_false isTextChar s)
  rwa [List.takeWhile_append_dropWhile] at hcut

/-- Behind markup, pieces end with a text only if they did without it. -/
theorem getLast?_ne_text {s rest : List Char} {piece : Piece} {pieces : List Piece}
    (hpiece : markupPiece s = .ok (piece, rest))
    (hlast : ∀ content, pieces.getLast? ≠ some (.text content)) (front : List Piece)
    (content : List Char) : (front ++ piece :: pieces).getLast? ≠ some (.text content) := by
  intro hcontent
  rw [List.getLast?_append, List.getLast?_cons] at hcontent
  cases hsome : pieces.getLast? with
  | none =>
    rw [hsome] at hcontent
    cases hcontent
    exact markupPiece_ne_text hpiece
  | some last =>
    rw [hsome] at hcontent
    cases hcontent
    exact hlast content hsome

/-- What is cut from a text does not depend on what comes after it: the text at its end goes on,
and all other pieces come first. -/
theorem cutPieces_append (s : List Char) (h : (cutPieces s).fault = none) :
    ∃ pieces tail, (∀ c ∈ tail, isTextChar c = true) ∧
      (∀ content, pieces.getLast? ≠ some (.text content)) ∧
      (cutPieces s).pieces = pieces ++ textPieces tail ∧
      ∀ after, cutPieces (s ++ after) = (cutPieces (tail ++ after)).after pieces := by
  induction hlength : s.length using Nat.strongRecOn generalizing s with
  | _ n ih =>
    subst hlength
    have htext : ∀ c ∈ s.takeWhile isTextChar, isTextChar c = true :=
      fun c hc => List.mem_takeWhile_imp hc
    have hstop := head?_dropWhile_eq_false isTextChar s
    have hs : s = s.takeWhile isTextChar ++ s.dropWhile isTextChar :=
      List.takeWhile_append_dropWhile.symm
    cases hrest : s.dropWhile isTextChar with
    | nil =>
      -- There is no markup any more.
      rw [hrest, List.append_nil] at hs
      refine ⟨[], s, by rwa [hs], by simp, ?_, fun after => rfl⟩
      rw [cutPieces_eq, hrest, ← hs, cutPieces]
      exact List.append_nil _
    | cons c rest =>
      rw [hrest] at hs hstop
      have hc : c = '<' := by simpa [isTextChar] using hstop c rfl
      subst hc
      have hcut := cutPieces_eq s
      rw [hrest] at hcut
      rw [hcut] at h
      rcases exists_of_cutPieces_markup h with ⟨piece, later, hpiece, hlater⟩
      have hlt : later.length < s.length := by
        have hmarkup := length_markupPiece hpiece
        have hwhole := congrArg List.length hs
        rw [List.length_append, List.length_cons] at hwhole
        omega
      rcases ih later.length hlt later hlater rfl with
        ⟨pieces, tail, htail, hlast, hpieces, happend⟩
      refine ⟨textPieces (s.takeWhile isTextChar) ++ piece :: pieces, tail, htail,
        getLast?_ne_text hpiece hlast _, ?_, ?_⟩
      · rw [hcut, cutPieces_markup hpiece, List.append_assoc, List.cons_append, ← hpieces]
        rfl
      · intro after
        have hnext : cutPieces ('<' :: (rest ++ after)) =
            ((cutPieces (tail ++ after)).after pieces).push piece := by
          rw [cutPieces_markup (markupPiece_append hpiece after), happend after]
        rw [Cut.after_append, Cut.after_cons, ← hnext]
        conv_lhs => rw [hs, List.append_assoc, List.cons_append]
        refine cutPieces_text htext ?_
        intro d hd
        cases hd
        rfl

/-! ## Comments and instructions -/

/-- A comment or an instruction as it is written after its `<`.  There are no two hyphens in a
row in a comment, and none at its end; an instruction has no end of one in it. -/
inductive Remark : List Char → Piece → Prop
  | comment {content : List Char} (h : ¬['-', '-'] <:+: content ++ ['-']) :
    Remark ("!--".toList ++ content ++ "-->".toList) (.comment content)
  | instruction {content : List Char} (h : ¬['?', '>'] <:+: '?' :: content) :
    Remark ('?' :: content ++ "?>".toList) (.instruction content)

/-- What ends a comment is two hyphens that are not those of its beginning. -/
theorem exists_of_endsComment {before : List Char}
    (h : endsComment (before.reverse ++ ['!']) = true) :
    ∃ first second middle, before = first :: second :: middle ++ ['-', '-'] := by
  obtain ⟨seen, rfl⟩ : ∃ seen : List Char, before = seen.reverse :=
    ⟨before.reverse, before.reverse_reverse.symm⟩
  rw [List.reverse_reverse] at h
  match seen with
  | [] => simp [endsComment] at h
  | [_] => simp [endsComment] at h
  | c :: d :: seen =>
    rw [List.cons_append, List.cons_append] at h
    unfold endsComment at h
    split at h
    · rename_i earlier heq
      simp only [List.cons.injEq] at heq
      obtain ⟨rfl, rfl, rfl⟩ := heq
      rw [decide_eq_true_iff, List.length_append, List.length_singleton] at h
      match hreverse : seen.reverse with
      | first :: second :: middle => exact ⟨first, second, middle, by simp [hreverse]⟩
      | [_] | [] =>
        rw [← List.length_reverse, hreverse] at h
        simp at h
    · cases h

/-- The content of a comment does not end it. -/
theorem endsComment_eq_false {content before after : List Char}
    (h : ¬['-', '-'] <:+: content ++ ['-'])
    (hcut : '-' :: '-' :: content ++ ['-', '-'] = before ++ '>' :: after) :
    endsComment (before.reverse ++ ['!']) = false := by
  by_contra hend
  rw [Bool.not_eq_false] at hend
  rcases exists_of_endsComment hend with ⟨first, second, middle, rfl⟩
  have hcontent : content ++ ['-'] ++ ['-'] = middle ++ ['-', '-'] ++ '>' :: after := by
    simpa using (List.cons.inj (List.cons.inj hcut).2).2
  -- The hyphens are in the comment or at its end, since an angle bracket comes after them.
  rcases List.eq_nil_or_concat after with rfl | ⟨after, last, rfl⟩
  · have hlast := congrArg List.getLast? hcontent
    simp at hlast
  · rw [List.concat_eq_append, ← List.cons_append, ← List.append_assoc] at hcontent
    exact h ⟨middle, '>' :: after, (List.append_inj' hcontent rfl).1.symm⟩

/-- The content of an instruction does not end it. -/
theorem endsInstruction_eq_false {content before after : List Char}
    (h : ¬['?', '>'] <:+: '?' :: content)
    (hcut : '?' :: content ++ ['?'] = before ++ '>' :: after) :
    endsInstruction (before.reverse ++ []) = false := by
  by_contra hend
  rw [Bool.not_eq_false, List.append_nil, endsInstruction, List.head?_reverse] at hend
  rcases List.eq_nil_or_concat before with rfl | ⟨before, last, rfl⟩
  · cases hend
  · rw [List.concat_eq_append, List.getLast?_concat, beq_iff_eq, Option.some.injEq] at hend
    subst hend
    rcases List.eq_nil_or_concat after with rfl | ⟨after, last, rfl⟩
    · have hlast := congrArg List.getLast? hcut
      rw [List.getLast?_concat, List.getLast?_concat] at hlast
      cases hlast
    · rw [List.concat_eq_append, List.concat_eq_append, ← List.cons_append, ← List.append_assoc]
        at hcut
      refine h ⟨before, after, ?_⟩
      rw [(List.append_inj' hcut rfl).1, List.append_assoc, List.append_assoc]
      rfl

/-- A comment or an instruction ends where it says. -/
theorem Remark.markupPiece {mark : List Char} {piece : Piece} (h : Remark mark piece)
    (rest : List Char) : markupPiece (mark ++ rest) = .ok (piece, rest) := by
  cases h with
  | @comment content h =>
    have hend : endsComment (('-' :: '-' :: content ++ ['-', '-']).reverse ++ ['!']) = true := by
      simp [endsComment]
    have hsplit := splitAtEnd_of_isEnd (fun _ _ hcut => endsComment_eq_false h hcut) hend rest
    have hwhole : "!--".toList ++ content ++ "-->".toList ++ rest =
        '!' :: '-' :: ('-' :: content ++ ['-', '-'] ++ '>' :: rest) := by
      simp
    rw [hwhole, Markup.markupPiece, declarationPiece]
    rw [List.cons_append, List.cons_append] at hsplit
    simp only [hsplit]
    simp
  | @instruction content h =>
    have hend : endsInstruction (('?' :: content ++ ['?']).reverse ++ []) = true := by
      simp [endsInstruction]
    have hsplit := splitAtEnd_of_isEnd (fun _ _ hcut => endsInstruction_eq_false h hcut) hend rest
    have hwhole : '?' :: content ++ "?>".toList ++ rest =
        '?' :: (content ++ ['?'] ++ '>' :: rest) := by
      simp
    rw [hwhole, Markup.markupPiece]
    rw [List.cons_append, List.cons_append] at hsplit
    simp only [hsplit]
    simp

end Dialogue.Markup
