import Dialogue.Markup.Error

/-!
# Pieces of markup

The first step of reading cuts a text into pieces: the texts between the
markup, and the contents of tags, comments and the other markup.  Cutting stops
at the end of the text or at markup whose end is missing.

Main results:

- `length_splitAtEnd`, `length_splitAtTagEnd`: markup ends before the text
  does, so cutting terminates.
-/

namespace Dialogue.Markup

/-- A piece of a text; the content of a tag does not include its angle
brackets. -/
inductive Piece where
  | text (content : List Char)
  /-- A tag that opens an element, or an empty element. -/
  | tag (content : List Char)
  /-- A closing tag, without its slash. -/
  | closeTag (content : List Char)
  | instruction (content : List Char)
  | comment (content : List Char)
  | cdata (content : List Char)
  | doctype (content : List Char)
  deriving DecidableEq, Repr

/-! ## Ends of markup -/

/-- The content before the first `>` at which `isEnd` holds of the content read
so far (read backwards), and the text after it. -/
def splitAtEnd (isEnd : List Char → Bool) (seen : List Char) :
    List Char → Option (List Char × List Char)
  | [] => none
  | c :: s =>
    if c = '>' ∧ isEnd seen then some (seen.reverse, s) else splitAtEnd isEnd (c :: seen) s

/-- The content before the first `>` that is not inside quotes, and the text
after it. -/
def splitAtTagEnd (quote : Option Char) (seen : List Char) :
    List Char → Option (List Char × List Char)
  | [] => none
  | c :: s =>
    match quote with
    | some q => splitAtTagEnd (if c = q then none else some q) (c :: seen) s
    | none =>
      if c = '>' then some (seen.reverse, s)
      else splitAtTagEnd (if c = '"' ∨ c = '\'' then some c else none) (c :: seen) s

/-- Whether a comment, read backwards from its `!`, is complete. -/
def endsComment : List Char → Bool
  | '-' :: '-' :: seen => 3 ≤ seen.length
  | _ => false

/-- Whether a CDATA section, read backwards from its `!`, is complete. -/
def endsCData : List Char → Bool
  | ']' :: ']' :: _ => true
  | _ => false

/-- Whether an instruction, read backwards, is complete. -/
def endsInstruction (seen : List Char) : Bool := seen.head? == some '?'

/-- Whether a document type, read backwards, is complete: the angle brackets in
it are balanced. -/
def endsDoctype (seen : List Char) : Bool := seen.count '<' == seen.count '>'

/-- Markup ends before the text does. -/
theorem length_splitAtEnd {isEnd : List Char → Bool} {seen s content rest : List Char}
    (h : splitAtEnd isEnd seen s = some (content, rest)) : rest.length < s.length := by
  induction s generalizing seen with
  | nil => simp [splitAtEnd] at h
  | cons c s ih =>
    simp only [splitAtEnd] at h
    split at h
    · simp only [Option.some.injEq, Prod.mk.injEq] at h
      simp [h.2]
    · exact Nat.lt_succ_of_lt (ih h)

/-- A tag ends before the text does. -/
theorem length_splitAtTagEnd {quote : Option Char} {seen s content rest : List Char}
    (h : splitAtTagEnd quote seen s = some (content, rest)) : rest.length < s.length := by
  induction s generalizing seen quote with
  | nil => simp [splitAtTagEnd] at h
  | cons c s ih =>
    simp only [splitAtTagEnd] at h
    split at h
    · exact Nat.lt_succ_of_lt (ih h)
    · split at h
      · simp only [Option.some.injEq, Prod.mk.injEq] at h
        simp [h.2]
      · exact Nat.lt_succ_of_lt (ih h)

/-! ## One piece -/

/-- A text that begins with given characters, whatever their case, without
them. -/
def dropKeyword : List Char → List Char → Option (List Char)
  | [], s => some s
  | _ :: _, [] => none
  | k :: keyword, c :: s => if c.toLower = k.toLower then dropKeyword keyword s else none

/-- The piece that follows `<!`. -/
def declarationPiece (s : List Char) : Except Error (Piece × List Char) :=
  match s with
  | '[' :: _ =>
    match splitAtEnd endsCData ['!'] s with
    | some ('!' :: '[' :: 'C' :: 'D' :: 'A' :: 'T' :: 'A' :: '[' :: content, rest) =>
      .ok (.cdata (content.take (content.length - 2)), rest)
    | _ => .error .unclosedCData
  | '-' :: _ =>
    match splitAtEnd endsComment ['!'] s with
    | some ('!' :: '-' :: '-' :: content, rest) =>
      .ok (.comment (content.take (content.length - 2)), rest)
    | _ => .error .unclosedComment
  | c :: _ =>
    if c = 'D' ∨ c = 'd' then
      match splitAtEnd endsDoctype [] s with
      | some (content, rest) =>
        match dropKeyword "DOCTYPE".toList content with
        | some name => .ok (.doctype name, rest)
        | none => .error .unclosedDoctype
      | none => .error .unclosedDoctype
    else .error .unknownMarkup
  | [] => .error .unknownMarkup

/-- The piece that follows `<`. -/
def markupPiece (s : List Char) : Except Error (Piece × List Char) :=
  match s with
  | [] => .error .unclosedTag
  | '!' :: rest => declarationPiece rest
  | '?' :: _ =>
    match splitAtEnd endsInstruction [] s with
    | some ('?' :: content, rest) =>
      if content.isEmpty then .error .unclosedInstruction
      else .ok (.instruction content.dropLast, rest)
    | _ => .error .unclosedInstruction
  | '/' :: rest =>
    match splitAtTagEnd none [] rest with
    | some (content, rest) => .ok (.closeTag content, rest)
    | none => .error .unclosedTag
  | s =>
    match splitAtTagEnd none [] s with
    | some (content, rest) => .ok (.tag content, rest)
    | none => .error .unclosedTag

/-- The piece after `<!` ends before the text does. -/
theorem length_declarationPiece {s rest : List Char} {piece : Piece}
    (h : declarationPiece s = .ok (piece, rest)) : rest.length < s.length := by
  unfold declarationPiece at h
  split at h
  · split at h
    · rename_i heq
      simp only [Except.ok.injEq, Prod.mk.injEq] at h
      exact h.2 ▸ length_splitAtEnd heq
    · simp at h
  · split at h
    · rename_i heq
      simp only [Except.ok.injEq, Prod.mk.injEq] at h
      exact h.2 ▸ length_splitAtEnd heq
    · simp at h
  · split at h
    · split at h
      · rename_i heq
        split at h
        · simp only [Except.ok.injEq, Prod.mk.injEq] at h
          exact h.2 ▸ length_splitAtEnd heq
        · simp at h
      · simp at h
    · simp at h
  · simp at h

/-- The piece after `<` ends before the text does. -/
theorem length_markupPiece {s rest : List Char} {piece : Piece}
    (h : markupPiece s = .ok (piece, rest)) : rest.length < s.length := by
  unfold markupPiece at h
  split at h
  · simp at h
  · exact Nat.lt_succ_of_lt (length_declarationPiece h)
  · split at h
    · rename_i heq
      split at h
      · simp at h
      · simp only [Except.ok.injEq, Prod.mk.injEq] at h
        exact h.2 ▸ length_splitAtEnd heq
    · simp at h
  · split at h
    · rename_i heq
      simp only [Except.ok.injEq, Prod.mk.injEq] at h
      exact Nat.lt_succ_of_lt (h.2 ▸ length_splitAtTagEnd heq)
    · simp at h
  · split at h
    · rename_i heq
      simp only [Except.ok.injEq, Prod.mk.injEq] at h
      exact h.2 ▸ length_splitAtTagEnd heq
    · simp at h

/-! ## All pieces -/

/-- The pieces of a text up to its end or to the first markup that is never
closed, and what is wrong with that markup. -/
structure Cut where
  pieces : List Piece
  fault : Option Error
  deriving DecidableEq, Repr

/-- A cut with one more piece in front. -/
def Cut.push (piece : Piece) (cut : Cut) : Cut := { cut with pieces := piece :: cut.pieces }

/-- Whether a character is part of the text between markup. -/
def isTextChar (c : Char) : Bool := c != '<'

/-- Cuts a text into its pieces. -/
def cutPieces (s : List Char) : Cut :=
  match s with
  | [] => ⟨[], none⟩
  | c :: rest =>
    if c = '<' then
      match _h : markupPiece rest with
      | .ok (piece, after) => (cutPieces after).push piece
      | .error fault => ⟨[], some fault⟩
    else
      (cutPieces (rest.dropWhile isTextChar)).push (.text (c :: rest.takeWhile isTextChar))
termination_by s.length
decreasing_by
  · exact Nat.lt_succ_of_lt (length_markupPiece _h)
  · exact Nat.lt_succ_of_le (List.dropWhile_suffix isTextChar).length_le

/-- Cuts a text into its pieces; a byte order mark at its beginning is not part
of the text. -/
def cutText (text : String) : Cut :=
  match text.toList with
  | '\ufeff' :: s => cutPieces s
  | s => cutPieces s

end Dialogue.Markup
