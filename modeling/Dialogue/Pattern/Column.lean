import Dialogue.Pattern.Match

/-!
# Matching in one pass per token

A search that tries every length for every wildcard repeats the same
questions.  Here each token is asked once about every tail of the text: the
answers form a column, and the column of a token is computed from the column of
the tokens after it in one pass from right to left.

Main results:

- `followColumn_eq`: a column holds the answers of the search.
- `captures_eq_search`: both ways to match give the same captures.
-/

namespace Dialogue

open Text

/-! ## Columns -/

/-- The values of a function at a text and at each of its tails, the whole text
first. -/
def column {α : Type} (f : List Char → α) : List Char → List α
  | [] => [f []]
  | c :: s => f (c :: s) :: column f s

/-- A column begins with the value at the whole text. -/
@[simp] theorem head?_column {α : Type} (f : List Char → α) (s : List Char) :
    (column f s).head? = some (f s) := by
  cases s <;> rfl

/-- The entry of a column at the tail that is left after `n` characters. -/
theorem column_drop_head? {α : Type} (f : List Char → α) (s t : List Char) :
    ((column f (s ++ t)).drop s.length).head? = some (f t) := by
  induction s with
  | nil => simp
  | cons c s ih => simpa [column] using ih

/-- The first answer of a column, or no answer. -/
def first {α : Type} (answers : List (Option α)) : Option α := answers.head?.join

/-- The first answer of a column is the answer for the whole text. -/
@[simp] theorem first_column {α : Type} (f : List Char → Option α) (s : List Char) :
    first (column f s) = f s := by
  simp [first]

/-! ## One pass per token -/

/-- The column of `fill` from the column of what can follow. -/
def fillColumn : List Char → List (Option Captures) → List (Option (List Char × Captures))
  | [], _ => [none]
  | c :: s, next =>
    let later := fillColumn s next.tail
    let extended := (first later).map fun (rest, more) => (c :: rest, more)
    let here :=
      if isWordChar c then extended <|> ((first next.tail).map fun more => ([c], more))
      else if isSeparator c then extended
      else none
    here :: later

/-- The column of a wildcard from the column of `fill`. -/
def wildcardColumn : List Char → List (Option (List Char × Captures)) → List (Option Captures)
  | [], _ => [none]
  | c :: s, filled =>
    (if isWordChar c then (first filled).map fun (first, more) => first :: more else none) ::
      wildcardColumn s filled.tail

/-- The column of a literal word from the column of what can follow. -/
def literalColumn (word : List Char) : List Char → List (Option Captures) → List (Option Captures)
  | [], next => [(dropLiteral word []).bind fun _ => first (next.drop word.length)]
  | c :: s, next =>
    ((dropLiteral word (c :: s)).bind fun _ => first (next.drop word.length)) ::
      literalColumn word s next.tail

/-- The column of a token from the column of what can follow. -/
def Token.column : Token → List Char → List (Option Captures) → List (Option Captures)
  | .literal word, s, next => literalColumn word s next
  | .wildcard, s, next => wildcardColumn s (fillColumn s next)

/-- The column of a closing tail: no captures where only closing punctuation is
left. -/
def closingColumn : List Char → List (Option Captures)
  | [] => [some []]
  | c :: s =>
    let later := closingColumn s
    (if isClosing c then first later else none) :: later

/-- The column of a space and what comes after it. -/
def spacedColumn : List Char → List (Option Captures) → List (Option Captures)
  | [], _ => [none]
  | c :: s, next => (if c = ' ' then first next.tail else none) :: spacedColumn s next.tail

/-- The column of the tokens that follow a token that has been matched. -/
def followColumn : List Token → List Char → List (Option Captures)
  | [], s => closingColumn s
  | token :: tokens, s => spacedColumn s (token.column s (followColumn tokens s))

/-- The captures of a list of tokens matched against a whole text. -/
def captureTokens : List Token → List Char → Option Captures
  | [], s => first (closingColumn s)
  | token :: tokens, s => first (token.column s (followColumn tokens s))

/-! ## Agreement with the search -/

/-- A literal word leaves as much as its length says. -/
theorem dropLiteral_eq_some {word s rest : List Char} (h : dropLiteral word s = some rest) :
    rest = s.drop word.length ∧ word.length ≤ s.length := by
  induction word generalizing s with
  | nil => simpa [dropLiteral, eq_comm] using h
  | cons w word ih =>
    cases s with
    | nil => simp [dropLiteral] at h
    | cons c s =>
      simp only [dropLiteral] at h
      split at h
      · simpa using ih h
      · simp at h

/-- The column of `fill` holds the values of `fill`. -/
theorem fillColumn_eq (next : List Char → Option Captures) (s : List Char) :
    fillColumn s (column next s) = column (fill next) s := by
  induction s with
  | nil => rfl
  | cons c s ih => simp [fillColumn, column, fill, ih]

/-- The column of a wildcard holds its answers. -/
theorem wildcardColumn_eq (next : List Char → Option Captures) (s : List Char) :
    wildcardColumn s (column (fill next) s) = column (Token.wildcard.take next) s := by
  induction s with
  | nil => rfl
  | cons c s ih => simpa [wildcardColumn, column, Token.take, first] using ih

/-- The entry of a column behind a literal word at the beginning of the text. -/
theorem bind_dropLiteral_column (word s : List Char) (next : List Char → Option Captures) :
    ((dropLiteral word s).bind fun _ => first ((column next s).drop word.length)) =
      (dropLiteral word s).bind next := by
  cases h : dropLiteral word s with
  | none => rfl
  | some rest =>
    obtain ⟨hrest, hle⟩ := dropLiteral_eq_some h
    have hlen : (s.take word.length).length = word.length := by simp [Nat.min_eq_left hle]
    have := column_drop_head? next (s.take word.length) (s.drop word.length)
    rw [List.take_append_drop, hlen] at this
    simp [first, this, hrest]

/-- The column of a literal word holds its answers. -/
theorem literalColumn_eq (word : List Char) (next : List Char → Option Captures)
    (s : List Char) :
    literalColumn word s (column next s) = column ((Token.literal word).take next) s := by
  induction s with
  | nil =>
    have := bind_dropLiteral_column word [] next
    simpa [literalColumn, column, Token.take] using this
  | cons c s ih =>
    have := bind_dropLiteral_column word (c :: s) next
    simp only [column] at this
    simp [literalColumn, column, Token.take, this, ih]

/-- The column of a token holds its answers. -/
theorem Token.column_eq (token : Token) (next : List Char → Option Captures) (s : List Char) :
    token.column s (Dialogue.column next s) = Dialogue.column (token.take next) s := by
  cases token with
  | literal word => exact literalColumn_eq word next s
  | wildcard => simp [Token.column, fillColumn_eq, wildcardColumn_eq]

/-- The column of a closing tail holds its answers. -/
theorem closingColumn_eq (s : List Char) : closingColumn s = column (follow []) s := by
  induction s with
  | nil => rfl
  | cons c s ih => by_cases h : isClosing c <;> simp [closingColumn, column, follow, ih, h]

/-- The column of a space and what comes after it holds its answers. -/
theorem spacedColumn_eq (token : Token) (tokens : List Token) (s : List Char) :
    spacedColumn s (column (token.take (follow tokens)) s) =
      column (follow (token :: tokens)) s := by
  induction s with
  | nil => rfl
  | cons c s ih => simp [spacedColumn, column, follow, ih]

/-- A column holds the answers of the search. -/
theorem followColumn_eq (tokens : List Token) (s : List Char) :
    followColumn tokens s = column (follow tokens) s := by
  induction tokens with
  | nil => exact closingColumn_eq s
  | cons token tokens ih => rw [followColumn, ih, Token.column_eq, spacedColumn_eq]

/-- Both ways to match give the same captures. -/
theorem captures_eq_search (tokens : List Token) (s : List Char) :
    captureTokens tokens s = search tokens s := by
  cases tokens with
  | nil => simp [captureTokens, closingColumn_eq, search, follow]
  | cons token tokens => simp [captureTokens, followColumn_eq, Token.column_eq, search]

end Dialogue
