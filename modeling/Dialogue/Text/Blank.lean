/-!
# Blanks, words and closing punctuation

Texts are compared word by word.  This module says which characters are blank,
cuts a text into its words, and removes blanks and closing punctuation from the
ends of a text.

Main results:

- `words_eq_nil_iff`: a text has no words exactly when it is blank throughout.
- `trim_eq_nil_iff`: trimming leaves nothing exactly of a text that is blank
  throughout.
-/

namespace Dialogue.Text

/-! ## Classes of characters -/

/-- The blank characters other than the ASCII ones and the en and em spaces. -/
def rareBlanks : List Char :=
  ['\u0085', '\u00a0', '\u1680', '\u2028', '\u2029', '\u202f', '\u205f', '\u3000']

/-- Whether a character is white space. -/
def isBlank (c : Char) : Bool :=
  c == ' ' || ('\t' ≤ c && c ≤ '\r') ||
    (0x80 ≤ c.toNat && (('\u2000' ≤ c && c ≤ '\u200a') || rareBlanks.contains c))

/-- Whether a character is a mark that ends a sentence. -/
def isSentenceEnd (c : Char) : Bool := c == '.' || c == '!' || c == '?'

/-- Whether a character can be part of the tail of a text that is not compared:
a blank or a mark that ends a sentence. -/
def isClosing (c : Char) : Bool := isSentenceEnd c || isBlank c

/-- The space is blank. -/
@[simp] theorem isBlank_space : isBlank ' ' = true := rfl

/-- A blank character is a closing one. -/
theorem isClosing_of_isBlank {c : Char} (h : isBlank c = true) : isClosing c = true := by
  simp [isClosing, h]

/-! ## Removing from the ends -/

/-- The text without its longest tail of characters that satisfy `p`. -/
def dropEndWhile (p : Char → Bool) (s : List Char) : List Char :=
  (s.reverse.dropWhile p).reverse

/-- The text without leading and trailing blanks. -/
def trim (s : List Char) : List Char := dropEndWhile isBlank (s.dropWhile isBlank)

/-- The text without its trailing blanks and marks that end a sentence. -/
def dropClosing (s : List Char) : List Char := dropEndWhile isClosing s

/-- Whether a text has no character but blanks. -/
def isBlankText (s : List Char) : Bool := s.all isBlank

/-- Nothing is left after the beginning is removed exactly when all of it is
removed. -/
theorem dropWhile_eq_nil_iff {p : Char → Bool} {s : List Char} :
    s.dropWhile p = [] ↔ ∀ c ∈ s, p c = true := by
  induction s with
  | nil => simp
  | cons c s ih => by_cases h : p c = true <;> simp [h, ih]

/-- Nothing is left after the end is removed exactly when all of it is removed. -/
theorem dropEndWhile_eq_nil_iff {p : Char → Bool} {s : List Char} :
    dropEndWhile p s = [] ↔ ∀ c ∈ s, p c = true := by
  rw [dropEndWhile, List.reverse_eq_nil_iff, dropWhile_eq_nil_iff]
  simp only [List.mem_reverse]

/-- Trimming leaves nothing exactly of a text that is blank throughout. -/
theorem trim_eq_nil_iff {s : List Char} : trim s = [] ↔ isBlankText s = true := by
  induction s with
  | nil => simp [trim, dropEndWhile, isBlankText]
  | cons c s ih =>
    by_cases h : isBlank c = true
    · simpa [trim, isBlankText, h] using ih
    · simp [trim, isBlankText, h, dropEndWhile_eq_nil_iff]

/-! ## Words -/

/-- A finished word in front of the words that follow it; nothing when the word
is empty. -/
def pushWord : List Char → List (List Char) → List (List Char)
  | [], rest => rest
  | word, rest => word :: rest

/-- One step of the division into words, from the right: the word that has been
begun and the words after it. -/
def wordStep (c : Char) : List Char × List (List Char) → List Char × List (List Char)
  | (word, rest) => if isBlank c then ([], pushWord word rest) else (c :: word, rest)

/-- The maximal runs of characters that are not blank, in order. -/
def words (s : List Char) : List (List Char) :=
  let (word, rest) := s.foldr wordStep ([], [])
  pushWord word rest

/-- Words joined by single spaces. -/
def unwords : List (List Char) → List Char
  | [] => []
  | [word] => word
  | word :: rest => word ++ ' ' :: unwords rest

/-- The text with every run of blanks replaced by one space and none at its
ends. -/
def collapse (s : List Char) : List Char := unwords (words s)

/-- The words after a leading blank are those of the rest. -/
theorem words_cons_of_isBlank {c : Char} (s : List Char) (h : isBlank c = true) :
    words (c :: s) = words s := by
  simp [words, wordStep, h, pushWord]

/-- A text that begins with a character that is not blank has a word. -/
theorem words_cons_ne_nil {c : Char} (s : List Char) (h : isBlank c = false) :
    words (c :: s) ≠ [] := by
  simp [words, wordStep, h, pushWord]

/-- A text has no words exactly when it is blank throughout. -/
theorem words_eq_nil_iff {s : List Char} : words s = [] ↔ isBlankText s = true := by
  induction s with
  | nil => simp [words, pushWord, isBlankText]
  | cons c s ih =>
    cases h : isBlank c with
    | true => simpa [words_cons_of_isBlank s h, isBlankText, h] using ih
    | false => simp [words_cons_ne_nil s h, isBlankText, h]

end Dialogue.Text
