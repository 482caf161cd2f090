import Dialogue.Markup.Entity

/-!
# Texts and keys in configuration files

A text stands between quotation marks, in which backslashes begin escapes, or
between apostrophes, in which every character stands for itself.  Three marks
instead of one allow line breaks inside.

Main results:

- `length_of_readKey`: a key has a bounded number of parts.
-/

namespace Dialogue.Config.Toml

/-! ## Characters -/

/-- Whether a character is a blank inside a line. -/
def isLineBlank (c : Char) : Bool := c == ' ' || c == '\t'

/-- Whether a character may stand in comments and texts: no control character
apart from the tab. -/
def isShown (c : Char) : Bool := c == '\t' || (0x20 ≤ c.toNat && c.toNat ≠ 0x7F)

/-- Whether a character may stand in a key without quotation marks. -/
def isKeyCharacter (c : Char) : Bool := c.isAlphanum || c == '_' || c == '-'

/-- What follows a character. -/
def afterChar (c : Char) (s : List Char) : Option (List Char) :=
  match s with
  | d :: s => if d = c then some s else none
  | [] => none

/-- What follows the line break at the beginning of a text, if there is one. -/
def afterBreak? : List Char → Option (List Char)
  | '\n' :: s => some s
  | '\r' :: '\n' :: s => some s
  | _ => none

/-! ## Escapes -/

/-- The escapes of one letter. -/
def escapes : List (Char × Char) :=
  [('b', '\x08'), ('t', '\t'), ('n', '\n'), ('f', '\x0c'), ('r', '\r'), ('"', '"'), ('\\', '\\')]

/-- The character with a number that is written in hexadecimal digits. -/
def character? (digits : List Char) : Option Char := do
  let n ← digits.foldlM (fun n c => (Markup.digitValue? 16 c).map (n * 16 + ·)) 0
  if n.isValidChar then some (Char.ofNat n) else none

/-- The character whose number is written in the first `width` characters. -/
def readCharacter (width : Nat) (s : List Char) : Option (Char × List Char) :=
  if (s.take width).length = width then
    (character? (s.take width)).map fun c => (c, s.drop width)
  else none

/-- The character of an escape, after its backslash. -/
def readEscape : List Char → Option (Char × List Char)
  | 'u' :: s => readCharacter 4 s
  | 'U' :: s => readCharacter 8 s
  | c :: s => (escapes.lookup c).map fun meaning => (meaning, s)
  | [] => none

/-! ## Texts on one line -/

/-- The rest of a text in quotation marks and what follows it, when `seen` has
been read of it (backwards).  The fuel is at least the number of characters. -/
def readBasic (seen : List Char) : (fuel : Nat) → List Char → Option (List Char × List Char)
  | 0, _ => none
  | _ + 1, [] => none
  | fuel + 1, c :: s =>
    if c = '"' then some (seen.reverse, s)
    else if c = '\\' then do
      let (character, rest) ← readEscape s
      readBasic (character :: seen) fuel rest
    else if isShown c then readBasic (c :: seen) fuel s
    else none

/-- The rest of a text in apostrophes and what follows it. -/
def readLiteral : List Char → Option (List Char × List Char)
  | [] => none
  | c :: s =>
    if c = '\'' then some ([], s)
    else if isShown c then (readLiteral s).map fun (text, rest) => (c :: text, rest)
    else none

/-! ## Texts on several lines -/

/-- What the marks at the beginning of `s` mean in a text that ends with three of
them: up to two belong to the text, and up to two may stand before the end. -/
inductive Marks where
  | inside (count : Nat) (rest : List Char)
  | last (count : Nat) (rest : List Char)
  | tooMany

/-- The meaning of the marks at the beginning of a text. -/
def Marks.of (mark : Char) (s : List Char) : Marks :=
  let count := (s.takeWhile (· == mark)).length
  if count ≤ 2 then inside count (s.drop count)
  else if count ≤ 5 then last (count - 3) (s.drop count)
  else tooMany

/-- What follows blanks and line breaks. -/
def skipBreaks : List Char → List Char
  | '\r' :: '\n' :: s => skipBreaks s
  | c :: s => if isLineBlank c || c == '\n' then skipBreaks s else c :: s
  | [] => []

/-- What follows a backslash at the end of a line: the rest after all blanks and
line breaks; nothing if the line goes on. -/
def afterContinuation? (s : List Char) : Option (List Char) :=
  (afterBreak? (s.dropWhile isLineBlank)).map skipBreaks

/-- The rest of a text on several lines and what follows it, when `seen` has been
read of it (backwards).  Backslashes count if there are escapes.  The fuel is at
least the number of characters. -/
def readLines (mark : Char) (hasEscapes : Bool) (seen : List Char) :
    (fuel : Nat) → List Char → Option (List Char × List Char)
  | 0, _ => none
  | _ + 1, [] => none
  | fuel + 1, c :: s =>
    if c = mark then
      match Marks.of mark (c :: s) with
      | .inside count rest =>
        readLines mark hasEscapes (List.replicate count mark ++ seen) fuel rest
      | .last count rest => some (seen.reverse ++ List.replicate count mark, rest)
      | .tooMany => none
    else if hasEscapes ∧ c = '\\' then
      match afterContinuation? s with
      | some rest => readLines mark hasEscapes seen fuel rest
      | none => do
        let (character, rest) ← readEscape s
        readLines mark hasEscapes (character :: seen) fuel rest
    else
      match afterBreak? (c :: s) with
      | some rest => readLines mark hasEscapes ('\n' :: seen) fuel rest
      | none => if isShown c then readLines mark hasEscapes (c :: seen) fuel s else none

/-! ## Values and keys -/

/-- A text on several lines, whose first line break does not count. -/
def readBlock (mark : Char) (hasEscapes : Bool) (s : List Char) : Option (List Char × List Char) :=
  let s := (afterBreak? s).getD s
  readLines mark hasEscapes [] (s.length + 1) s

/-- A text with its marks, and what follows it. -/
def readText (s : List Char) : Option (String × List Char) :=
  let text :=
    match s with
    | '"' :: '"' :: '"' :: s => readBlock '"' true s
    | '\'' :: '\'' :: '\'' :: s => readBlock '\'' false s
    | '"' :: s => readBasic [] (s.length + 1) s
    | '\'' :: s => readLiteral s
    | _ => none
  text.map fun (text, rest) => (String.ofList text, rest)

/-- A key without dots, and what follows it. -/
def readSimpleKey (s : List Char) : Option (String × List Char) :=
  match s with
  | '"' :: s => (readBasic [] (s.length + 1) s).map fun (key, rest) => (String.ofList key, rest)
  | '\'' :: s => (readLiteral s).map fun (key, rest) => (String.ofList key, rest)
  | s =>
    let key := s.takeWhile isKeyCharacter
    if key.isEmpty then none else some (String.ofList key, s.drop key.length)

/-- The parts of a key with dots, blanks around them, and what follows it.  The
fuel is at least the number of characters. -/
def readKeyParts : (fuel : Nat) → List Char → Option (List String × List Char)
  | 0, _ => none
  | fuel + 1, s => do
    let (part, rest) ← readSimpleKey (s.dropWhile isLineBlank)
    match rest.dropWhile isLineBlank with
    | '.' :: rest => do
      let (parts, rest) ← readKeyParts fuel rest
      return (part :: parts, rest)
    | rest => return ([part], rest)

/-- What is nested must be less deep than this, and a key must have fewer parts. -/
def depthBound : Nat := 80

/-- A key with dots: the parts before the last one, the last one, and what
follows it. -/
def readKey (s : List Char) : Option (List String × String × List Char) := do
  let (parts, rest) ← readKeyParts (s.length + 1) s
  if parts.length < depthBound then return (parts.dropLast, ← parts.getLast?, rest) else none

/-- A key that is read has fewer parts before its last one than the bound. -/
theorem length_of_readKey {s : List Char} {path : List String} {key : String}
    {rest : List Char} (h : readKey s = some (path, key, rest)) : path.length < depthBound := by
  unfold readKey at h
  cases hp : readKeyParts (s.length + 1) s with
  | none => simp [hp] at h
  | some read =>
    obtain ⟨parts, after⟩ := read
    simp only [hp, Option.bind_eq_bind, Option.bind_some] at h
    split at h
    · rename_i hlt
      cases hl : parts.getLast? with
      | none => simp [hl] at h
      | some last =>
        simp only [hl, Option.bind_some, Option.pure_def, Option.some.injEq, Prod.mk.injEq] at h
        rw [← h.1, List.length_dropLast]
        exact Nat.lt_of_le_of_lt (Nat.sub_le _ _) hlt
    · simp at h

end Dialogue.Config.Toml
