import Dialogue.Config.Value
import Dialogue.Config.Variable.Text
import Dialogue.Decimal.Digits
import Dialogue.Text.Blank

/-!
# Reading environment variables

The value of an environment variable is written in a small syntax of its own:
numbers, truth values, quoted texts, lists and tables; everything else is a text
as it stands.

Main results:

- `plainValue_of_not_mem`: without a point only integers are numbers.
-/

namespace Dialogue.Config.Variable

open Decimal (natural?)
open Text

/-! ## Plain values -/

/-- An integer that fits into 64 bits, with or without a sign bit. -/
def integer? (s : List Char) : Option Int :=
  match s with
  | '-' :: s => do
    let n ← natural? s
    if n ≤ 0x8000000000000000 then some (-n) else none
  | '+' :: s => do
    let n ← natural? s
    if n < 0x10000000000000000 then some n else none
  | s => do
    let n ← natural? s
    if n < 0x10000000000000000 then some n else none

/-- What follows a sign, if there is one. -/
def afterSign : List Char → List Char
  | '+' :: s => s
  | '-' :: s => s
  | s => s

/-- Whether a text is an exponent with its letter, or empty. -/
def isExponent (s : List Char) : Bool :=
  match s with
  | [] => true
  | c :: s =>
    let digits := afterSign s
    (c == 'e' || c == 'E') && !digits.isEmpty && digits.all Char.isDigit

/-- Whether a text is a number with a point, which has a digit before it or
after it. -/
def isPointed (s : List Char) : Bool :=
  let s := afterSign s
  match s.dropWhile Char.isDigit with
  | '.' :: fraction =>
    (s.head?.any Char.isDigit || fraction.head?.any Char.isDigit) &&
      isExponent (fraction.dropWhile Char.isDigit)
  | _ => false

/-- The value that is written without marks.  A number that is no integer needs a
point. -/
def plainValue (s : List Char) : Value :=
  if isPointed s then .number
  else
    match integer? s with
    | some n => .integer n
    | none => .text (String.ofList s)

/-- Without a point only integers are numbers. -/
theorem plainValue_of_not_mem {s : List Char} (h : '.' ∉ s) : plainValue s ≠ .number := by
  have hp : isPointed s = false := by
    unfold isPointed
    have hs : '.' ∉ afterSign s := by
      unfold afterSign
      split <;> simp_all
    simp only
    split
    · rename_i fraction hd
      exact absurd ((List.dropWhile_sublist _).subset (hd ▸ List.mem_cons_self)) hs
    · rfl
  unfold plainValue
  rw [hp]
  cases integer? s <;> simp

/-! ## Values -/

/-- Whether a character is a blank between the parts of a value. -/
def isValueBlank (c : Char) : Bool :=
  c == ' ' || c == '\t' || c == '\n' || c == '\r' || c == '\x0c'

/-- Whether a character may stand in a value without marks. -/
def isPlain (c : Char) : Bool :=
  c != ',' && c != '\x7b' && c != '\x7d' && c != '[' && c != ']'

/-- What follows blanks. -/
def skipValueBlanks (s : List Char) : List Char := s.dropWhile isValueBlank

/-- The name of an entry of a table, and what follows it. -/
def readName (s : List Char) : Except Fault (String × List Char) :=
  match s with
  | '"' :: s => do
    let (name, rest) ← readQuoted s
    return (String.ofList name, rest)
  | s =>
    let name := s.takeWhile Toml.isKeyCharacter
    if name.isEmpty then .error .malformed else .ok (String.ofList name, s.drop name.length)

mutual

/-- A value without the blanks around it, and what follows it.  A truth value ends
with its word, whatever follows.  The fuel is at least twice the number of
characters. -/
def readValue : (fuel : Nat) → List Char → Except Fault (Value × List Char)
  | 0, _ => .error .malformed
  | fuel + 1, s => do
    let (value, rest) ←
      match skipValueBlanks s with
      | 't' :: 'r' :: 'u' :: 'e' :: rest => pure (.boolean true, rest)
      | 'f' :: 'a' :: 'l' :: 's' :: 'e' :: rest => pure (.boolean false, rest)
      | '\x7b' :: s => do
        let (entries, rest) ← readEntries fuel s
        pure (.table entries, rest)
      | '[' :: s => do
        let (items, rest) ← readItems fuel s
        pure (.list items, rest)
      | '"' :: s => do
        let (text, rest) ← readQuoted s
        pure (.text (String.ofList text), rest)
      | '\'' :: c :: '\'' :: rest => pure (.text c.toString, rest)
      | '\'' :: _ => .error .malformed
      | s => pure (plainValue (trim (s.takeWhile isPlain)), s.dropWhile isPlain)
    return (value, skipValueBlanks rest)

/-- The items of a list up to its bracket, and what follows it. -/
def readItems : (fuel : Nat) → List Char → Except Fault (List Value × List Char)
  | 0, _ => .error .malformed
  | _ + 1, ']' :: rest => .ok ([], rest)
  | fuel + 1, s => do
    let (item, rest) ← readValue fuel s
    match rest with
    | ',' :: rest => do
      let (items, rest) ← readItems fuel rest
      return (item :: items, rest)
    | ']' :: rest => return ([item], rest)
    | _ => .error .malformed

/-- The entries of a table up to its brace, of which the last of a name counts,
and what follows it. -/
def readEntries : (fuel : Nat) → List Char → Except Fault (Entries × List Char)
  | 0, _ => .error .malformed
  | _ + 1, '\x7d' :: rest => .ok ([], rest)
  | fuel + 1, s => do
    let (name, rest) ← readName (skipValueBlanks s)
    match skipValueBlanks rest with
    | '=' :: rest => do
      let (value, rest) ← readValue fuel rest
      match rest with
      | ',' :: rest => do
        let (entries, rest) ← readEntries fuel rest
        return (if (entries.lookup name).isSome then entries else (name, value) :: entries, rest)
      | '\x7d' :: rest => return ([(name, value)], rest)
      | _ => .error .malformed
    | _ => .error .malformed

end

/-- The value that a text stands for: a text that is not well formed stands for
itself.  There is none if a character would have to be split. -/
def valueOfText? (text : String) : Option Value :=
  let s := text.toList
  match readValue (2 * s.length + 2) s with
  | .ok (value, []) => some value
  | .ok _ => some (.text text)
  | .error .malformed => some (.text text)
  | .error .splitCharacter => none

end Dialogue.Config.Variable
