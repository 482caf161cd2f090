import Dialogue.Json.Number
import Dialogue.Json.Text

/-!
# Reading JSON

A JSON text is read from left to right by whoever knows which values to expect,
and the first thing that is wrong is reported.  Values that nobody asks for are
passed over.

Main results:

- `skipBlanks_cons`: what is not a blank stays.
-/

namespace Dialogue.Json

/-! ## Blanks and words -/

/-- Whether a character may stand between the parts of a JSON text. -/
def isJsonBlank (c : Char) : Bool := c == ' ' || c == '\n' || c == '\t' || c == '\r'

/-- The text without leading blanks. -/
def skipBlanks (s : List Char) : List Char := s.dropWhile isJsonBlank

/-- What is not a blank stays. -/
theorem skipBlanks_cons {c : Char} (s : List Char) (h : isJsonBlank c = false) :
    skipBlanks (c :: s) = c :: s := by
  simp [skipBlanks, List.dropWhile, h]

/-- What follows the rest of a word. -/
def readWord : List Char → List Char → Except Fault (List Char)
  | [], s => .ok s
  | _ :: _, [] => .error .endInValue
  | w :: word, c :: s => if c = w then readWord word s else .error .expectedWord

/-! ## Unexpected values -/

/-- The fault of a value that is not of the expected kind.  The text begins with
the value. -/
def unexpected (expected : String) (s : List Char) : Fault :=
  let found : Except Fault Found :=
    match s with
    | 'n' :: s => (readWord "ull".toList s).map fun _ => .null
    | 't' :: s => (readWord "rue".toList s).map fun _ => .boolean true
    | 'f' :: s => (readWord "alse".toList s).map fun _ => .boolean false
    | '-' :: s => readNumber true s
    | '"' :: s => (readText s).map fun (text, _) => .text text
    | '[' :: _ => .ok .list
    | '\x7b' :: _ => .ok .object
    | c :: _ => if c.isDigit then readNumber false s else .error .expectedValue
    | [] => .error .expectedValue
  match found with
  | .ok found => .wrongType found expected
  | .error fault => fault

/-- A text, after blanks, and what follows it. -/
def expectText (expected : String) (s : List Char) : Except Fault (String × List Char) :=
  match skipBlanks s with
  | [] => .error .endInValue
  | '"' :: s => readText s
  | s => .error (unexpected expected s)

/-! ## Lists and objects -/

/-- What follows the colon after a key. -/
def readColon (s : List Char) : Except Fault (List Char) :=
  match skipBlanks s with
  | [] => .error .endInObject
  | c :: s => if c = ':' then .ok s else .error .expectedColon

/-- The next key of an object and what follows it, or nothing at the end of the
object, whose brace stays. -/
def nextKey (isFirst : Bool) (s : List Char) : Except Fault (Option String × List Char) :=
  match skipBlanks s with
  | [] => .error .endInObject
  | '\x7d' :: s => .ok (none, '\x7d' :: s)
  | c :: s =>
    if isFirst then
      if c = '"' then (readText s).map fun (key, s) => (some key, s) else .error .invalidKey
    else if c = ',' then
      match skipBlanks s with
      | [] => .error .endInValue
      | '"' :: s => (readText s).map fun (key, s) => (some key, s)
      | '\x7d' :: _ => .error .trailingComma
      | _ => .error .invalidKey
    else .error .expectedObjectEnd

/-- What follows the end of an object. -/
def endObject (s : List Char) : Except Fault (List Char) :=
  match skipBlanks s with
  | [] => .error .endInObject
  | '\x7d' :: s => .ok s
  | ',' :: _ => .error .trailingComma
  | _ => .error .trailing

/-- Where the next element of a list begins, or nothing at the end of the list,
whose bracket stays. -/
def nextElement (isFirst : Bool) (s : List Char) : Except Fault (Bool × List Char) :=
  match skipBlanks s with
  | [] => .error .endInList
  | ']' :: s => .ok (false, ']' :: s)
  | c :: s =>
    if isFirst then .ok (true, c :: s)
    else if c = ',' then
      match skipBlanks s with
      | [] => .error .endInValue
      | ']' :: _ => .error .trailingComma
      | s => .ok (true, s)
    else .error .expectedListEnd

/-- What follows the end of a list. -/
def endList (s : List Char) : Except Fault (List Char) :=
  match skipBlanks s with
  | [] => .error .endInList
  | ']' :: s => .ok s
  | ',' :: s =>
    match skipBlanks s with
    | ']' :: _ => .error .trailingComma
    | _ => .error .trailing
  | _ => .error .trailing

/-- Reads the members of an object: `member` reads the value of a key, starting
after the key.  The fuel is at least the number of characters. -/
def readMembers {σ : Type} (member : σ → String → List Char → Except Fault (σ × List Char))
    (isFirst : Bool) (state : σ) : (fuel : Nat) → List Char → Except Fault (σ × List Char)
  | 0, _ => .error .endInObject
  | fuel + 1, s => do
    match ← nextKey isFirst s with
    | (none, s) => return (state, s)
    | (some key, s) =>
      let (state, s) ← member state key s
      readMembers member false state fuel s

/-! ## Passing over values -/

mutual

/-- What follows a value, after blanks.  The fuel is at least the number of
characters. -/
def skipWith : (fuel : Nat) → List Char → Except Fault (List Char)
  | 0, _ => .error .endInValue
  | fuel + 1, s =>
    match skipBlanks s with
    | [] => .error .endInValue
    | 'n' :: s => readWord "ull".toList s
    | 't' :: s => readWord "rue".toList s
    | 'f' :: s => readWord "alse".toList s
    | '-' :: s => skipNumber s
    | '"' :: s => skipText s
    | '[' :: s =>
      match skipBlanks s with
      | [] => .error .endInList
      | ']' :: s => .ok s
      | s => do skipElements fuel (← skipWith fuel s)
    | '\x7b' :: s =>
      match skipBlanks s with
      | [] => .error .endInObject
      | '\x7d' :: s => .ok s
      | s => do skipMembers fuel (← skipMember fuel s)
    | c :: s => if c.isDigit then skipNumber (c :: s) else .error .expectedValue

/-- What follows a list, after one of its elements. -/
def skipElements : (fuel : Nat) → List Char → Except Fault (List Char)
  | 0, _ => .error .endInList
  | fuel + 1, s =>
    match skipBlanks s with
    | [] => .error .endInList
    | ']' :: s => .ok s
    | ',' :: s => do skipElements fuel (← skipWith fuel s)
    | _ => .error .expectedListEnd

/-- What follows a member of an object. -/
def skipMember : (fuel : Nat) → List Char → Except Fault (List Char)
  | 0, _ => .error .endInObject
  | fuel + 1, s =>
    match skipBlanks s with
    | [] => .error .endInObject
    | '"' :: s => do
      let s ← skipText s
      let s ← readColon s
      skipWith fuel s
    | _ => .error .invalidKey

/-- What follows an object, after one of its members. -/
def skipMembers : (fuel : Nat) → List Char → Except Fault (List Char)
  | 0, _ => .error .endInObject
  | fuel + 1, s =>
    match skipBlanks s with
    | [] => .error .endInObject
    | '\x7d' :: s => .ok s
    | ',' :: s => do skipMembers fuel (← skipMember fuel s)
    | _ => .error .expectedObjectEnd

end

/-- What follows a value, after blanks. -/
def skipValue (s : List Char) : Except Fault (List Char) := skipWith (s.length + 1) s

end Dialogue.Json
