import Dialogue.Markup.Error

/-!
# Entities

In texts and attribute values five characters can be written as named entities,
and every character as a numeric reference.  This module reads both and writes
the five named ones.

Main results:

- `byteLength_cons`: the bytes of a text are those of its characters.
- `unescape_eq_self`: a text without ampersands is read as it stands.
-/

namespace Dialogue.Markup

/-- The number of bytes of a text in UTF-8. -/
def byteLength (s : List Char) : Nat := s.foldl (fun n c => n + c.utf8Size) 0

/-- Bytes that have been counted before are added. -/
theorem foldl_utf8Size (s : List Char) (n : Nat) :
    s.foldl (fun n c => n + c.utf8Size) n = n + byteLength s := by
  unfold byteLength
  induction s generalizing n with
  | nil => rfl
  | cons c s ih =>
    rw [List.foldl_cons, List.foldl_cons, ih, ih (0 + c.utf8Size)]
    omega

/-- The bytes of a text are those of its first character and those of the rest. -/
theorem byteLength_cons (c : Char) (s : List Char) :
    byteLength (c :: s) = c.utf8Size + byteLength s := by
  rw [byteLength, List.foldl_cons, foldl_utf8Size, Nat.zero_add]

/-! ## The named entities -/

/-- The named entities and the characters that they stand for. -/
def namedEntities : List (String × Char) :=
  [("lt", '<'), ("gt", '>'), ("amp", '&'), ("apos", '\''), ("quot", '"')]

/-- A character as it is written in texts and attribute values. -/
def escapeChar (c : Char) : List Char :=
  match namedEntities.find? (·.2 == c) with
  | some (name, _) => '&' :: name.toList ++ [';']
  | none => [c]

/-- A text with its five special characters written as entities. -/
def escape (s : String) : String := String.ofList (s.toList.flatMap escapeChar)

/-! ## Numeric references -/

/-- The least number that is too large for a numeric reference. -/
def referenceBound : Nat := 0x100000000

/-- The value of a digit in a base up to sixteen. -/
def digitValue? (base : Nat) (c : Char) : Option Nat :=
  let value :=
    if '0' ≤ c ∧ c ≤ '9' then some (c.toNat - '0'.toNat)
    else if 'a' ≤ c ∧ c ≤ 'f' then some (c.toNat - 'a'.toNat + 10)
    else if 'A' ≤ c ∧ c ≤ 'F' then some (c.toNat - 'A'.toNat + 10)
    else none
  value.filter (· < base)

/-- The number that a list of digits continues, in a given base. -/
def digitsFrom (base : Nat) (number : Nat) : List Char → Except ReferenceFault Nat
  | [] => .ok number
  | c :: digits =>
    match digitValue? base c with
    | none => .error .invalidDigit
    | some value =>
      let next := number * base + value
      if next < referenceBound then digitsFrom base next digits else .error .tooLarge

/-- The number that is written without a sign in a given base. -/
def referenceNumber (base : Nat) (digits : List Char) : Except ReferenceFault Nat :=
  match digits with
  | [] => .error .empty
  | '+' :: _ => .error .sign
  | '-' :: _ => .error .sign
  | _ => digitsFrom base 0 digits

/-- The character with a given number. -/
def referencedChar (number : Nat) : Except ReferenceFault Char :=
  if number = 0 then .error .zero
  else if number.isValidChar then .ok (Char.ofNat number)
  else .error (.notCodePoint number)

/-- The character that a numeric reference stands for: `x` and hexadecimal
digits, or decimal digits. -/
def numericReference (text : List Char) : Except ReferenceFault Char :=
  match text with
  | 'x' :: digits => referenceNumber 16 digits >>= referencedChar
  | digits => referenceNumber 10 digits >>= referencedChar

/-! ## Reading -/

/-- The character that the text between `&` and `;` stands for; the text begins
at byte `position`. -/
def entityChar (position : Nat) (name : List Char) : Except EntityFault Char :=
  match name with
  | '#' :: digits => (numericReference digits).mapError .reference
  | _ =>
    match namedEntities.lookup (String.ofList name) with
    | some c => .ok c
    | none => .error (.unknown position (position + byteLength name) (String.ofList name))

/-- Whether a character can stand between the two ends of an entity. -/
def isEntityInner (c : Char) : Bool := c != '&' && c != ';'

/-- The rest of a text after the longest beginning of characters that satisfy
`p` is no longer than the text. -/
theorem length_dropWhile_le (p : Char → Bool) (s : List Char) :
    (s.dropWhile p).length ≤ s.length :=
  (List.dropWhile_suffix p).length_le

/-- Reads the entities of a text that begins at byte `position` of a text with
`total` bytes. -/
def unescapeFrom (position total : Nat) (s : List Char) : Except EntityFault (List Char) :=
  match s with
  | [] => .ok []
  | c :: rest =>
    if c = '&' then
      match h : rest.dropWhile isEntityInner with
      | ';' :: after => do
        let name := rest.takeWhile isEntityInner
        let character ← entityChar (position + 1) name
        let read ← unescapeFrom (position + byteLength name + 2) total after
        return character :: read
      | _ => .error (.unterminated position total)
    else do
      let read ← unescapeFrom (position + c.utf8Size) total rest
      return c :: read
termination_by s.length
decreasing_by
  · have := length_dropWhile_le isEntityInner rest
    simp only [h, List.length_cons] at this
    simp only [List.length_cons]
    omega
  · simp

/-- The text that is written with entities. -/
def unescape (s : List Char) : Except EntityFault (List Char) := unescapeFrom 0 (byteLength s) s

/-- A text without ampersands is read as it stands, wherever it begins. -/
theorem unescapeFrom_eq_self {s : List Char} (position total : Nat) (h : '&' ∉ s) :
    unescapeFrom position total s = .ok s := by
  induction s generalizing position with
  | nil => simp [unescapeFrom]
  | cons c s ih =>
    have hc : c ≠ '&' := fun hc => h (hc ▸ List.mem_cons_self)
    have hs : '&' ∉ s := fun hs => h (List.mem_cons_of_mem c hs)
    rw [unescapeFrom]
    simp only [hc, if_false, ih _ hs]
    rfl

/-- A text without ampersands is read as it stands. -/
theorem unescape_eq_self {s : List Char} (h : '&' ∉ s) : unescape s = .ok s :=
  unescapeFrom_eq_self 0 _ h

end Dialogue.Markup
