import Dialogue.Json.Fault
import Dialogue.Markup.Entity

/-!
# Texts in JSON

A text stands between quotation marks; quotation marks, backslashes and control
characters in it are escaped.  What is read may escape any character, those
beyond the sixteen-bit range as a pair of surrogates.
-/

namespace Dialogue.Json

/-! ## Writing -/

/-- The escapes with a letter of their own that are written. -/
def letterEscapes : List (Char × Char) :=
  [('"', '"'), ('\\', '\\'), ('\x08', 'b'), ('\x0c', 'f'), ('\n', 'n'), ('\r', 'r'), ('\t', 't')]

/-- The hexadecimal digit of a value below sixteen. -/
def hexDigit (n : Nat) : Char := Nat.digitChar n

/-- A character as it is written in a text. -/
def writeChar (c : Char) : List Char :=
  match letterEscapes.lookup c with
  | some letter => ['\\', letter]
  | none =>
    if c.toNat < 0x20 then
      ['\\', 'u', '0', '0', hexDigit (c.toNat / 16), hexDigit (c.toNat % 16)]
    else [c]

/-- A text with its quotation marks. -/
def writeText (s : String) : List Char := '"' :: s.toList.flatMap writeChar ++ ['"']

/-! ## Reading -/

/-- The escapes of one letter that are read. -/
def readEscapes : List (Char × Char) :=
  [('"', '"'), ('\\', '\\'), ('/', '/'), ('b', '\x08'), ('f', '\x0c'), ('n', '\n'), ('r', '\r'),
    ('t', '\t')]

/-- The value of four hexadecimal digits. -/
def hexValue? (digits : List Char) : Option Nat :=
  digits.foldlM (fun n c => (Markup.digitValue? 16 c).map (n * 16 + ·)) 0

/-- The value of the four hexadecimal digits at the beginning of a text. -/
def readHex (s : List Char) : Except Fault (Nat × List Char) :=
  match s with
  | a :: b :: c :: d :: rest =>
    match hexValue? [a, b, c, d] with
    | some n => .ok (n, rest)
    | none => .error .invalidEscape
  | _ => .error (if 4 ≤ Markup.byteLength s then .invalidEscape else .endInText)

/-- The character of an escape by number, after its first four digits, which have
the value `n`. -/
def readSurrogate (n : Nat) (s : List Char) : Except Fault (Char × List Char) :=
  if 0xDC00 ≤ n ∧ n ≤ 0xDFFF then .error .loneSurrogate
  else if n < 0xD800 ∨ 0xDBFF < n then .ok (Char.ofNat n, s)
  else
    match s with
    | [] => .error .endInText
    | '\\' :: s =>
      match s with
      | [] => .error .endInText
      | 'u' :: s => do
        let (low, rest) ← readHex s
        if 0xDC00 ≤ low ∧ low ≤ 0xDFFF then
          return (Char.ofNat ((n - 0xD800) * 0x400 + (low - 0xDC00) + 0x10000), rest)
        else .error .loneSurrogate
      | _ => .error .endOfSurrogate
    | _ => .error .endOfSurrogate

/-- The character of an escape, after its backslash. -/
def readEscape (s : List Char) : Except Fault (Char × List Char) :=
  match s with
  | [] => .error .endInText
  | 'u' :: s => do
    let (n, s) ← readHex s
    readSurrogate n s
  | c :: s =>
    match readEscapes.lookup c with
    | some meaning => .ok (meaning, s)
    | none => .error .invalidEscape

/-- The rest of a text and what follows it, when `seen` has been read of it
(backwards).  The fuel is at least the number of characters. -/
def readRest (seen : List Char) : (fuel : Nat) → List Char → Except Fault (List Char × List Char)
  | 0, _ => .error .endInText
  | _ + 1, [] => .error .endInText
  | fuel + 1, c :: s =>
    if c = '"' then .ok (seen.reverse, s)
    else if c = '\\' then do
      let (character, rest) ← readEscape s
      readRest (character :: seen) fuel rest
    else if c.toNat < 0x20 then .error .controlCharacter
    else readRest (c :: seen) fuel s

/-- A text after its first quotation mark, and what follows it. -/
def readText (s : List Char) : Except Fault (String × List Char) := do
  let (text, rest) ← readRest [] (s.length + 1) s
  return (String.ofList text, rest)

/-! ## Passing over -/

/-- What follows an escape, after its backslash. -/
def skipEscape (s : List Char) : Except Fault (List Char) :=
  match s with
  | [] => .error .endInText
  | 'u' :: s => (readHex s).map (·.2)
  | c :: s =>
    match readEscapes.lookup c with
    | some _ => .ok s
    | none => .error .invalidEscape

/-- What follows a text, after its first quotation mark.  The fuel is at least
the number of characters. -/
def skipRest : (fuel : Nat) → List Char → Except Fault (List Char)
  | 0, _ => .error .endInText
  | _ + 1, [] => .error .endInText
  | fuel + 1, c :: s =>
    if c = '"' then .ok s
    else if c = '\\' then do skipRest fuel (← skipEscape s)
    else if c.toNat < 0x20 then .error .controlCharacter
    else skipRest fuel s

/-- What follows a text, after its first quotation mark. -/
def skipText (s : List Char) : Except Fault (List Char) := skipRest (s.length + 1) s

end Dialogue.Json
