import Dialogue.Decimal.Digits
import Dialogue.Instant.Basic
import Dialogue.Markup.Entity
import Dialogue.Text.Blank

/-!
# Instants as texts

Instants are written as in `2024-01-02T03:04:05.678Z`: the fraction has none,
three, six or nine digits, as few as are needed, and years outside of four
digits have a sign.  What is read may be looser: blanks between the parts, a
space in place of the `T`, and any offset from universal time.

Main results:

- `shownSecond_of_leap`: a leap second is written as second sixty.
-/

namespace Dialogue.Instant

open Decimal (ofDigits padded)
open Text

/-! ## Writing -/

/-- A year; one that does not have four digits has a sign. -/
def writeYear (year : Int) : String :=
  if 0 ≤ year ∧ year ≤ 9999 then padded 4 year.toNat
  else (if year < 0 then "-" else "+") ++ padded 4 year.natAbs

/-- A fraction of a second, in as few groups of three digits as it needs. -/
def writeFraction (nano : Nat) : String :=
  if nano = 0 then ""
  else if nano % 1000000 = 0 then "." ++ padded 3 (nano / 1000000)
  else if nano % 1000 = 0 then "." ++ padded 6 (nano / 1000)
  else "." ++ padded 9 nano

/-- The second of the minute, which is sixty in a leap second. -/
def shownSecond (t : Instant) : Nat := t.second % 60 + t.nano / nanosPerSecond

/-- An instant in universal time. -/
def write (t : Instant) : String :=
  writeYear t.date.year ++ "-" ++ padded 2 t.date.month ++ "-" ++ padded 2 t.date.day ++ "T" ++
    padded 2 (t.second / 3600) ++ ":" ++ padded 2 (t.second / 60 % 60) ++ ":" ++
    padded 2 t.shownSecond ++ writeFraction (t.nano % nanosPerSecond) ++ "Z"

/-- A leap second is written as second sixty. -/
theorem shownSecond_of_leap {t : Instant} (h : nanosPerSecond ≤ t.nano) : t.shownSecond = 60 := by
  have ht := t.isTime
  simp only [Dialogue.isTime, Bool.and_eq_true, Bool.or_eq_true, decide_eq_true_eq,
    beq_iff_eq] at ht
  unfold shownSecond
  unfold nanosPerSecond at *
  omega

/-! ## Reading -/

/-- Why a text is not an instant. -/
inductive Fault where
  | tooShort
  | invalid
  | outOfRange
  | trailing
  | impossible
  deriving DecidableEq, Repr

/-- The wording of the reason why a text is not an instant. -/
def Fault.message : Fault → String
  | tooShort => "premature end of input"
  | invalid => "input contains invalid characters"
  | outOfRange => "input is out of range"
  | trailing => "trailing input"
  | impossible => "no possible date and time matching input"

/-- Leading digits, at most `width` of them if there is a width, and the rest. -/
def readDigits (width : Option Nat) (s : List Char) : Except Fault (List Char × List Char) :=
  let all := s.takeWhile Char.isDigit
  let digits := match width with
    | some width => all.take width
    | none => all
  if s.isEmpty then .error .tooShort
  else if digits.isEmpty then .error .invalid
  else .ok (digits, s.drop digits.length)

/-- A number of at most two digits between two bounds, which may follow
blanks. -/
def readField (least greatest : Nat) (s : List Char) : Except Fault (Nat × List Char) := do
  let (digits, rest) ← readDigits (some 2) (s.dropWhile isBlank)
  let n := ofDigits digits
  if least ≤ n ∧ n ≤ greatest then return (n, rest) else .error .outOfRange

/-- A character that may follow blanks. -/
def readMark (mark : Char) (s : List Char) : Except Fault (List Char) :=
  match s.dropWhile isBlank with
  | [] => .error .tooShort
  | c :: rest => if c = mark then .ok rest else .error .invalid

/-- A year: four digits at most, or a sign and any number of digits. -/
def readYear (s : List Char) : Except Fault (Int × List Char) := do
  let s := s.dropWhile isBlank
  let (year, rest) ← match s with
    | '-' :: s => do
      let (digits, rest) ← readDigits none s
      pure (-(ofDigits digits : Int), rest)
    | '+' :: s => do
      let (digits, rest) ← readDigits none s
      pure ((ofDigits digits : Int), rest)
    | s => do
      let (digits, rest) ← readDigits (some 4) s
      pure ((ofDigits digits : Int), rest)
  if -0x80000000 ≤ year ∧ year < 0x80000000 then return (year, rest) else .error .outOfRange

/-- A fraction of a second in nanoseconds; digits after the ninth are passed
over. -/
def readFraction (s : List Char) : Except Fault (Nat × List Char) :=
  match s with
  | '.' :: s => do
    let (digits, rest) ← readDigits (some 9) s
    return (ofDigits digits * Nat.pow 10 (9 - digits.length), rest.dropWhile Char.isDigit)
  | s => .ok (0, s)

/-- Two digits of an offset. -/
def readPair (s : List Char) : Except Fault (Nat × Nat × List Char) :=
  match s with
  | a :: b :: rest =>
    if a.isDigit ∧ b.isDigit then .ok (a.toNat - '0'.toNat, b.toNat - '0'.toNat, rest)
    else .error .invalid
  | s => .error (if Markup.byteLength s < 2 then .tooShort else .invalid)

/-- The hours and minutes of an offset, in seconds. -/
def readHoursMinutes (s : List Char) : Except Fault (Nat × List Char) := do
  let (h1, h2, rest) ← readPair s
  let (m1, m2, rest) ← readPair (rest.dropWhile fun c => c == ':' || isBlank c)
  if m1 < 6 then return ((h1 * 10 + h2) * 3600 + (m1 * 10 + m2) * 60, rest)
  else .error .outOfRange

/-- An offset from universal time in seconds. -/
def readOffset (s : List Char) : Except Fault (Int × List Char) :=
  match s with
  | [] => .error .tooShort
  | c :: rest =>
    if (s.take 3).map Char.toUpper = "UTC".toList then .ok (0, s.drop 3)
    else if c = 'Z' ∨ c = 'z' then .ok (0, rest)
    else if c = '+' then do
      let (seconds, rest) ← readHoursMinutes rest
      return ((seconds : Int), rest)
    else if c = '-' ∨ c = '−' then do
      let (seconds, rest) ← readHoursMinutes rest
      return (-(seconds : Int), rest)
    else .error .invalid

/-- What stands between a day and a time. -/
def readSeparator (s : List Char) : Except Fault (List Char) :=
  match s with
  | [] => .error .tooShort
  | c :: rest => if c = 'T' ∨ c = 't' ∨ c = ' ' then .ok rest else .error .invalid

/-- The instant of a day, a time and an offset that have been read. -/
def ofRead (year : Int) (month day hour minute second nano : Nat) (offset : Int) :
    Except Fault Instant :=
  match Date.ofFields? year month day with
  | none => .error .outOfRange
  | some date =>
    let shown := hour * 3600 + minute * 60 + min second 59
    let nano := nano + (if second = 60 then nanosPerSecond else 0)
    if offset.natAbs < secondsPerDay then
      match ofLocal? date shown nano offset with
      | some t => .ok t
      | none => .error .impossible
    else .error .outOfRange

/-- Reads an instant. -/
def readChars (s : List Char) : Except Fault Instant := do
  let (year, s) ← readYear s
  let s ← readMark '-' s
  let (month, s) ← readField 1 12 s
  let s ← readMark '-' s
  let (day, s) ← readField 1 31 s
  let s ← readSeparator s
  let (hour, s) ← readField 0 23 s
  let s ← readMark ':' s
  let (minute, s) ← readField 0 59 s
  let s ← readMark ':' s
  let (second, s) ← readField 0 60 s
  let (nano, s) ← readFraction s
  let (offset, s) ← readOffset (s.dropWhile isBlank)
  if isBlankText s then ofRead year month day hour minute second nano offset
  else .error .trailing

/-- Reads an instant. -/
def read (text : String) : Except Fault Instant := readChars text.toList

end Dialogue.Instant
