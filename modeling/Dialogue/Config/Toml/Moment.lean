import Dialogue.Config.Toml.Text
import Dialogue.Config.Value
import Dialogue.Decimal.Digits
import Dialogue.Instant.Basic

/-!
# Dates and times in configuration files

A moment is a date, a time of day, or both, and then perhaps with an offset from
universal time.  As a value it is a table with a single entry, which holds the
moment as a text: with a `T` before the time, a capital `Z`, and as few digits of
a fraction as are needed, nine at most.

Main results:

- `readNano_lt`: a fraction of a second that is read is less than a second.
-/

namespace Dialogue.Config.Toml

open Decimal (padded)

/-! ## Moments -/

/-- A time of day, whose second can be the sixtieth. -/
structure ClockTime where
  hour : Nat
  minute : Nat
  second : Nat
  nano : Nat
  deriving DecidableEq, Repr

/-- An offset from universal time. -/
inductive Offset where
  /-- The time is universal time. -/
  | universal
  /-- The clock is ahead of universal time by a number of minutes. -/
  | minutes (ahead : Int)
  deriving DecidableEq, Repr

/-- A date or a time or both. -/
inductive Moment where
  | day (date : Date)
  | clock (time : ClockTime)
  | both (date : Date) (time : ClockTime) (offset : Option Offset)
  deriving DecidableEq, Repr

/-! ## Writing -/

/-- A date as it is written; its year has four digits. -/
def writeDate (date : Date) : String :=
  padded 4 date.year.toNat ++ "-" ++ padded 2 date.month ++ "-" ++ padded 2 date.day

/-- Hours and minutes as they are written. -/
def writeMinutes (hour minute : Nat) : String := padded 2 hour ++ ":" ++ padded 2 minute

/-- A time of day as it is written. -/
def ClockTime.write (time : ClockTime) : String :=
  writeMinutes time.hour time.minute ++ ":" ++ padded 2 time.second ++ Decimal.fraction 9 time.nano

/-- An offset as it is written. -/
def Offset.write : Offset → String
  | universal => "Z"
  | minutes ahead =>
    (if ahead < 0 then "-" else "+") ++ writeMinutes (ahead.natAbs / 60) (ahead.natAbs % 60)

/-- A moment as it is written. -/
def Moment.write : Moment → String
  | day date => writeDate date
  | clock time => time.write
  | both date time offset =>
    writeDate date ++ "T" ++ time.write ++ ((offset.map Offset.write).getD "")

/-- The name of the entry that holds a moment. -/
def momentKey : String := "$__toml_private_datetime"

/-- A moment as a value. -/
def Moment.toValue (moment : Moment) : Value := .table [(momentKey, .text moment.write)]

/-! ## Reading -/

/-- A number of exactly `width` digits up to a bound, and what follows it. -/
def readFixed (width greatest : Nat) (s : List Char) : Option (Nat × List Char) :=
  let digits := s.take width
  let n := Decimal.ofDigits digits
  if digits.length = width ∧ digits.all Char.isDigit ∧ n ≤ greatest then
    some (n, s.drop width)
  else none

/-- A fraction of a second in nanoseconds, if there is one, and what follows it;
digits after the ninth do not count. -/
def readNano (s : List Char) : Nat × List Char :=
  match s with
  | '.' :: rest =>
    let digits := (rest.takeWhile Char.isDigit).take 9
    if digits.isEmpty then (0, s)
    else (Decimal.ofDigits digits * Nat.pow 10 (9 - digits.length), rest.dropWhile Char.isDigit)
  | s => (0, s)

/-- A fraction of a second that is read is less than a second. -/
theorem readNano_lt (s : List Char) : (readNano s).1 < nanosPerSecond := by
  unfold readNano
  split
  · rename_i rest
    have hall : ((rest.takeWhile Char.isDigit).take 9).all Char.isDigit := by
      simp only [List.all_eq_true]
      intro c hc
      exact List.all_eq_true.1 List.all_takeWhile c (List.mem_of_mem_take hc)
    have hlen : ((rest.takeWhile Char.isDigit).take 9).length ≤ 9 := by
      simp only [List.length_take]
      omega
    generalize (rest.takeWhile Char.isDigit).take 9 = digits at *
    simp only
    split
    · exact Nat.zero_lt_succ _
    · have hlt := Decimal.ofDigits_lt hall
      have hpow : Nat.pow 10 digits.length * Nat.pow 10 (9 - digits.length) = nanosPerSecond := by
        refine (Nat.pow_add 10 digits.length (9 - digits.length)).symm.trans ?_
        rw [Nat.add_sub_cancel' hlen]
        rfl
      rw [← hpow]
      exact Nat.mul_lt_mul_of_pos_right hlt (Nat.pow_pos (by decide))
  · exact Nat.zero_lt_succ _

/-- Hours and minutes, and what follows them. -/
def readMinutes (s : List Char) : Option (Nat × Nat × List Char) := do
  let (hour, s) ← readFixed 2 23 s
  let s ← afterChar ':' s
  let (minute, s) ← readFixed 2 59 s
  return (hour, minute, s)

/-- A time of day, and what follows it. -/
def ClockTime.read (s : List Char) : Option (ClockTime × List Char) := do
  let (hour, minute, s) ← readMinutes s
  let s ← afterChar ':' s
  let (second, s) ← readFixed 2 60 s
  let (nano, s) := readNano s
  return (⟨hour, minute, second, nano⟩, s)

/-- An offset from universal time, and what follows it; nothing if there is
none. -/
def Offset.read (s : List Char) : Option (Offset × List Char) :=
  match s with
  | c :: rest =>
    if c = 'Z' ∨ c = 'z' then some (universal, rest)
    else if c = '+' ∨ c = '-' then do
      let (hour, minute, rest) ← readMinutes rest
      let ahead : Int := hour * 60 + minute
      return (minutes (if c = '-' then -ahead else ahead), rest)
    else none
  | [] => none

/-- A date, and what follows it. -/
def readDate (s : List Char) : Option (Date × List Char) := do
  let (year, s) ← readFixed 4 9999 s
  let s ← afterChar '-' s
  let (month, s) ← readFixed 2 12 s
  let s ← afterChar '-' s
  let (day, s) ← readFixed 2 31 s
  return (← Date.ofFields? year month day, s)

/-- The moment of a date after which the time may follow, and what follows it. -/
def Moment.ofDate (date : Date) (s : List Char) : Moment × List Char :=
  match s with
  | c :: rest =>
    if c = 'T' ∨ c = 't' ∨ c = ' ' then
      match ClockTime.read rest with
      | some (time, rest) =>
        match Offset.read rest with
        | some (offset, rest) => (both date time (some offset), rest)
        | none => (both date time none, rest)
      | none => (day date, s)
    else (day date, s)
  | [] => (day date, s)

/-- Whether a moment begins here: four digits and a hyphen, or two digits and a
colon. -/
def Moment.begins (s : List Char) : Bool :=
  match (s.takeWhile Char.isDigit).length, s.dropWhile Char.isDigit with
  | 4, '-' :: _ => true
  | 2, ':' :: _ => true
  | _, _ => false

/-- A moment, and what follows it. -/
def Moment.read (s : List Char) : Option (Moment × List Char) :=
  match readDate s with
  | some (date, rest) => some (ofDate date rest)
  | none => (ClockTime.read s).map fun (time, rest) => (clock time, rest)

end Dialogue.Config.Toml
