import Dialogue.Instant.Basic

/-!
# Instants by number

Clocks count the seconds since the beginning of 1970.  Days are counted from the
first of March of a year that begins a cycle of four hundred years, so that the
leap day is the last day of its year.
-/

namespace Dialogue

/-- The number of days of four hundred years. -/
def daysPerCycle : Nat := 146097

/-- The number of days from the first of March of the year zero to the beginning of
1970. -/
def daysBefore1970 : Nat := 719468

/-- The day that comes a number of days after the first day of 1970. -/
def Date.ofEpochDay? (days : Int) : Option Date :=
  let count := days + daysBefore1970
  let day := (count % daysPerCycle).toNat
  let year := (day - day / 1460 + day / 36524 - day / 146096) / 365
  let dayOfYear := day - (365 * year + year / 4 - year / 100)
  let month := (5 * dayOfYear + 2) / 153
  let dayOfMonth := dayOfYear - (153 * month + 2) / 5 + 1
  let start : Int := year + 400 * (count / daysPerCycle)
  if month < 10 then ofFields? start (month + 3) dayOfMonth
  else ofFields? (start + 1) (month - 9) dayOfMonth

/-- The instant that comes a number of nanoseconds after the beginning of 1970. -/
def Instant.ofEpoch? (nanos : Int) : Option Instant := do
  let seconds := nanos / nanosPerSecond
  let date ← Date.ofEpochDay? (seconds / secondsPerDay)
  ofFields? date (seconds % secondsPerDay).toNat (nanos % nanosPerSecond).toNat

end Dialogue
