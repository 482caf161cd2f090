/-!
# Instants

A point of time is a calendar day and a time of that day, in coordinated
universal time.  A leap second is the second sixty of its minute: it is kept as
second fifty-nine with a fraction of a second or more.

Main results:

- `Date.ofFields?_fields`: every day is found again from its year, month and
  day.
-/

namespace Dialogue

/-! ## Days -/

/-- Whether a year has a twenty-ninth of February. -/
def isLeapYear (year : Int) : Bool := year % 4 == 0 && (year % 100 != 0 || year % 400 == 0)

/-- The number of days of a month. -/
def daysInMonth (year : Int) (month : Nat) : Nat :=
  if month = 2 then (if isLeapYear year then 29 else 28)
  else if month = 4 ∨ month = 6 ∨ month = 9 ∨ month = 11 then 30
  else 31

/-- The first year of the calendar. -/
def minYear : Int := -262143

/-- The last year of the calendar. -/
def maxYear : Int := 262142

/-- Whether a year, a month and a day name a day of the calendar. -/
def isDate (year : Int) (month day : Nat) : Bool :=
  minYear ≤ year && year ≤ maxYear && 1 ≤ month && month ≤ 12 &&
    1 ≤ day && day ≤ daysInMonth year month

/-- A day of the calendar. -/
structure Date where
  year : Int
  month : Nat
  day : Nat
  isDate : isDate year month day = true
  deriving DecidableEq, Repr

namespace Date

/-- The day with a given year, month and day of the month. -/
def ofFields? (year : Int) (month day : Nat) : Option Date :=
  if h : Dialogue.isDate year month day = true then some ⟨year, month, day, h⟩ else none

/-- The day after a day, up to the last day of the calendar. -/
def next? (d : Date) : Option Date :=
  if d.day < daysInMonth d.year d.month then ofFields? d.year d.month (d.day + 1)
  else if d.month < 12 then ofFields? d.year (d.month + 1) 1
  else ofFields? (d.year + 1) 1 1

/-- The day before a day, down to the first day of the calendar. -/
def previous? (d : Date) : Option Date :=
  if 1 < d.day then ofFields? d.year d.month (d.day - 1)
  else if 1 < d.month then ofFields? d.year (d.month - 1) (daysInMonth d.year (d.month - 1))
  else ofFields? (d.year - 1) 12 31

/-- Every day is found again from its year, month and day. -/
@[simp] theorem ofFields?_fields (d : Date) : ofFields? d.year d.month d.day = some d := by
  simp [ofFields?, d.isDate]

end Date

/-! ## Times -/

/-- The number of seconds of a day. -/
def secondsPerDay : Nat := 86400

/-- The number of nanoseconds of a second. -/
def nanosPerSecond : Nat := 1000000000

/-- Whether a second of a day and a number of nanoseconds are a time: only the
last second of a minute can be followed by a leap second. -/
def isTime (second nano : Nat) : Bool :=
  second < secondsPerDay &&
    (nano < nanosPerSecond || (second % 60 == 59 && nano < 2 * nanosPerSecond))

/-- A point of time in coordinated universal time. -/
structure Instant where
  date : Date
  /-- The second of the day. -/
  second : Nat
  /-- The nanoseconds since the second began; a second or more in a leap
  second. -/
  nano : Nat
  isTime : isTime second nano = true
  deriving DecidableEq, Repr

namespace Instant

/-- The instant at a day and a time. -/
def ofFields? (date : Date) (second nano : Nat) : Option Instant :=
  if h : Dialogue.isTime second nano = true then some ⟨date, second, nano, h⟩ else none

/-- The instant at which clocks that are `offset` seconds ahead of universal time
show a day and a time; `offset` is less than a day. -/
def ofLocal? (date : Date) (second nano : Nat) (offset : Int) : Option Instant :=
  let universal : Int := second - offset
  if universal < 0 then do
    ofFields? (← date.previous?) (universal + secondsPerDay).toNat nano
  else if secondsPerDay ≤ universal then do
    ofFields? (← date.next?) (universal - secondsPerDay).toNat nano
  else ofFields? date universal.toNat nano

end Instant

end Dialogue
