import Bestiary.Number.Arithmetic
/-!
# Moments

A moment is a date of the Gregorian calendar and a time of day down to the microsecond, with or without
its distance from universal time. Counted from the start of 1970, moments of universal time are seconds;
counts too large to be seconds are milliseconds.
-/
namespace Bestiary

open Number (Double)

/-- Whether a year has a leap day. -/
def isLeapYear (year : Nat) : Bool := year % 4 == 0 && (year % 100 != 0 || year % 400 == 0)

/-- The number of days of a month. -/
def daysInMonth (year month : Nat) : Nat :=
  if month = 2 then (if isLeapYear year then 29 else 28)
  else if month = 4 ∨ month = 6 ∨ month = 9 ∨ month = 11 then 30
  else 31

/-- A date and a time of day. -/
structure Moment.Reading where
  year : Nat
  month : Nat
  /-- The day of the month, from one. -/
  day : Nat
  hour : Nat
  minute : Nat
  second : Nat
  micro : Nat
  /-- Minutes ahead of universal time, if known. -/
  offset : Option Int
  deriving DecidableEq, Repr

namespace Moment.Reading

/-- Whether there is such a date and such a time. -/
def exists? (r : Moment.Reading) : Bool :=
  decide (1 ≤ r.year) && decide (r.year ≤ 9999) && decide (1 ≤ r.month) && decide (r.month ≤ 12) &&
    decide (1 ≤ r.day) && decide (r.day ≤ daysInMonth r.year r.month) && decide (r.hour < 24) &&
    decide (r.minute < 60) && decide (r.second < 60) && decide (r.micro < 1000000) &&
    r.offset.all fun m => decide (m.natAbs < 1440)

end Moment.Reading

/-- A date and a time of day that exist. -/
structure Moment where
  reading : Moment.Reading
  real : reading.exists? = true
  deriving DecidableEq, Repr

namespace Moment

/-- The moment of a date and a time, if they exist. -/
def ofReading? (r : Reading) : Option Moment := if h : r.exists? = true then some ⟨r, h⟩ else none

@[simp] theorem ofReading?_reading (m : Moment) : ofReading? m.reading = some m := by
  simp [ofReading?, m.real]

/-- Year, month and day of a day counted from the first of March of the year zero. -/
def civil (days : Nat) : Nat × Nat × Nat :=
  let era := days / 146097
  let dayOfEra := days % 146097
  let yearOfEra := (dayOfEra - dayOfEra / 1460 + dayOfEra / 36524 - dayOfEra / 146096) / 365
  let dayOfYear := dayOfEra - (365 * yearOfEra + yearOfEra / 4 - yearOfEra / 100)
  let shifted := (5 * dayOfYear + 2) / 153
  let day := dayOfYear - (153 * shifted + 2) / 5 + 1
  let month := if shifted < 10 then shifted + 3 else shifted - 9
  (era * 400 + yearOfEra + (if month ≤ 2 then 1 else 0), month, day)

/-- The first second of the year 1600, counted from the start of 1970. -/
def firstSecond : Int := -11676096000

/-- The last second of the year 9999. -/
def lastSecond : Int := 253402300799

/-- The moment of universal time so many seconds and microseconds after the start of 1970. -/
def ofSeconds? (seconds : Int) (micro : Nat) : Option Moment :=
  if firstSecond ≤ seconds ∧ seconds ≤ lastSecond then
    -- 719468 days lie between the first of March of the year zero and the start of 1970.
    let (year, month, day) := civil (seconds / 86400 + 719468).toNat
    let time := (seconds % 86400).toNat
    ofReading? ⟨year, month, day, time / 3600, time / 60 % 60, time % 60, micro, some 0⟩
  else none

/-- Counts beyond this are milliseconds. -/
def greatestSeconds : Nat := 20000000000

/-- Whether an integer fits into 64 bits with its sign. -/
def fitsWord (n : Int) : Bool := -(Nat.pow 2 63) ≤ n && n < Nat.pow 2 63

/-- The moment of a count of seconds or milliseconds, with so many microseconds more. -/
def ofCount? (count : Int) (micro : Nat) : Option Moment :=
  if greatestSeconds < count.natAbs then
    let total := (count % 1000).toNat * 1000 + micro
    ofSeconds? (count / 1000 + (total / 1000000 : Nat)) (total % 1000000)
  else ofSeconds? (count + (micro / 1000000 : Nat)) (micro % 1000000)

/-- The moment of a count that is a double: the whole part counts, and the distance from the integer on the
side of zero is added in microseconds. -/
def ofDouble? (x : Double) : Option Moment := do
  let (num, den) ← x.fraction?
  let below := num.fdiv den
  let rest := Double.ofRatio false (num.natAbs % den) den
  let micro ← ((rest.mul (Double.ofInt 1000000)).fraction?)
  if fitsWord below then ofCount? below ((2 * micro.1 + micro.2) / (2 * micro.2)).toNat else none

end Moment

end Bestiary
