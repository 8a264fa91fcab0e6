/-!
# Instants of the local clock

An instant is a count of seconds since midnight of 1 January 1970, as the clock on the wall shows
them, and the nanoseconds on top.  A leap second is the second before it with 10⁹ nanoseconds or
more.  Hour, minute and weekday follow from the seconds by division; the date is worked out on the
calendar that repeats every 400 years.
-/
namespace ValidatorAlarm

structure Instant where
  seconds : Int
  nanoseconds : Nat
deriving DecidableEq, Repr

inductive Weekday where
  | monday | tuesday | wednesday | thursday | friday | saturday | sunday
deriving DecidableEq, Repr

namespace Weekday

/-- The days of a week, from Monday. -/
def all : List Weekday := [.monday, .tuesday, .wednesday, .thursday, .friday, .saturday, .sunday]

/-- The day so many days after Monday. -/
def ofIndex (n : Nat) : Weekday := all.getD (n % 7) .monday

def name : Weekday → String
  | .monday => "monday"
  | .tuesday => "tuesday"
  | .wednesday => "wednesday"
  | .thursday => "thursday"
  | .friday => "friday"
  | .saturday => "saturday"
  | .sunday => "sunday"

def short : Weekday → String
  | .monday => "Mon"
  | .tuesday => "Tue"
  | .wednesday => "Wed"
  | .thursday => "Thu"
  | .friday => "Fri"
  | .saturday => "Sat"
  | .sunday => "Sun"

end Weekday

/-- A date of the calendar; months and days count from one. -/
structure CalendarDate where
  year : Int
  month : Nat
  day : Nat
deriving DecidableEq, Repr

namespace CalendarDate

/-- The day, counted from 1 January 1970.  The year is taken to begin in March, so that the day
added in a leap year is its last. -/
def dayNumber (d : CalendarDate) : Int :=
  let year := if d.month ≤ 2 then d.year - 1 else d.year
  let era := Int.fdiv year 400
  let yearOfEra := year - era * 400
  let month := if d.month > 2 then d.month - 3 else d.month + 9
  let dayOfYear : Int := (153 * month + 2) / 5 + d.day - 1
  let dayOfEra := yearOfEra * 365 + yearOfEra / 4 - yearOfEra / 100 + dayOfYear
  era * 146097 + dayOfEra - 719468

/-- The date of a day that is counted from 1 January 1970. -/
def ofDayNumber (n : Int) : CalendarDate :=
  let shifted := n + 719468
  let era := Int.fdiv shifted 146097
  let dayOfEra := (shifted - era * 146097).toNat
  let yearOfEra := (dayOfEra - dayOfEra / 1460 + dayOfEra / 36524 - dayOfEra / 146096) / 365
  let dayOfYear := dayOfEra - (365 * yearOfEra + yearOfEra / 4 - yearOfEra / 100)
  let month := (5 * dayOfYear + 2) / 153
  let day := dayOfYear - (153 * month + 2) / 5 + 1
  let month := if month < 10 then month + 3 else month - 9
  let year := (yearOfEra : Int) + era * 400
  ⟨if month ≤ 2 then year + 1 else year, month, day⟩

end CalendarDate

namespace Instant

def dayLength : Int := 86400

/-- The instant of a date and a time of day. -/
def ofDate (d : CalendarDate) (hour minute second nanoseconds : Nat) : Instant :=
  ⟨d.dayNumber * dayLength + hour * 3600 + minute * 60 + second, nanoseconds⟩

/-- The day, counted from 1 January 1970. -/
def day (i : Instant) : Int := Int.fdiv i.seconds dayLength

def secondOfDay (i : Instant) : Nat := (Int.fmod i.seconds dayLength).toNat

def hour (i : Instant) : Nat := i.secondOfDay / 3600

def minute (i : Instant) : Nat := i.secondOfDay / 60 % 60

/-- 1 January 1970 was a Thursday. -/
def weekday (i : Instant) : Weekday := .ofIndex (Int.fmod (i.day + 3) 7).toNat

/-- A second has so many nanoseconds. -/
def nanosPerSecond : Nat := 1000000000

/-- A later instant.  Whoever leaves a leap second counts on from the second that it lengthens. -/
def later (i : Instant) (nanoseconds : Nat) : Instant :=
  if i.nanoseconds ≥ nanosPerSecond && i.nanoseconds + nanoseconds < 2 * nanosPerSecond then
    ⟨i.seconds, i.nanoseconds + nanoseconds⟩
  else
    let start := i.nanoseconds % nanosPerSecond
    ⟨i.seconds + ((start + nanoseconds) / nanosPerSecond : Nat), (start + nanoseconds) % nanosPerSecond⟩

def twoDigits (n : Nat) : String :=
  String.ofList (if n < 10 then '0' :: Nat.toDigits 10 n else Nat.toDigits 10 n)

/-- A year in at least four digits, with a sign before the common era and after the year 9999. -/
def yearText (year : Int) : String :=
  let digits := Nat.toDigits 10 year.natAbs
  let padded := List.replicate (4 - digits.length) '0' ++ digits
  String.ofList (if year < 0 then '-' :: padded else if year > 9999 then '+' :: padded else padded)

/-- The second as the clock shows it: a leap second is second 60. -/
def shownSecond (i : Instant) : Nat :=
  i.secondOfDay % 60 + (if i.nanoseconds ≥ nanosPerSecond then 1 else 0)

/-- Time of day, the parts divided by colons. -/
def timeText (i : Instant) : String :=
  twoDigits i.hour ++ ":" ++ twoDigits i.minute ++ ":" ++ twoDigits i.shownSecond

/-- Year, month and day, then the time. -/
def sortableText (i : Instant) : String :=
  let d := CalendarDate.ofDayNumber i.day
  yearText d.year ++ "-" ++ twoDigits d.month ++ "-" ++ twoDigits d.day ++ "T" ++ i.timeText

/-- Month, day and year, then the time. -/
def text (i : Instant) : String :=
  let d := CalendarDate.ofDayNumber i.day
  twoDigits d.month ++ "-" ++ twoDigits d.day ++ "-" ++ yearText d.year ++ " " ++ i.timeText

end Instant

end ValidatorAlarm
