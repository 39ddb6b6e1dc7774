import EventText.Number.Digits
import EventText.Time.Calendar

namespace EventText

-- A moment as it is written on a wall clock, with the distance of that clock from UTC in
-- seconds. In a leap second the second is 59 and the nanoseconds start at one thousand million.
structure Timestamp where
  year : Int
  month : Nat
  day : Nat
  hour : Nat
  minute : Nat
  second : Nat
  nanosecond : Nat
  offset : Int
deriving DecidableEq

namespace Timestamp

-- Seconds since 1970-01-01T00:00:00Z, the leap part of the second left out.
def instant (t : Timestamp) : Int :=
  Calendar.dayNumber t.year t.month t.day * 86400 + t.hour * 3600 + t.minute * 60 + t.second
    - t.offset

-- Two timestamps are the same moment whatever their offsets are.
def sameMoment (a b : Timestamp) : Bool :=
  a.instant == b.instant && a.nanosecond == b.nanosecond

def before (a b : Timestamp) : Bool :=
  a.instant < b.instant || (a.instant == b.instant && a.nanosecond < b.nanosecond)

-- The reading of a clock in another zone.
def atOffset (t : Timestamp) (offset : Int) : Timestamp :=
  let wall := t.instant + offset
  let (year, month, day) := Calendar.ofDayNumber (wall / 86400)
  let seconds := (wall % 86400).toNat
  { year, month, day
    hour := seconds / 3600
    minute := seconds / 60 % 60
    second := seconds % 60
    nanosecond := t.nanosecond
    offset }

def toUtc (t : Timestamp) : Timestamp := t.atOffset 0

def weekday (t : Timestamp) : Nat :=
  Calendar.weekday (Calendar.dayNumber t.year t.month t.day)

-- Years of four digits are written plainly, all others with their sign.
def yearText (year : Int) : List Char :=
  if 0 ≤ year ∧ year ≤ 9999 then natTextPadded 4 year.natAbs
  else (if year < 0 then '-' else '+') :: natTextPadded 4 year.natAbs

-- The hours and minutes that have passed in full.
def offsetText (offset : Int) : List Char :=
  (if offset < 0 then '-' else '+') :: natTextPadded 2 (offset.natAbs / 3600)
    ++ ':' :: natTextPadded 2 (offset.natAbs % 3600 / 60)

-- The hours and minutes of the nearest minute. Half a minute is rounded away from zero.
def nearestOffsetText (offset : Int) : List Char :=
  let minutes := (offset.natAbs + 30) / 60
  (if offset < 0 then '-' else '+') :: natTextPadded 2 (minutes / 60)
    ++ ':' :: natTextPadded 2 (minutes % 60)

-- Date, time and a fraction. A leap second is the second 60.
def clockText (t : Timestamp) : List Char :=
  yearText t.year ++ '-' :: natTextPadded 2 t.month ++ '-' :: natTextPadded 2 t.day
    ++ 'T' :: natTextPadded 2 t.hour ++ ':' :: natTextPadded 2 t.minute
    ++ ':' :: natTextPadded 2 (t.second + t.nanosecond / 1000000000)

-- The plain text form. The fraction counts units of 100 ns in seven digits, and what a leap
-- second has beyond one second makes it a digit longer.
def text (t : Timestamp) : List Char :=
  t.clockText ++ '.' :: natTextPadded 7 (t.nanosecond / 100) ++ nearestOffsetText t.offset

end Timestamp

end EventText
