namespace EventText.Calendar

-- The proleptic Gregorian calendar. Year zero exists and is a leap year.
def isLeap (year : Int) : Bool := year % 4 == 0 && (year % 100 != 0 || year % 400 == 0)

def monthLength (year : Int) (month : Nat) : Nat :=
  match month with
  | 2 => if isLeap year then 29 else 28
  | 4 | 6 | 9 | 11 => 30
  | _ => 31

def isDate (year : Int) (month day : Nat) : Bool :=
  1 ≤ month && month ≤ 12 && 1 ≤ day && day ≤ monthLength year month

-- Days since 1970-01-01. Years are counted from March, so that the leap day ends its year.
def dayNumber (year : Int) (month day : Nat) : Int :=
  let marchYear := if month ≤ 2 then year - 1 else year
  let marchMonth : Int := (month + 9) % 12
  let dayOfYear := (153 * marchMonth + 2) / 5 + day - 1
  365 * marchYear + marchYear / 4 - marchYear / 100 + marchYear / 400 + dayOfYear - 719468

-- Year, month and day of a day number, by whole eras of four hundred years.
def ofDayNumber (number : Int) : Int × Nat × Nat :=
  let shifted := number + 719468
  let era := shifted / 146097
  let dayOfEra := shifted % 146097
  let yearOfEra := (dayOfEra - dayOfEra / 1460 + dayOfEra / 36524 - dayOfEra / 146096) / 365
  let dayOfYear := dayOfEra - (365 * yearOfEra + yearOfEra / 4 - yearOfEra / 100)
  let marchMonth := (5 * dayOfYear + 2) / 153
  let day := dayOfYear - (153 * marchMonth + 2) / 5 + 1
  let month := if marchMonth < 10 then marchMonth + 3 else marchMonth - 9
  let year := yearOfEra + era * 400
  (if month ≤ 2 then year + 1 else year, month.toNat, day.toNat)

-- Zero is Sunday. The first of January 1970 was a Thursday.
def weekday (number : Int) : Nat := ((number + 4) % 7).toNat

end EventText.Calendar
