/-!
# Gregorian dates

Days are counted from the first of January 1970, in the Gregorian calendar carried on in both
directions. Years are taken to start in March, so that a leap day ends its year. Models what is used
of `NaiveDate`.

* `daysOfDate`: the day number of a date.
* `dateOfDays`: the date of a day number.
* `Date.isValid`: the month has that day.
-/

namespace GridQuery

/-- A day of a year and month. -/
structure Date where
  year : Int
  month : Nat
  day : Nat
deriving DecidableEq

/-- The days of 400 years. -/
def cycleDays : Int := 146097

/-- From the first of March of year zero to the first of January 1970. -/
def epochShift : Int := 719468

/-- Every fourth year, but of the full centuries only every fourth. -/
def isLeapYear (year : Int) : Bool :=
  year % 4 = 0 && (year % 100 ≠ 0 || year % 400 = 0)

/-- The length of a month. -/
def monthLength (year : Int) (month : Nat) : Nat :=
  if month = 2 then (if isLeapYear year then 29 else 28)
  else if month = 4 ∨ month = 6 ∨ month = 9 ∨ month = 11 then 30
  else 31

/-- The month is one of twelve, and the day one of the month. -/
def Date.isValid (d : Date) : Bool :=
  1 ≤ d.month && d.month ≤ 12 && 1 ≤ d.day && d.day ≤ monthLength d.year d.month

/-- The day number of a date. -/
def daysOfDate (d : Date) : Int :=
  let year := if d.month ≤ 2 then d.year - 1 else d.year
  let monthFromMarch : Int := if d.month ≤ 2 then d.month + 9 else d.month - 3
  let dayOfYear := (153 * monthFromMarch + 2) / 5 + d.day - 1
  let yearOfCycle := year % 400
  let dayOfCycle := yearOfCycle * 365 + yearOfCycle / 4 - yearOfCycle / 100 + dayOfYear
  year / 400 * cycleDays + dayOfCycle - epochShift

/-- The date of a day number. -/
def dateOfDays (days : Int) : Date :=
  let shifted := days + epochShift
  let dayOfCycle := shifted % cycleDays
  let yearOfCycle :=
    (dayOfCycle - dayOfCycle / 1460 + dayOfCycle / 36524 - dayOfCycle / 146096) / 365
  let dayOfYear := dayOfCycle - (365 * yearOfCycle + yearOfCycle / 4 - yearOfCycle / 100)
  let monthFromMarch := (5 * dayOfYear + 2) / 153
  let day := dayOfYear - (153 * monthFromMarch + 2) / 5 + 1
  let month := if monthFromMarch < 10 then monthFromMarch + 3 else monthFromMarch - 9
  let year := yearOfCycle + shifted / cycleDays * 400
  ⟨if month ≤ 2 then year + 1 else year, month.toNat, day.toNat⟩

/-- The day of the week, Sunday being one. -/
def weekday (days : Int) : Nat := ((days + 4) % 7).toNat + 1

end GridQuery
