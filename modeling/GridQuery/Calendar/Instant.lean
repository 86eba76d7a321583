import GridQuery.Calendar.Date

/-!
# Instants

A point in time: seconds since the start of 1970 and nanoseconds. A leap second is the second before
it with a thousand million nanoseconds more. Models what is used of `DateTime`.

* `Instant.addMillis`: moved by milliseconds; `none` beyond the years that are supported.
* `Instant.millisSince`: the milliseconds between two instants, without the rest.
* `Instant.text`: date and time in universal time, to the millisecond.
-/

namespace GridQuery

/-- A point in time. -/
structure Instant where
  seconds : Int
  nanos : Nat
deriving DecidableEq

namespace Instant

/-- The nanoseconds of a second. -/
def second : Int := 1000000000

/-- The seconds of a day. -/
def day : Int := 86400

/-- The first second of the years that are supported. -/
def firstSecond : Int := daysOfDate ⟨-262143, 1, 1⟩ * day

/-- The last second of the years that are supported. -/
def lastSecond : Int := daysOfDate ⟨262142, 12, 31⟩ * day + (day - 1)

/-- An instant of the years that are supported. -/
def inRange? (x : Instant) : Option Instant :=
  if firstSecond ≤ x.seconds ∧ x.seconds ≤ lastSecond then some x else none

/-- Earlier instants come first; a leap second comes after the second that it extends. -/
def compare (x y : Instant) : Ordering :=
  (Ord.compare x.seconds y.seconds).then (Ord.compare x.nanos y.nanos)

/-- The instant so many milliseconds after the start of 1970 (`timestamp_millis_opt`). -/
def ofMillis? (millis : Int) : Option Instant :=
  inRange? ⟨millis / 1000, (millis % 1000 * 1000000).toNat⟩

/-- The last whole millisecond since the start of 1970. -/
def millis (x : Instant) : Int := x.seconds * 1000 + x.nanos / 1000000

/-! ## Arithmetic -/

/-- Seconds and nanoseconds with the nanoseconds brought below one second. -/
def carry (seconds nanos : Int) : Instant :=
  if nanos < 0 then ⟨seconds - 1, (nanos + second).toNat⟩
  else if second ≤ nanos then ⟨seconds + 1, (nanos - second).toNat⟩
  else ⟨seconds, nanos.toNat⟩

/-- Moves an instant. One within a leap second stays there if it is moved by less than what is left
    of it, and else counts as the ordinary second before or after. -/
def addMillis (x : Instant) (millis : Int) : Option Instant :=
  let seconds := millis.tdiv 1000
  let nanos := millis.tmod 1000 * 1000000
  inRange? <|
    if (x.nanos : Int) < second then carry (x.seconds + seconds) (x.nanos + nanos)
    else if 0 < seconds ∨ (0 < nanos ∧ 2 * second - nanos ≤ x.nanos) then
      carry (x.seconds + seconds) (x.nanos - second + nanos)
    else if seconds < 0 then carry (x.seconds + 1 + seconds) (x.nanos - second + nanos)
    else ⟨x.seconds, (x.nanos + nanos).toNat⟩

/-- The second of the day. -/
def secondOfDay (x : Instant) : Int := x.seconds % day

/-- The leap second that the distance between two times of day passes over. -/
def leapBetween (x y : Instant) : Int :=
  if y.secondOfDay < x.secondOfDay ∧ second ≤ y.nanos then 1
  else if x.secondOfDay < y.secondOfDay ∧ second ≤ x.nanos then -1
  else 0

/-- The milliseconds from `y` to `x`; what is left of a millisecond is dropped. -/
def millisSince (x y : Instant) : Int :=
  ((x.seconds - y.seconds + leapBetween x y) * second + (x.nanos - y.nanos : Int)).tdiv 1000000

/-! ## Parts -/

def days (x : Instant) : Int := x.seconds / day

def date (x : Instant) : Date := dateOfDays x.days

def hour (x : Instant) : Int := x.secondOfDay / 3600

def minute (x : Instant) : Int := x.secondOfDay / 60 % 60

/-- The second of the minute; a leap second counts as the one before it. -/
def secondOfMinute (x : Instant) : Int := x.secondOfDay % 60

/-! ## Text -/

/-- A number with at least so many digits. -/
def padded (width : Nat) (n : Nat) : List Char :=
  let digits := Nat.toDigits 10 n
  List.replicate (width - digits.length) '0' ++ digits

/-- A year of four digits; any other year has a sign. -/
def yearText (year : Int) : List Char :=
  if 0 ≤ year ∧ year ≤ 9999 then padded 4 year.toNat
  else (if year < 0 then '-' else '+') :: padded 4 year.natAbs

/-- Date and time to the millisecond (`to_rfc3339_opts`), what is left of it being dropped; a leap
    second is the second sixty. -/
def text (x : Instant) : String :=
  let leap : Int := if second ≤ x.nanos then 1 else 0
  let fraction := (x.nanos - leap * second).toNat / 1000000
  String.ofList <|
    yearText x.date.year ++ '-' :: padded 2 x.date.month ++ '-' :: padded 2 x.date.day ++
      'T' :: padded 2 x.hour.toNat ++ ':' :: padded 2 x.minute.toNat ++
      ':' :: padded 2 (x.secondOfMinute + leap).toNat ++ '.' :: padded 3 fraction ++ ['Z']

end Instant

end GridQuery
