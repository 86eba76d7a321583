import GridQuery.Calendar.Instant

/-!
# Timestamps

Date and time as text with an offset from universal time, such as `2024-03-01T12:00:00.5+05:30`.
Seconds must be given; the letters may be of either case, and a space may stand for the first one.
Digits of the fraction after the ninth are dropped. The second sixty is a leap second.

* `Instant.ofText?`: the instant of a timestamp.
-/

namespace GridQuery.Timestamp

/-- A decimal digit. -/
def digit? (c : Char) : Option Nat :=
  if c.isDigit then some (c.toNat - 48) else none

/-- A number of two digits. -/
def twoDigits : List Char → Option (Nat × List Char)
  | a :: b :: rest => do
    let tens ← digit? a
    let ones ← digit? b
    return (tens * 10 + ones, rest)
  | _ => none

/-- A number of four digits. -/
def fourDigits (text : List Char) : Option (Nat × List Char) := do
  let (high, text) ← twoDigits text
  let (low, text) ← twoDigits text
  return (high * 100 + low, text)

/-- One of the given characters. -/
def expect (allowed : List Char) : List Char → Option (List Char)
  | c :: rest => if c ∈ allowed then some rest else none
  | [] => none

/-- The nanoseconds of a fraction from its digits, of which the first counts `unit`. -/
def nanosOfDigits : (unit : Nat) → List Nat → Nat
  | _, [] => 0
  | unit, d :: rest => d * unit + nanosOfDigits (unit / 10) rest

/-- A fraction, if a point follows; it has at least one digit. -/
def fraction : List Char → Option (Nat × List Char)
  | '.' :: rest =>
    let digits := rest.takeWhile Char.isDigit
    if digits.isEmpty then none
    else some (nanosOfDigits 100000000 (digits.filterMap digit?), rest.dropWhile Char.isDigit)
  | text => some (0, text)

/-- An offset in seconds: Z, or a sign, hours below 24 and minutes. The sign may be the minus sign
    of typography. -/
def offset : List Char → Option (Int × List Char)
  | [] => none
  | c :: rest => do
    if c = 'Z' ∨ c = 'z' then some (0, rest)
    else
      let sign : Int ←
        if c = '+' then some 1 else if c = '-' ∨ c.toNat = 0x2212 then some (-1) else none
      let (hours, rest) ← twoDigits rest
      let rest ← expect [':'] rest
      let (minutes, rest) ← twoDigits rest
      if hours < 24 ∧ minutes < 60 then some (sign * (hours * 3600 + minutes * 60), rest) else none

end Timestamp

/-- The instant of a timestamp (`parse_from_rfc3339`). -/
def Instant.ofText? (text : String) : Option Instant := do
  let (year, text) ← Timestamp.fourDigits text.toList
  let text ← Timestamp.expect ['-'] text
  let (month, text) ← Timestamp.twoDigits text
  let text ← Timestamp.expect ['-'] text
  let (day, text) ← Timestamp.twoDigits text
  let text ← Timestamp.expect ['T', 't', ' '] text
  let (hour, text) ← Timestamp.twoDigits text
  let text ← Timestamp.expect [':'] text
  let (minute, text) ← Timestamp.twoDigits text
  let text ← Timestamp.expect [':'] text
  let (second, text) ← Timestamp.twoDigits text
  let (nanos, text) ← Timestamp.fraction text
  let (offset, text) ← Timestamp.offset text
  let date : Date := ⟨year, month, day⟩
  if date.isValid && hour < 24 && minute < 60 && second ≤ 60 && text.isEmpty then
    let leap := if second = 60 then 1 else 0
    let seconds : Int := hour * 3600 + minute * 60 + (second - leap : Nat)
    return ⟨daysOfDate date * Instant.day + seconds - offset, nanos + leap * 1000000000⟩
  else none

end GridQuery
