import GridQuery.Calendar.Timestamp
import GridQuery.Json.Basic

/-!
# Dates as values

A date is an object whose only entry is `$date`, with a text or with the milliseconds since the
start of 1970.

* `Json.instant?`: the instant that a value stands for.
* `Json.ofInstant`: the value of an instant, in text form.
-/

namespace GridQuery.Json

/-- The instant that the content of a date stands for. -/
def dateContent? : Json → Option Instant
  | string text => Instant.ofText? text
  | number n => n.toInt64?.bind fun millis => Instant.ofMillis? millis.toInt
  | _ => none

/-- The instant that a value stands for, if it is a date (`as_date`). -/
def instant? : Json → Option Instant
  | object [(key, content)] => if key = "$date" then dateContent? content else none
  | _ => none

def isDate (value : Json) : Bool := value.instant?.isSome

/-- The date of an instant, to the millisecond (`date_value`). -/
def ofInstant (x : Instant) : Json := single "$date" (string x.text)

end GridQuery.Json
