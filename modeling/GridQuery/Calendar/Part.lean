/-!
# Calendar parts

The parts of a date that a group level or a filter can ask for, with the names clients use.

* `CalendarPart.ofName?`: every part by its name.
* `CalendarPart.ofSuffix?`: the parts that can follow a field name in a filter.
-/

namespace GridQuery

/-- A part of a date (`DateInterval`). -/
inductive CalendarPart where
  | year
  | quarter
  | month
  | day
  | dayOfWeek
  | hour
  | minute
  | second
deriving DecidableEq

namespace CalendarPart

/-- All parts, from the coarsest on. -/
def all : List CalendarPart := [year, quarter, month, day, dayOfWeek, hour, minute, second]

def name : CalendarPart → String
  | year => "year"
  | quarter => "quarter"
  | month => "month"
  | day => "day"
  | dayOfWeek => "dayOfWeek"
  | hour => "hour"
  | minute => "minute"
  | second => "second"

/-- The part of a name; case matters (`DateInterval::parse`). -/
def ofName? (name : String) : Option CalendarPart :=
  all.find? fun part => part.name = name

/-- The parts of a day within a date; the parts of a time of day are not addressed in filters. -/
def isDatePart : CalendarPart → Bool
  | hour | minute | second => false
  | _ => true

/-- The part a field suffix names (`from_field_suffix`). -/
def ofSuffix? (suffix : String) : Option CalendarPart :=
  (ofName? suffix).filter isDatePart

/-- The operator that extracts the part; a quarter starts from the month
    (`DateInterval::operator`). -/
def operator : CalendarPart → String
  | year => "$year"
  | quarter | month => "$month"
  | day => "$dayOfMonth"
  | dayOfWeek => "$dayOfWeek"
  | hour => "$hour"
  | minute => "$minute"
  | second => "$second"

theorem ofName?_name (part : CalendarPart) : ofName? part.name = some part := by
  cases part <;> decide

end CalendarPart

end GridQuery
