import GridQuery.Calendar.Part
import GridQuery.Decode.Basic

/-!
# Group intervals

A group level may put several values of its field into one group: all numbers between two multiples
of a width, or all dates that share a calendar part. Models `GroupInterval`.

* `GroupInterval.isBucketed`: the interval is one of the two; an unusable one groups equal values.
-/

namespace GridQuery

/-- The interval of a group level as requested. -/
inductive GroupInterval where
  | numeric (width : Number)
  | named (name : String)
deriving DecidableEq

namespace GroupInterval

/-- The width, if it is greater than zero (`width`). -/
def width? : GroupInterval → Option Number
  | numeric n => if n.toBinary64.isPositive then some n else none
  | named _ => none

/-- The calendar part, if the name is one of a part (`date_part`). -/
def part? : GroupInterval → Option CalendarPart
  | numeric _ => none
  | named name => CalendarPart.ofName? name

/-- Keys are computed, and not values of the field itself (`is_bucketed`). -/
def isBucketed (interval : GroupInterval) : Bool :=
  interval.width?.isSome || interval.part?.isSome

def toJson : GroupInterval → Json
  | numeric n => .number n
  | named name => .string name

/-- A number or a name. -/
def ofJson? : Json → Option GroupInterval
  | .number n => some (numeric n)
  | .string name => some (named name)
  | _ => none

def decoder : Decoder GroupInterval := .firstOf "GroupInterval" [ofJson?]

end GroupInterval

end GridQuery
