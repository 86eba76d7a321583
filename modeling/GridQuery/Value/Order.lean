import GridQuery.Json.Printer
import GridQuery.Value.Date

/-!
# The order of values

Values of any kind can be compared: null first, then numbers, strings, objects, arrays, booleans and
dates. Numbers are compared as binary64, so that `1` and `1.0` are equal.

* `Json.compare`: the order of all values.
* `Json.compareAlike?`: the order of two values of one class, and nothing for two classes.
* `Json.isEqualTo`: equality up to this order.
* `Json.keyText`: the text by which values fall into groups.
-/

namespace GridQuery.Json

/-- The place of a value's class in the order (`type_rank`). -/
def rank (value : Json) : Nat :=
  if value.isDate then 6
  else
    match value with
    | null => 0
    | number _ => 1
    | string _ => 2
    | object _ => 3
    | array _ => 4
    | bool _ => 5

/-- The order of numbers as binary64. -/
def compareNumbers (a b : Number) : Ordering :=
  (a.toBinary64.compare? b.toBinary64).getD .eq

/-- The order of the instants of two dates. -/
def compareDates (a b : Json) : Ordering :=
  match a.instant?, b.instant? with
  | some x, some y => x.compare y
  | _, _ => .eq

mutual

/-- The order of values. Arrays are compared item by item and objects entry by entry, by key and
    then by value; of two that agree as far as both go, the shorter comes first. -/
def compare (a b : Json) : Ordering :=
  if a.rank = b.rank then
    if a.isDate then compareDates a b
    else
      match a, b with
      | number x, number y => compareNumbers x y
      | string x, string y => Ord.compare x y
      | bool x, bool y => Ord.compare x y
      | array x, array y => compareItems x y
      | object x, object y => compareEntries x y
      | _, _ => .eq
  else Ord.compare a.rank b.rank

/-- The order of arrays. -/
def compareItems : List Json → List Json → Ordering
  | [], [] => .eq
  | [], _ :: _ => .lt
  | _ :: _, [] => .gt
  | x :: a, y :: b => (compare x y).then (compareItems a b)

/-- The order of objects. -/
def compareEntries : List (String × Json) → List (String × Json) → Ordering
  | [], [] => .eq
  | [], _ :: _ => .lt
  | _ :: _, [] => .gt
  | (k, x) :: a, (l, y) :: b =>
    ((Ord.compare k l).then (compare x y)).then (compareEntries a b)

end

/-- The order of two values of one class (`compare_same_type`). -/
def compareAlike? (a b : Json) : Option Ordering :=
  if a.rank = b.rank then some (compare a b) else none

/-- Two values of one class that neither comes before the other (`values_equal`). -/
def isEqualTo (a b : Json) : Bool := compareAlike? a b = some .eq

/-- The text by which a value falls into a group: a date by its milliseconds, a number as binary64,
    everything else as it is written (`group_key`). -/
def keyText (value : Json) : String :=
  match value.instant? with
  | some x => "date:" ++ toString x.millis
  | none =>
    match value with
    | number n => (ofBinary64 n.toBinary64).text
    | other => other.text

end GridQuery.Json
