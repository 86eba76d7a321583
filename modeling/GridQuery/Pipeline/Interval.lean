import GridQuery.Pipeline.Basic

/-!
# Calendar parts of dates

The stages that compute a calendar part of a date field into another field. The date is first moved
back by the offset of the time zone, given in minutes.

* `partStages`: one stage for each part; two for a quarter, which needs an intermediate field.
-/

namespace GridQuery.Pipeline

/-- The field for the intermediate value of a quarter that is a group key
    (`QUARTER_SCRATCH_FIELD`). -/
def quarterScratch : String := "___mp2"

/-- The operator of a part, applied to the moved date. -/
def extraction (source : String) (part : CalendarPart) (offset : Int64) : Json :=
  .single part.operator
    (.single "$subtract" (.array [reference source, .ofInt64 (offset * 60 * 1000)]))

/-- An operator applied to two operands. -/
def binary (operator : String) (a b : Json) : Json := .single operator (.array [a, b])

/-- Writes a part of the date in `source` to `target` (`date_part_stages`). The quarter is the third
    of the month plus two, without its remainder; the day of the week counts from Sunday as zero. -/
def partStages (target source : String) (part : CalendarPart) (offset : Int64) (scratch : String) :
    Pipeline :=
  let extracted := extraction source part offset
  match part with
  | .quarter =>
    let month := reference scratch
    [ addField scratch (binary "$add" extracted (constant 2)),
      addField target
        (binary "$divide"
          (binary "$subtract" month (binary "$mod" month (constant 3))) (constant 3)) ]
  | .dayOfWeek => [addField target (binary "$subtract" extracted (constant 1))]
  | _ => [addField target extracted]

end GridQuery.Pipeline
