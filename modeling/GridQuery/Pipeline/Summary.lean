import GridQuery.Pipeline.Basic

/-!
# Summaries

One reduction computes all requested summaries: a `$group` of all documents, with an accumulator for
each kind and field. All counts share one.

* `summaryStages`: the reduction.
* `summaryValues`: the requested values, read from its result.
-/

namespace GridQuery

namespace Summary

/-- The name of the accumulator; `none` for a kind that yields nothing (`accumulator_name`). -/
def accumulatorName? (s : Summary) : Option String :=
  match s.kind with
  | .sum => some ("_sum_" ++ s.selector)
  | .avg => some ("_avg_" ++ s.selector)
  | .min => some ("_min_" ++ s.selector)
  | .max => some ("_max_" ++ s.selector)
  | .count => some "_count"
  | .other => none

/-- The accumulator; `none` for a kind that yields nothing. -/
def accumulator? (s : Summary) : Option Json :=
  let value := Pipeline.reference s.selector
  match s.kind with
  | .sum => some (.single "$sum" value)
  | .avg => some (.single "$avg" value)
  | .min => some (.single "$min" value)
  | .max => some (.single "$max" value)
  | .count => some (.single "$sum" (Pipeline.constant 1))
  | .other => none

/-- The accumulator under its name. -/
def entry? (s : Summary) : Option (String × Json) := do
  let name ← s.accumulatorName?
  let accumulator ← s.accumulator?
  return (name, accumulator)

end Summary

namespace Pipeline

/-- The reduction; nothing when nothing is requested (`summary_stages`). -/
def summaryStages (summaries : List Summary) : Pipeline :=
  if summaries.isEmpty then []
  else
    [.single "$group"
      (.object (Entries.ofList (("_id", .null) :: summaries.filterMap Summary.entry?)))]

/-- The values of the requested summaries in their order; what the result does not have is null
    (`summary_values`). -/
def summaryValues (summaries : List Summary) (result : Option Json) : List Json :=
  (summaries.filterMap Summary.accumulatorName?).map fun name =>
    (result.bind (Json.get? · name)).getD .null

end Pipeline

end GridQuery
