import Mathlib
import GridQuery.Proofs.Groups

/-!
# Accumulators take in one document after the other

What an accumulator makes of the documents of a group can be had in one go through them: from a start
it takes in the value of each document, and at the end it gives a value. Sums and means take in the
numbers, the least and the greatest keep the best value so far, and a list grows at its end.

Results:
* `Gathered.finish_foldl`: what an accumulator makes of values is what it has gathered at the end.
* `Accumulator.over_eq_gather`: the same for the values of documents.
-/

namespace GridQuery

/-! ## Values one after the other -/

/-- What an accumulator has gathered so far. -/
inductive Gathered where
  | sum (total : Binary64)
  | avg (total : Binary64) (count : Nat)
  | min (least : Option Json)
  | max (greatest : Option Json)
  | push (values : List Json)

/-- The better one of the best value so far and one more; nulls do not count, and of values that are
    level the first stays. -/
def betterOf (wanted : Ordering) (best : Option Json) (value : Json) : Option Json :=
  if value.isNull then best
  else
    match best with
    | none => some value
    | some b => if value.compare b = wanted then some value else some b

namespace Gathered

/-- What an accumulator has before the first document. -/
def start : AccumulatorKind → Gathered
  | .sum => sum .zero
  | .avg => avg .zero 0
  | .min => min none
  | .max => max none
  | .push => push []

/-- Takes in one more value. -/
def add : Gathered → Json → Gathered
  | sum total, value =>
    match value.binary64? with
    | some x => sum (total.add x)
    | none => sum total
  | avg total count, value =>
    match value.binary64? with
    | some x => avg (total.add x) (count + 1)
    | none => avg total count
  | min least, value => min (betterOf .lt least value)
  | max greatest, value => max (betterOf .gt greatest value)
  | push values, value => push (values ++ [value])

/-- What the values gathered become. -/
def finish : Gathered → Json
  | sum total => .ofBinary64 total
  | avg total count => if count = 0 then .null else .ofBinary64 (total.div (.ofInt count))
  | min best | max best => best.getD .null
  | push values => .array values

theorem foldl_sum (total : Binary64) (values : List Json) :
    values.foldl add (sum total) = sum ((numbersOf values).foldl Binary64.add total) := by
  induction values generalizing total with
  | nil => rfl
  | cons value values ih =>
    rw [List.foldl_cons, add, numbersOf, List.filterMap_cons]
    cases value.binary64? with
    | none => exact ih total
    | some x => exact ih (total.add x)

theorem foldl_avg (total : Binary64) (count : Nat) (values : List Json) :
    values.foldl add (avg total count) =
      avg ((numbersOf values).foldl Binary64.add total) (count + (numbersOf values).length) := by
  induction values generalizing total count with
  | nil => rfl
  | cons value values ih =>
    rw [List.foldl_cons, add, numbersOf, List.filterMap_cons]
    cases value.binary64? with
    | none => exact ih total count
    | some x =>
      refine (ih (total.add x) (count + 1)).trans ?_
      rw [List.length_cons, Nat.succ_add_eq_add_succ]
      rfl

theorem foldl_min (least : Option Json) (values : List Json) :
    values.foldl add (min least) = min (values.foldl (betterOf .lt) least) := by
  induction values generalizing least with
  | nil => rfl
  | cons value values ih => exact ih (betterOf .lt least value)

theorem foldl_max (greatest : Option Json) (values : List Json) :
    values.foldl add (max greatest) = max (values.foldl (betterOf .gt) greatest) := by
  induction values generalizing greatest with
  | nil => rfl
  | cons value values ih => exact ih (betterOf .gt greatest value)

theorem foldl_push (taken values : List Json) :
    values.foldl add (push taken) = push (taken ++ values) := by
  induction values generalizing taken with
  | nil => rw [List.append_nil]; rfl
  | cons value values ih =>
    rw [List.foldl_cons, add, ih, List.append_assoc, List.singleton_append]

/-- What an accumulator makes of values is what it has gathered when it has taken them in. -/
theorem finish_foldl (kind : AccumulatorKind) (values : List Json) :
    (values.foldl add (start kind)).finish = kind.of values := by
  cases kind with
  | sum => rw [start, foldl_sum]; rfl
  | avg =>
    rw [start, foldl_avg, Nat.zero_add, finish, AccumulatorKind.of]
    simp only [List.isEmpty_iff_length_eq_zero]
    rfl
  | min => rw [start, foldl_min]; rfl
  | max => rw [start, foldl_max]; rfl
  | push => rw [start, foldl_push]; rfl

end Gathered

/-! ## Documents one after the other -/

namespace Accumulator

/-- Takes in the value of one more document. -/
def take (a : Accumulator) (gathered : Gathered) (doc : Json) : Except DateOverflow Gathered := do
  return gathered.add (← a.expression.eval doc)

/-- What an accumulator has gathered when it has gone through documents. -/
def gather (a : Accumulator) (docs : List Json) : Except DateOverflow Gathered :=
  docs.foldlM a.take (.start a.kind)

theorem gather_append (a : Accumulator) (docs : List Json) (doc : Json) :
    a.gather (docs ++ [doc]) = a.gather docs >>= fun gathered => a.take gathered doc := by
  simp only [gather, List.foldlM_append, List.foldlM_cons, List.foldlM_nil, bind_pure]

theorem foldlM_take (a : Accumulator) (gathered : Gathered) (docs : List Json) :
    docs.foldlM a.take gathered =
      (docs.mapM fun doc => a.expression.eval doc).map (·.foldl Gathered.add gathered) := by
  induction docs generalizing gathered with
  | nil => rfl
  | cons doc docs ih =>
    rw [List.foldlM_cons, List.mapM_cons, take]
    cases a.expression.eval doc with
    | error e => rfl
    | ok value =>
      refine (ih (gathered.add value)).trans ?_
      cases docs.mapM fun doc => a.expression.eval doc <;> rfl

/-- The value of an accumulator over documents is what it has gathered from them. -/
theorem over_eq_gather (a : Accumulator) (docs : List Json) :
    a.over docs = (a.gather docs).map Gathered.finish := by
  rw [gather, foldlM_take, Accumulator.over]
  cases docs.mapM fun doc => a.expression.eval doc with
  | error e => rfl
  | ok values => exact congrArg Except.ok (Gathered.finish_foldl a.kind values).symm

end Accumulator

end GridQuery
