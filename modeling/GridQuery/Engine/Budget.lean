/-!
# Budget of summary queries

A request may ask for one summary query for each group. A budget puts a ceiling on them; it counts
attempts, granted or not, in a 32-bit word. Models `SummaryBudget`.

* `SummaryBudget.attempt`: counts an attempt, and says whether it is granted.
-/

namespace GridQuery

/-- The ceiling, if there is one, the attempts so far and whether one has been refused. -/
structure SummaryBudget where
  limit : Option UInt32
  attempts : UInt32 := 0
  exhausted : Bool := false
deriving DecidableEq

namespace SummaryBudget

/-- The number of the next attempt; the greatest number stays as it is. -/
def next (b : SummaryBudget) : UInt32 :=
  if b.attempts = 0xffffffff then b.attempts else b.attempts + 1

/-- Whether the next attempt is within the ceiling. -/
def grants (b : SummaryBudget) : Bool :=
  match b.limit with
  | none => true
  | some limit => b.next ≤ limit

/-- Counts an attempt; a refused one exhausts the budget (`try_acquire`). -/
def attempt (b : SummaryBudget) : SummaryBudget :=
  { b with attempts := b.attempts + 1, exhausted := b.exhausted || !b.grants }

/-- The attempts granted so far. -/
def granted (b : SummaryBudget) : UInt32 :=
  match b.limit with
  | some limit => min b.attempts limit
  | none => b.attempts

end SummaryBudget

end GridQuery
