import GridQuery.Log.Record

/-!
# Events

What the engine reports on its own account, and the records at the start and the end of a piece of
work. Models `Event` and `ObservationScope`.

* `Event.record`: an event at its own severity.
* `Scope`: a piece of work with a name; `began`, `completed`, `failed`, `abandoned`.
-/

namespace GridQuery

/-- What can happen besides the start and the end of a request. -/
inductive Event where
  /-- A configuration was read. -/
  | configLoaded
  /-- A pipeline is handed to the runner. -/
  | pipelineExecute
  /-- A filter expression became no predicate. -/
  | filterDiscarded
  /-- The groups of one level were read. -/
  | groupLevelQueried
  /-- A summary was refused for the first time. -/
  | summaryBudgetExhausted
deriving DecidableEq

namespace Event

def name : Event → String
  | configLoaded => "CONFIG_LOADED"
  | pipelineExecute => "PIPELINE_EXECUTE"
  | filterDiscarded => "FILTER_DISCARDED"
  | groupLevelQueried => "GROUP_LEVEL_QUERIED"
  | summaryBudgetExhausted => "SUMMARY_BUDGET_EXHAUSTED"

def severity : Event → Severity
  | configLoaded => .info
  | summaryBudgetExhausted => .warn
  | pipelineExecute | filterDiscarded | groupLevelQueried => .trace

def record (event : Event) (fields : List (String × String)) : LogRecord :=
  { severity := event.severity, event := event.name, fields := fields }

end Event

/-- A piece of work whose start and end are reported, with fields that go with each record
    (`ObservationScope`). -/
structure Scope where
  name : String
  fields : List (String × String)
deriving DecidableEq

namespace Scope

def began (scope : Scope) : LogRecord :=
  { severity := .info, event := scope.name ++ "_BEGIN", fields := scope.fields }

def completed (scope : Scope) : LogRecord :=
  { severity := .info, event := scope.name ++ "_COMPLETE", fields := scope.fields, timed := true }

def failed (scope : Scope) (code message : String) : LogRecord :=
  { severity := .error, event := scope.name ++ "_FAILED",
    fields := scope.fields ++ [("code", code), ("message", message)] }

/-- The work was given up without an outcome (`ObservationScope::drop`). -/
def abandoned (scope : Scope) : LogRecord :=
  { severity := .warn, event := scope.name ++ "_INCOMPLETE",
    fields := [("reason", "scope dropped without completion")] }

end Scope

end GridQuery
