import GridQuery.Engine.Metrics
import GridQuery.Engine.Budget
import GridQuery.Pipeline.Summary
import GridQuery.Response.Error

/-!
# Sessions

An engine hands pipelines to a runner and keeps count. A session is what it has done so far; a step
goes from one session to the next and may fail on the way.

* `Runner`: what answers pipelines; an answer may depend on the pipelines run before.
* `Session`: pipelines run, counters, log and the budget of the request at hand.
* `Step.execute`, `Step.count`, `Step.summarize`: run a pipeline and read its answer.
-/

namespace GridQuery

/-- What answers pipelines (`PipelineRunner`). The answer may depend on the pipelines run before,
    oldest first. -/
structure Runner where
  answer : (before : List Pipeline) → Pipeline → Except Failure (List Json)

/-- What an engine has done so far. -/
structure Session where
  /-- The pipelines handed to the runner, oldest first. -/
  pipelines : List Pipeline := []
  metrics : Metrics := {}
  log : Log := {}
  /-- The budget of the request at hand. -/
  budget : SummaryBudget := { limit := none }
deriving DecidableEq

namespace Session

def write (s : Session) (record : LogRecord) : Session := { s with log := s.log.write record }

def measure (s : Session) (change : Metrics → Metrics) : Session :=
  { s with metrics := change s.metrics }

/-- Counts an attempt at a summary; the first refusal is logged. -/
def attemptSummary (s : Session) : Session :=
  let attempted := { s with budget := s.budget.attempt }
  match s.budget.limit with
  | some limit =>
    if s.budget.grants || s.budget.exhausted then attempted
    else
      attempted.write
        (Event.summaryBudgetExhausted.record [("limit", toString limit.toNat)])
  | none => attempted

end Session

/-- A step of a request: it goes on from a session, and may fail. -/
abbrev Step (α : Type) := ExceptT Failure (StateM Session) α

namespace Step

/-- How a step ends, and the session after it. -/
def outcome {α : Type} (step : Step α) (s : Session) : Except Failure α × Session :=
  (ExceptT.run step).run s

/-- A step that changes the session only. -/
def change (f : Session → Session) : Step Unit := modifyThe Session f

def record (r : LogRecord) : Step Unit := change fun s => s.write r

def measure (f : Metrics → Metrics) : Step Unit := change fun s => s.measure f

/-- A document that was answered is not what it has to be. -/
def checked {α : Type} (x : Except ResultFault α) : Step α :=
  match x with
  | .ok a => pure a
  | .error fault => throw (.error (.invalidResult fault))

/-- Hands a pipeline to the runner (`QueryContext::run`). -/
def execute (runner : Runner) (pipeline : Pipeline) : Step (List Json) := do
  measure Metrics.addPipeline
  record (Event.pipelineExecute.record [("stages", toString pipeline.length)])
  let before := (← getThe Session).pipelines
  change fun s => { s with pipelines := s.pipelines ++ [pipeline] }
  match runner.answer before pipeline with
  | .ok docs => return docs
  | .error failure => throw failure

/-- The count in the first document; without a document it is zero. -/
def countOf (docs : List Json) : Except ResultFault UInt64 :=
  match docs with
  | [] => .ok 0
  | doc :: _ =>
    match (doc.get? "count").bind Json.uint64? with
    | some n => .ok n
    | none => .error (.countWithoutCount doc)

/-- Runs a pipeline that counts (`QueryContext::count`). -/
def count (runner : Runner) (pipeline : Pipeline) : Step UInt64 := do
  measure Metrics.addCountQuery
  checked (countOf (← execute runner pipeline))

/-- Runs a pipeline that summarizes, and gives the values in the order of the summaries
    (`QueryContext::summary`). -/
def summarize (runner : Runner) (summaries : List Summary) (pipeline : Pipeline) :
    Step (List Json) := do
  measure Metrics.addSummaryQuery
  return Pipeline.summaryValues summaries (← execute runner pipeline).head?

/-- Whether the budget allows another summary (`try_acquire`). -/
def acquireSummary : Step Bool := do
  let granted := (← getThe Session).budget.grants
  change Session.attemptSummary
  return granted

end Step

end GridQuery
