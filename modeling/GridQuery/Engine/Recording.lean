import GridQuery.Engine.Session

/-!
# Recording runners

Models `RecordingRunner`, a runner around another one that keeps every pipeline it is handed. The
list is its own: it is not that of the session, and the runner inside does not see it.

* `Runner.after`: a runner goes on from the pipelines that it has been handed.
* `RecordingRunner.run`: a pipeline is kept, and then handed to the runner inside.
* `RecordingRunner.runner`: a recorder as a runner, which answers by its state at that point.
* `RecordingRunner.afterAll`: its state once an engine has handed it the pipelines of a session.
-/

namespace GridQuery

/-- What a runner has become by a pipeline. -/
def Runner.after (r : Runner) (p : Pipeline) : Runner where
  answer before := r.answer (p :: before)

/-- A runner and the pipelines that have been recorded, oldest first (`RecordingRunner`). -/
structure RecordingRunner where
  inner : Runner
  pipelines : List Pipeline

namespace RecordingRunner

/-- Nothing has been recorded yet (`new`). -/
def new (inner : Runner) : RecordingRunner := { inner := inner, pipelines := [] }

/-- Keeps a pipeline (`record`). -/
def record (r : RecordingRunner) (p : Pipeline) : RecordingRunner :=
  { r with pipelines := r.pipelines ++ [p] }

/-- What a recorder has become by a pipeline: it has kept it, and the runner inside has run it. -/
def after (r : RecordingRunner) (p : Pipeline) : RecordingRunner :=
  { r.record p with inner := (r.record p).inner.after p }

/-- Keeps a pipeline and hands it to the runner inside, whose answer it gives (`run`). -/
def run (r : RecordingRunner) (p : Pipeline) : Except Failure (List Json) × RecordingRunner :=
  ((r.record p).inner.answer [] p, r.after p)

/-- What a recorder has become by pipelines, one after the other. -/
def afterAll (r : RecordingRunner) (ps : List Pipeline) : RecordingRunner := ps.foldl after r

/-- A recorder as what answers the pipelines of an engine. -/
def runner (r : RecordingRunner) : Runner where
  answer before p := ((r.afterAll before).run p).1

end RecordingRunner

end GridQuery
