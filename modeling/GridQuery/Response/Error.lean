import GridQuery.Collection.Error
import GridQuery.Request.Config

/-!
# Errors of a request

Why a request has no response. Models `QueryError`.

* `QueryError.message`: what is wrong; `QueryError.code`: a stable code for each kind of error.
* `Failure`: an error, or a runner that gave up without an answer.
-/

namespace GridQuery

/-- What is wrong with a document that a runner answered. -/
inductive ResultFault where
  | groupWithoutKey (doc : Json)
  | groupCount (value : Json)
  | countWithoutCount (doc : Json)
deriving DecidableEq

namespace ResultFault

def message : ResultFault → String
  | groupWithoutKey doc => "group without key: " ++ doc.text
  | groupCount value => "group count is not a count: " ++ value.text
  | countWithoutCount doc => "count result without count: " ++ doc.text

end ResultFault

/-- Why a request has no response. -/
inductive QueryError where
  /-- The runner refused a pipeline. -/
  | executionFailed (reason : String)
  | invalidOptions (reason : DecodeError)
  | invalidResult (fault : ResultFault)
  | invalidConfig (reason : ConfigError)
deriving DecidableEq

namespace QueryError

def message : QueryError → String
  | executionFailed reason => "Pipeline execution failed: " ++ reason
  | invalidOptions reason => "Invalid load options: " ++ reason.message
  | invalidResult fault => "Unexpected result document: " ++ fault.message
  | invalidConfig reason => "Configuration error: " ++ reason.message

/-- The stable code of the kind of error. -/
def code : QueryError → String
  | executionFailed _ => "GRID_EXECUTION_FAILED"
  | invalidOptions _ => "GRID_INVALID_OPTIONS"
  | invalidResult _ => "GRID_INVALID_RESULT"
  | invalidConfig _ => "GRID_CONFIG_ERROR"

/-- An error of a collection, as the reason why a pipeline failed. -/
def ofCollection (e : CollectionError) : QueryError :=
  executionFailed (e.code ++ ": " ++ e.message)

end QueryError

/-- Why a request ends early. -/
inductive Failure where
  | error (e : QueryError)
  /-- There is no answer, and no error either. -/
  | aborted
deriving DecidableEq

namespace Failure

/-- A fault of a collection ends a request; dates out of range give it up. -/
def ofFault : Fault → Failure
  | .error e => error (.ofCollection e)
  | .dateOverflow => aborted

end Failure

end GridQuery
