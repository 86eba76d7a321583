import GridQuery.Pattern.Basic

/-!
# Errors of a collection

Why a pipeline cannot be read or run on a collection, or why there is no collection.

* `CollectionError.message`: what is wrong.
* `CollectionError.code`: a stable code for each kind of error.
* `Fault`: an error, or a date beyond the years that are supported.
-/

namespace GridQuery

/-- What is wrong with a stage, or with an operator inside one. -/
inductive StageFault where
  /-- A stage is an object with one key. -/
  | notOneKey
  | notAnObject
  /-- Groups need a key. -/
  | noGroupKey
  /-- An accumulator is an object with one key. -/
  | accumulatorNotOneKey (field : String)
  | noDirection
  | noCount
  | noCountField
  | predicateNotAnObject
  /-- A combinator needs a list. -/
  | combinatorNotAList (name : String)
  | patternNotAString
  /-- An operator needs a list of operands. -/
  | operandsNotAList
  | notTwoOperands
deriving DecidableEq

namespace StageFault

def message : StageFault → String
  | notOneKey => "stage must have exactly one key"
  | notAnObject => "must be an object"
  | noGroupKey => "requires '_id'"
  | accumulatorNotOneKey field => "accumulator '" ++ field ++ "' needs one operator"
  | noDirection => "direction must be 1 or -1"
  | noCount => "requires a non-negative integer"
  | noCountField => "requires a field name"
  | predicateNotAnObject => "predicate must be an object"
  | combinatorNotAList name => name ++ " requires an array"
  | patternNotAString => "$regex requires a string"
  | operandsNotAList => "requires an array"
  | notTwoOperands => "requires exactly 2 arguments"

end StageFault

/-- Why there is no collection. -/
inductive LoadFault where
  | noSuchFile
  /-- The text is not well-formed. -/
  | malformed
  /-- The text holds something other than a list. -/
  | notAList
deriving DecidableEq

namespace LoadFault

def message : LoadFault → String
  | noSuchFile => "No such file or directory (os error 2)"
  | malformed => "<json syntax error>"
  | notAList => "expected an array of documents"

end LoadFault

/-- Why a pipeline cannot be read or run, or why there is no collection (`StoreError`). -/
inductive CollectionError where
  | unknownStage (name : String)
  | invalidStage (stage : String) (fault : StageFault)
  | unsupportedOperator (name : String)
  | invalidPattern (pattern : String) (reason : PatternError)
  | loadFailed (path : String) (fault : LoadFault)
deriving DecidableEq

namespace CollectionError

def message : CollectionError → String
  | unknownStage name => "Unknown stage: " ++ name
  | invalidStage stage fault => "Invalid " ++ stage ++ " stage: " ++ fault.message
  | unsupportedOperator name => "Unsupported operator: " ++ name
  | invalidPattern pattern reason => "Invalid pattern '" ++ pattern ++ "': " ++ reason.message
  | loadFailed path fault => "Failed to load documents: " ++ path ++ ": " ++ fault.message

/-- The stable code of the kind of error (`StoreError::code`). -/
def code : CollectionError → String
  | unknownStage _ => "STORE_UNKNOWN_STAGE"
  | invalidStage _ _ => "STORE_INVALID_STAGE"
  | unsupportedOperator _ => "STORE_UNSUPPORTED_OPERATOR"
  | invalidPattern _ _ => "STORE_INVALID_PATTERN"
  | loadFailed _ _ => "STORE_LOAD_FAILED"

end CollectionError

/-- Date arithmetic left the years that are supported. -/
inductive DateOverflow where
  | dateOverflow
deriving DecidableEq

/-- Why a pipeline has no outcome. -/
inductive Fault where
  | error (e : CollectionError)
  | dateOverflow
deriving DecidableEq

end GridQuery
