import GridQuery.Collection.Condition
import GridQuery.Collection.Expression
import GridQuery.Pipeline.Basic

/-!
# Stages

What one step of a pipeline does to a list of documents. All stages of a pipeline are read before
the first one runs. Models `Stage`, `Accumulator` and `Projection`.

* `Stage.ofJson`: reads a stage document.
* `Stage.run`: the documents after a stage.
* `groupDocuments`: one document for each key, in the order in which the keys first appear.
* `project`: the document under a projection.
-/

namespace GridQuery

/-! ## Stages -/

/-- How the values of a group become one. -/
inductive AccumulatorKind where
  | sum
  | avg
  | min
  | max
  | push
deriving DecidableEq

/-- An expression over the documents of a group, and what becomes of its values. -/
structure Accumulator where
  kind : AccumulatorKind
  expression : Expression

/-- What a projection does with a field. -/
inductive Projection where
  | keep
  | drop
  | compute (e : Expression)

/-- One step of a pipeline. -/
inductive Stage where
  | keepMatching (predicate : Json)
  | addFields (fields : List (String × Expression))
  | group (key : Expression) (accumulators : List (String × Accumulator))
  | project (fields : List (String × Projection))
  /-- Fields in turn, each with whether its order is descending. -/
  | sort (fields : List (String × Bool))
  | skip (n : Nat)
  | limit (n : Nat)
  | count (field : String)

/-! ## Reading -/

namespace AccumulatorKind

def all : List AccumulatorKind := [sum, avg, min, max, push]

def operator : AccumulatorKind → String
  | sum => "$sum"
  | avg => "$avg"
  | min => "$min"
  | max => "$max"
  | push => "$push"

def ofOperator? (name : String) : Option AccumulatorKind :=
  all.find? fun kind => kind.operator = name

end AccumulatorKind

/-- The accumulator of a field; its expression is read before its operator is looked at
    (`Accumulator::parse`). -/
def Accumulator.ofJson (field : String) : Json → Except CollectionError Accumulator
  | .object [(name, operand)] => do
    let e ← Expression.ofJson operand
    match AccumulatorKind.ofOperator? name with
    | some kind => return ⟨kind, e⟩
    | none => throw (.unsupportedOperator name)
  | _ => .error (.invalidStage "$group" (.accumulatorNotOneKey field))

/-- A field is kept for true and for a number other than zero, dropped for false and zero, and else
    computed. -/
def Projection.ofJson : Json → Except CollectionError Projection
  | .bool b => .ok (if b then keep else drop)
  | .number n => .ok (if n.isZero then drop else keep)
  | other => (Expression.ofJson other).map compute

namespace Stage

/-- The direction of a sort field: whether it is descending. -/
def descending? (name : String) (value : Json) : Except CollectionError Bool :=
  if value.int64? = some 1 then .ok false
  else if value.int64? = some (-1) then .ok true
  else .error (.invalidStage name .noDirection)

/-- The entries of a stage that has to be an object, each read on its own (`object`). -/
def readEntries {α : Type} (name : String) (read : Json → Except CollectionError α) :
    Json → Except CollectionError (List (String × α))
  | .object entries => entries.mapM fun (field, content) => do return (field, ← read content)
  | _ => .error (.invalidStage name .notAnObject)

/-- A count of documents (`count_arg`). -/
def readCount (name : String) (value : Json) : Except CollectionError Nat :=
  match value.uint64? with
  | some n => .ok n.toNat
  | none => .error (.invalidStage name .noCount)

/-- Groups: the accumulators are read before the key. -/
def readGroup (name : String) : Json → Except CollectionError Stage
  | .object entries =>
    match Entries.get? "_id" entries with
    | none => .error (.invalidStage name .noGroupKey)
    | some key => do
      let accumulators ←
        (entries.filter fun (field, _) => field ≠ "_id").mapM fun (field, content) => do
          return (field, ← Accumulator.ofJson field content)
      return group (← Expression.ofJson key) accumulators
  | _ => .error (.invalidStage name .notAnObject)

/-- The stage of a name and its content. -/
def ofEntry (name : String) (content : Json) : Except CollectionError Stage :=
  match name with
  | "$match" => .ok (keepMatching content)
  | "$addFields" | "$set" => (readEntries name Expression.ofJson content).map addFields
  | "$group" => readGroup name content
  | "$project" => (readEntries name Projection.ofJson content).map project
  | "$sort" => (readEntries name (descending? name) content).map sort
  | "$skip" => (readCount name content).map skip
  | "$limit" => (readCount name content).map limit
  | "$count" =>
    match content with
    | .string field =>
      if field.isEmpty then .error (.invalidStage name .noCountField) else .ok (count field)
    | _ => .error (.invalidStage name .noCountField)
  | other => .error (.unknownStage other)

/-- The stage of a stage document, which has one key (`Stage::parse`). -/
def ofJson : Json → Except CollectionError Stage
  | .object [(name, content)] => ofEntry name content
  | _ => .error (.invalidStage "pipeline" .notOneKey)

end Stage

/-! ## Groups -/

/-- The numbers among values, in order. -/
def numbersOf (values : List Json) : List Binary64 := values.filterMap Json.binary64?

/-- The sum of numbers from the left. -/
def sumNumbers (numbers : List Binary64) : Binary64 := numbers.foldl Binary64.add .zero

/-- The first of the values other than null that no other one precedes in the given sense. -/
def extreme (wanted : Ordering) (values : List Json) : Json :=
  (values.foldl (fun best value =>
    if value.isNull then best
    else
      match best with
      | none => some value
      | some b => if value.compare b = wanted then some value else some b) none).getD .null

/-- What the values of a group become. Sums and means are of the numbers among them, and the least
    and the greatest of the values other than null. -/
def AccumulatorKind.of (kind : AccumulatorKind) (values : List Json) : Json :=
  match kind with
  | sum => .ofBinary64 (sumNumbers (numbersOf values))
  | avg =>
    let numbers := numbersOf values
    if numbers.isEmpty then .null
    else .ofBinary64 ((sumNumbers numbers).div (.ofInt numbers.length))
  | min => extreme .lt values
  | max => extreme .gt values
  | push => .array values

/-- The value of an accumulator over the documents of a group (`AccumulatorState`). -/
def Accumulator.over (a : Accumulator) (docs : List Json) : Except DateOverflow Json := do
  return a.kind.of (← docs.mapM fun doc => a.expression.eval doc)

/-- The distinct texts in the order in which they first appear. -/
def firstAppearances : List String → List String
  | [] => []
  | x :: rest => x :: (firstAppearances rest).filter (· ≠ x)

/-- The documents with one text of the key, the key being that of the first of them. -/
def groupOf (keyed : List (Json × Json)) (text : String) : Json × List Json :=
  let members := keyed.filter fun pair => pair.1.keyText = text
  (((members.head?).map (·.1)).getD .null, members.map (·.2))

/-- One document for each key: the key and what the accumulators make of its documents (`group`). -/
def groupDocuments (key : Expression) (accumulators : List (String × Accumulator))
    (docs : List Json) : Except DateOverflow (List Json) := do
  let keyed ← docs.mapM fun doc => do return (← key.eval doc, doc)
  (firstAppearances (keyed.map fun pair => pair.1.keyText)).mapM fun text => do
    let (key, members) := groupOf keyed text
    let fields ← accumulators.mapM fun (name, a) => do return (name, ← a.over members)
    return .object (Entries.ofList (("_id", key) :: fields))

/-! ## Projections -/

/-- A projection selects fields if it computes one or keeps one other than `_id`. -/
def selects (fields : List (String × Projection)) : Bool :=
  fields.any fun (name, projection) =>
    match projection with
    | .compute _ => true
    | .keep => name ≠ "_id"
    | .drop => false

def dropsId (fields : List (String × Projection)) : Bool :=
  fields.any fun (name, projection) =>
    match projection with
    | .drop => name = "_id"
    | _ => false

/-- The entries of the selected fields; a field that is missing is left out. -/
def selectedEntries (doc : Json) :
    List (String × Projection) → Except DateOverflow (List (String × Json))
  | [] => .ok []
  | (name, projection) :: rest => do
    let value ←
      match projection with
      | .keep => pure (doc.resolve? name)
      | .compute e => e.eval? doc
      | .drop => pure none
    let others ← selectedEntries doc rest
    return (value.map fun value => (name, value)).toList ++ others

/-- The document under a projection. One that selects fields keeps `_id` in front unless it is
    dropped; any other removes all the fields it lists. -/
def project (fields : List (String × Projection)) (doc : Json) : Except DateOverflow Json :=
  if selects fields then do
    let id := if dropsId fields then none else doc.get? "_id"
    let selected ← selectedEntries doc fields
    return .object (Entries.ofList ((id.map fun value => ("_id", value)).toList ++ selected))
  else
    match doc with
    | .object entries =>
      .ok (.object (fields.foldl (fun entries field => Entries.swapRemove field.1 entries) entries))
    | other => .ok other

/-! ## Running -/

/-- The order of two documents by fields in turn; a missing field is null. -/
def compareBy : List (String × Bool) → Json → Json → Ordering
  | [], _, _ => .eq
  | (field, desc) :: rest, a, b =>
    let order := ((a.resolve? field).getD .null).compare ((b.resolve? field).getD .null)
    (if desc then order.swap else order).then (compareBy rest a b)

/-- Computes fields one after the other; a missing field is not set. -/
def computeFields : List (String × Expression) → Json → Except DateOverflow Json
  | [], doc => .ok doc
  | (name, e) :: rest, doc => do
    match ← e.eval? doc with
    | some value => computeFields rest (doc.setPath name value)
    | none => computeFields rest doc

/-- The documents that satisfy a predicate; the first document on which it fails decides. -/
def matching (predicate : Json) : List Json → Except CollectionError (List Json)
  | [] => .ok []
  | doc :: rest => do
    let satisfied ← doc.satisfies predicate
    let kept ← matching predicate rest
    return if satisfied then doc :: kept else kept

namespace Stage

/-- The documents after a stage (`Stage::apply`). -/
def run (stage : Stage) (docs : List Json) : Except Fault (List Json) :=
  match stage with
  | keepMatching predicate => (matching predicate docs).mapError .error
  | addFields fields => (docs.mapM (computeFields fields)).mapError fun _ => .dateOverflow
  | group key accumulators =>
    (groupDocuments key accumulators docs).mapError fun _ => .dateOverflow
  | project fields => (docs.mapM (GridQuery.project fields)).mapError fun _ => .dateOverflow
  | sort fields => .ok (docs.mergeSort fun a b => compareBy fields a b ≠ .gt)
  | skip n => .ok (docs.drop n)
  | limit n => .ok (docs.take n)
  | count field =>
    .ok (if docs.isEmpty then []
      else [.single field (.ofUInt64 (UInt64.ofNat docs.length))])

end Stage

end GridQuery
