import GridQuery.Request.Options

/-!
# Pipelines

A pipeline is a list of stage documents, each with the stage's name as its only key. This module
has the stages that depend on one part of a request only; an empty list means that nothing is to be
done.

* `pagingStages`, `countStages`, `matchStages`, `sortStages`, `selectStages`.
-/

namespace GridQuery

/-- Stages in the order in which they run. -/
abbrev Pipeline := List Json

namespace Pipeline

/-- Whether some stage of the pipeline has the given name. -/
def hasStage (pipeline : Pipeline) (name : String) : Bool :=
  pipeline.any fun stage => (stage.get? name).isSome

/-- A small integer constant. -/
def constant (n : Int64) : Json := .ofInt64 n

/-- The reference to a field. -/
def reference (field : String) : Json := .string ("$" ++ field)

/-- The stage that computes one field (`add_fields`). -/
def addField (field : String) (expression : Json) : Json :=
  .single "$addFields" (.single field expression)

/-- One for ascending order, minus one for descending order. -/
def direction (desc : Bool) : Json := constant (if desc then -1 else 1)

/-- Skips and limits; zero leaves out the stage (`skip_take_stages`). -/
def pagingStages (skip take : UInt64) : Pipeline :=
  (if 0 < skip then [.single "$skip" (.ofUInt64 skip)] else []) ++
    (if 0 < take then [.single "$limit" (.ofUInt64 take)] else [])

/-- Replaces the documents by one that counts them (`count_stages`). -/
def countStages : Pipeline := [.single "$count" (.string "count")]

/-- Keeps the documents that match a value in a field (`match_stages`). -/
def matchStages (field : String) (value : Json) : Pipeline :=
  [.single "$match" (.single field value)]

/-- Sorts by fields in turn; a repeated field keeps its first place and its last direction
    (`sort_stages`). -/
def sortStages (sort : List SortField) : Pipeline :=
  if sort.isEmpty then []
  else
    [.single "$sort"
      (.object (Entries.ofList (sort.map fun s => (s.selector, direction s.desc))))]

/-- The document that gives each selected field its own value; `none` when nothing is selected
    (`select_projection`). -/
def selectProjection (fields : List String) (explicitId : Bool) : Option Json :=
  if fields.isEmpty then none
  else
    some (.object (Entries.ofList
      ((if explicitId then [("_id", reference "_id")] else []) ++
        fields.map fun field => (field, reference field))))

/-- Keeps the selected fields (`select_stages`). -/
def selectStages (fields : List String) : Pipeline :=
  ((selectProjection fields false).map fun projection => .single "$project" projection).toList

end Pipeline

end GridQuery
