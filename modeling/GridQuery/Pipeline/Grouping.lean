import GridQuery.Pipeline.Interval

/-!
# Groups

The stages that group documents at one level, and those that narrow the documents to one group. The
key of a level is computed into a field of its own.

* `groupKey`: the stages that compute the key of a level.
* `groupingStages`: key, `$group`, `$project` and `$sort`; without items also an explicit null.
* `narrowingStages`: the documents of one group.
* `stripKeys`: a row without the fields that key stages write.
-/

namespace GridQuery.Pipeline

/-! ## Keys -/

def keyPrefix : String := "___group_key_"

/-- The field that holds the key of a level (`group_key_field`). -/
def keyField (level : Nat) : String := keyPrefix ++ toString level

/-- The stages that compute the key of a level (`GroupKeyStages`). -/
structure GroupKey where
  stages : Pipeline
  level : Nat
deriving DecidableEq

def GroupKey.field (key : GroupKey) : String := keyField key.level

/-- Numbers are taken down to a multiple of the width, dates to their part; otherwise the key is the
    value itself (`group_key_stages`). -/
def groupKey (selector : String) (interval : Option GroupInterval) (level : Nat) (offset : Int64) :
    GroupKey :=
  let field := keyField level
  let value := reference selector
  let stages :=
    match interval.bind GroupInterval.width?, interval.bind GroupInterval.part? with
    | some width, _ =>
      [addField field (binary "$subtract" value (binary "$mod" value (.number width)))]
    | none, some part => partStages field selector part offset quarterScratch
    | none, none => [addField field value]
  ⟨stages, level⟩

/-! ## Grouping -/

/-- What is pushed for each document when no fields are selected (`CURRENT_DOCUMENT`). -/
def currentDocument : Json := .string "$$CURRENT"

/-- The key stages and the `$group` stage; the count is left out when it is taken separately
    (`group_stage`). -/
def groupStages (includeItems countSeparately : Bool) (projection : Option Json) (key : GroupKey) :
    Pipeline :=
  key.stages ++
    [.single "$group" (.object <|
      [("_id", reference key.field)] ++
      (if countSeparately then [] else [("count", .single "$sum" (constant 1))]) ++
      (if includeItems then [("items", .single "$push" (projection.getD currentDocument))]
        else []))]

/-- All stages of one level: groups as documents with `key`, `count` and `items`, sorted by key
    (`grouping_stages`). -/
def groupingStages (desc includeItems countSeparately : Bool) (key : GroupKey)
    (projection : Option Json) : Pipeline :=
  groupStages includeItems countSeparately projection key ++
    [ .single "$project" (.object <|
        [("_id", constant 0), ("key", reference "_id")] ++
        (if countSeparately then [] else [("count", constant 1)]) ++
        (if includeItems then [("items", constant 1)] else [])),
      .single "$sort" (.single "key" (direction desc)) ] ++
    (if includeItems then [] else [addField "items" .null])

/-! ## One group -/

/-- Keeps the documents of one group: a level of values is matched on the field itself, a bucketed
    level on the key computed again (`group_narrowing_stages`). -/
def narrowingStages (selector : String) (interval : Option GroupInterval) (level : Nat)
    (offset : Int64) (key : Json) : Pipeline :=
  if interval.any GroupInterval.isBucketed then
    let computed := groupKey selector interval level offset
    computed.stages ++ matchStages computed.field key
  else
    matchStages selector key

/-- A field that key stages write. -/
def isKeyField (name : String) : Bool :=
  keyPrefix.toList.isPrefixOf name.toList || name = quarterScratch

/-- A row without the fields that key stages write (`strip_group_key_fields`). -/
def stripKeys : Json → Json
  | .object entries => .object (entries.filter fun entry => !isKeyField entry.1)
  | other => other

end GridQuery.Pipeline
