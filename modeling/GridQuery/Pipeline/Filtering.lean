import GridQuery.Filter.Predicate
import GridQuery.Pipeline.Interval

/-!
# Filters and searches

The stages that keep the documents a filter asks for. Calendar parts that the filter looks at are
computed before the match and taken away after it.

* `filterStages`: the stages of a filter expression; none if it is no filter.
* `searchExpression`: a search over fields as a filter expression.
* `searchStages`: the stages of a search; none if it is incomplete or its value blank.
-/

namespace GridQuery.Pipeline

/-! ## Filters -/

/-- The stages that compute the calendar part a field asks for. -/
def computePart (offset : Int64) (f : PartField) : Pipeline :=
  partStages f.synthetic f.base f.part offset f.scratch

/-- The fields that computing a calendar part writes. -/
def writtenBy (f : PartField) : List String :=
  if f.part = .quarter then [f.synthetic, f.scratch] else [f.synthetic]

/-- Computes parts, matches, and removes what was computed (`compiled_filter_stages`). -/
def compiledStages (compiled : CompiledFilter) (offset : Int64) : Pipeline :=
  match compiled.predicate with
  | none => []
  | some predicate =>
    let parts := compiled.fields.filterMap PartField.ofName?
    let removed := Entries.ofList ((parts.flatMap writtenBy).map fun name => (name, constant 0))
    parts.flatMap (computePart offset) ++ [.single "$match" predicate] ++
      (if removed.isEmpty then [] else [.single "$project" (.object removed)])

/-- The stages of a filter expression (`filter_stages`). -/
def filterStages (filter : Json) (offset : Int64) : Pipeline :=
  compiledStages (CompiledFilter.ofJson filter) offset

/-! ## Searches -/

/-- The comparison of one field with the searched value. -/
def criterion (operation : String) (value : Json) (field : String) : Json :=
  .array [.string field, .string operation, value]

/-- The filter expression of a search; `none` when it looks at no field (`search_expression`). -/
def searchExpression (fields : SearchFields) (operation : String) (value : Json) : Option Json :=
  match fields with
  | .single field => some (criterion operation value field)
  | .many [] => none
  | .many fields =>
    some (.array ((fields.map (criterion operation value)).intersperse (.string "or")))

/-- A value that asks for nothing: null, false, zero or the empty string (`is_blank`). -/
def isBlank : Json → Bool
  | .null => true
  | .bool b => !b
  | .number n => n.isZero
  | .string s => s.isEmpty
  | .array _ | .object _ => false

/-- The stages of a search (`search_stages`). -/
def searchStages (fields : Option SearchFields) (operation : Option String) (value : Option Json)
    (offset : Int64) : Pipeline :=
  match fields, operation, value with
  | some fields, some operation, some value =>
    if operation.isEmpty || isBlank value then []
    else
      match searchExpression fields operation value with
      | some expression => filterStages expression offset
      | none => []
  | _, _, _ => []

end GridQuery.Pipeline
