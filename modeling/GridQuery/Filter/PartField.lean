import GridQuery.Calendar.Part

/-!
# Calendar parts of fields

In a filter, `created.year` asks for the year of the date in `created`. The part is computed into a
field of its own before the filter is applied, and the filter is pointed at that field.

* `PartField.ofName?`: the date field and the part of such a name.
* `predicateField`: the field a condition looks at.
-/

namespace GridQuery

/-- A field name that ends in a calendar part (`DatePartField`). -/
structure PartField where
  field : String
  base : String
  part : CalendarPart
deriving DecidableEq

/-- The characters before and after the last point. -/
def splitLastPoint : List Char → Option (List Char × List Char)
  | [] => none
  | c :: rest =>
    match splitLastPoint rest with
    | some (before, after) => some (c :: before, after)
    | none => if c = '.' then some ([], rest) else none

/-- Writes an underscore for every point. -/
def underscored (name : String) : String :=
  name.map fun c => if c = '.' then '_' else c

namespace PartField

/-- What stands before the last point is the date field, if it is not empty
    (`DatePartField::parse`). -/
def ofName? (field : String) : Option PartField := do
  let (base, suffix) ← splitLastPoint field.toList
  if base.isEmpty then none
  let part ← CalendarPart.ofSuffix? (String.ofList suffix)
  return ⟨field, String.ofList base, part⟩

/-- The field that holds the computed part (`synthetic_name`). -/
def synthetic (f : PartField) : String := "___" ++ underscored f.field

/-- The field for the intermediate value of a quarter (`scratch_name`). -/
def scratch (f : PartField) : String := "___" ++ underscored f.base ++ "_mp2"

end PartField

/-- The field that a condition on the given name looks at (`predicate_field`). -/
def predicateField (field : String) : String :=
  match PartField.ofName? field with
  | some part => part.synthetic
  | none => field

end GridQuery
