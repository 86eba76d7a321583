import GridQuery.Response.Group

/-!
# Responses

What a client gets for its load options.

* `Response.toJson`: the response as clients read it; totals are left out when not asked for.
* `plainIdentifier`: a row with its object identifier as a plain string.
-/

namespace GridQuery

/-- The rows or the groups that were asked for. -/
inductive ResponseData where
  | rows (rows : List Json)
  | groups (groups : List Group)

/-- The answer to load options (`QueryResponse`). -/
structure Response where
  data : ResponseData
  totalCount : Option UInt64 := none
  groupCount : Option UInt64 := none
  summary : Option (List Json) := none

namespace Response

/-- The rows of a flat response (`data_rows`). -/
def rows? (r : Response) : Option (List Json) :=
  match r.data with
  | .rows rows => some rows
  | .groups _ => none

/-- The groups of a grouped response (`data_groups`). -/
def groups? (r : Response) : Option (List Group) :=
  match r.data with
  | .rows _ => none
  | .groups groups => some groups

/-- The response as clients read it (`QueryResponse::to_json`). -/
def toJson (r : Response) : Json :=
  let data :=
    match r.data with
    | .rows rows => rows
    | .groups groups => groups.map Group.toJson
  .object <|
    [("data", .array data)] ++
    (r.totalCount.map fun n => ("totalCount", Json.ofUInt64 n)).toList ++
    (r.groupCount.map fun n => ("groupCount", Json.ofUInt64 n)).toList ++
    (r.summary.map fun values => ("summary", Json.array values)).toList

end Response

/-! ## Identifiers -/

/-- The text of an object identifier. -/
def identifierText? : Json → Option String
  | .object [(key, .string text)] => if key = "$oid" then some text else none
  | _ => none

/-- A row with its object identifier as a plain string; any other row stays as it is
    (`ObjectIdNormalizer`). -/
def plainIdentifier (row : Json) : Json :=
  match row with
  | .object entries =>
    match (Entries.get? "_id" entries).bind identifierText? with
    | some text => .object (Entries.insert "_id" (.string text) entries)
    | none => row
  | _ => row

end GridQuery
