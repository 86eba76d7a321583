import GridQuery.Response.Error

/-!
# Groups of a response

A group has a key, a count and, if they were asked for, its rows or the groups inside it.

* `Group.ofJson`: reads a group document.
* `Group.toJson`: the group as clients read it; a summary is left out when there is none.
-/

namespace GridQuery

mutual

/-- A group of rows (`GroupItem`). -/
inductive Group where
  | mk (key : Json) (count : UInt64) (items : GroupItems) (summary : Option (List Json))

/-- What a group holds. -/
inductive GroupItems where
  | absent
  | rows (rows : List Json)
  | groups (groups : List Group)

end

namespace Group

/-! ## Parts -/

def key : Group → Json
  | mk key _ _ _ => key

def count : Group → UInt64
  | mk _ count _ _ => count

def items : Group → GroupItems
  | mk _ _ items _ => items

def summary : Group → Option (List Json)
  | mk _ _ _ summary => summary

/-- The rows of a group that holds rows (`GroupItem::rows`). -/
def rows? (g : Group) : Option (List Json) :=
  match g.items with
  | .rows rows => some rows
  | _ => none

/-- The groups inside a group that holds groups (`GroupItem::groups`). -/
def groups? (g : Group) : Option (List Group) :=
  match g.items with
  | .groups groups => some groups
  | _ => none

def withCount (g : Group) (count : UInt64) : Group := mk g.key count g.items g.summary

/-- The group with groups inside it, which it counts. -/
def withGroups (g : Group) (groups : List Group) : Group :=
  mk g.key (UInt64.ofNat groups.length) (.groups groups) g.summary

def withSummary (g : Group) (values : List Json) : Group := mk g.key g.count g.items (some values)

/-- Changes every row of a group that holds rows. -/
def mapRows (f : Json → Json) (g : Group) : Group :=
  match g.items with
  | .rows rows => mk g.key g.count (.rows (rows.map f)) g.summary
  | _ => g

/-! ## Reading -/

/-- The count of a group document; none, or null, is zero. -/
def countOf (doc : Json) : Except ResultFault UInt64 :=
  match doc.get? "count" with
  | none | some .null => .ok 0
  | some value =>
    match value.uint64? with
    | some n => .ok n
    | none => .error (.groupCount value)

/-- What a group document holds: rows in a list, or nothing. -/
def itemsOf (doc : Json) : GroupItems :=
  match doc.get? "items" with
  | some (.array rows) => .rows rows
  | _ => .absent

/-- The group of a document; a key is needed (`GroupItem::from_document`). -/
def ofJson (doc : Json) : Except ResultFault Group :=
  match doc.get? "key" with
  | none => .error (.groupWithoutKey doc)
  | some key => (countOf doc).map fun count => mk key count (itemsOf doc) none

/-! ## Writing -/

mutual

/-- The group as clients read it. -/
def toJson : Group → Json
  | mk key count items summary =>
    .object <|
      [("key", key), ("count", .ofUInt64 count), ("items", itemsJson items)] ++
      (summary.map fun values => ("summary", Json.array values)).toList

/-- The rows or the groups, and null when there are neither. -/
def itemsJson : GroupItems → Json
  | .absent => .null
  | .rows rows => .array rows
  | .groups groups => .array (groupsJson groups)

/-- Groups as clients read them, in order. -/
def groupsJson : List Group → List Json
  | [] => []
  | g :: rest => toJson g :: groupsJson rest

end

end Group

end GridQuery
