import GridQuery.Request.Interval
import GridQuery.Json.Printer

/-!
# Load options

What a data grid asks for: filter, search, order, groups, summaries, selected fields and a page.
Every part may be left out, and null says the same as leaving it out. Models `LoadOptions` and the
types of its parts.

* `LoadOptions`: the request; `isGrouped`, `totalsRequired`.
* `LoadOptions.ofText`, `LoadOptions.ofValue`: decoding, with the error that comes first in the
  input.
* `LoadOptions.toJson`: the request with all parts spelled out.
-/

namespace GridQuery

/-! ## Parts of a request -/

/-- One field to sort by (`SortInfo`). -/
structure SortField where
  selector : String
  desc : Bool
deriving DecidableEq

/-- One level of groups; the first level is the outermost (`GroupInfo`). -/
structure GroupLevel where
  selector : String
  desc : Bool
  /-- The contents of the groups are shown. -/
  isExpanded : Bool
  interval : Option GroupInterval
deriving DecidableEq

/-- How a summary reduces values; `other` is carried along and yields nothing (`SummaryType`). -/
inductive SummaryKind where
  | sum
  | avg
  | min
  | max
  | count
  | other
deriving DecidableEq

/-- One requested summary; a count needs no field (`SummaryInfo`). -/
structure Summary where
  selector : String
  kind : SummaryKind
deriving DecidableEq

/-- The fields that a free-text search looks at (`SearchExpr`). -/
inductive SearchFields where
  | single (field : String)
  | many (fields : List String)
deriving DecidableEq

/-- A request; zero stands for no skip and for no limit. -/
structure LoadOptions where
  filter : Option Json := none
  searchFields : Option SearchFields := none
  searchOperation : Option String := none
  searchValue : Option Json := none
  sort : List SortField := []
  group : List GroupLevel := []
  groupSummary : List Summary := []
  totalSummary : List Summary := []
  select : List String := []
  skip : UInt64 := 0
  take : UInt64 := 0
  requireGroupCount : Bool := false
  requireTotalCount : Bool := false
deriving DecidableEq

namespace LoadOptions

def isGrouped (options : LoadOptions) : Bool := !options.group.isEmpty

/-- A total count or a total summary is asked for; a summary brings the count with it
    (`totals_required`). -/
def totalsRequired (options : LoadOptions) : Bool :=
  options.requireTotalCount || !options.totalSummary.isEmpty

end LoadOptions

/-! ## Decoding -/

open Decoder (RecordField)

namespace SortField

def decoder : Decoder SortField :=
  .record "SortInfo"
    [ .mandatory "selector" .string fun v s => { s with selector := v },
      .optional "desc" (.orDefault false .bool) fun v s => { s with desc := v } ]
    ⟨"", false⟩

end SortField

namespace GroupLevel

def decoder : Decoder GroupLevel :=
  .record "GroupInfo"
    [ .mandatory "selector" .string fun v s => { s with selector := v },
      .optional "desc" (.orDefault false .bool) fun v s => { s with desc := v },
      .optional "isExpanded" (.orDefault false .bool) fun v s => { s with isExpanded := v },
      .optional "groupInterval" (.nullable GroupInterval.decoder)
        fun v s => { s with interval := v } ]
    ⟨"", false, false, none⟩

end GroupLevel

namespace SummaryKind

def all : List SummaryKind := [sum, avg, min, max, count, other]

def name : SummaryKind → String
  | sum => "sum"
  | avg => "avg"
  | min => "min"
  | max => "max"
  | count => "count"
  | other => "other"

/-- An unknown name is another kind. -/
def ofName (name : String) : SummaryKind := (all.find? fun kind => kind.name = name).getD other

def decoder : Decoder SummaryKind := .map ofName .name

end SummaryKind

namespace Summary

def decoder : Decoder Summary :=
  .record "SummaryInfo"
    [ .optional "selector" (.orDefault "" .string) fun v s => { s with selector := v },
      .mandatory "summaryType" SummaryKind.decoder fun v s => { s with kind := v } ]
    ⟨"", .other⟩

end Summary

namespace SearchFields

/-- A list of strings and nothing else. -/
def strings? : List Json → Option (List String)
  | [] => some []
  | .string s :: rest => (strings? rest).map (s :: ·)
  | _ :: _ => none

def ofJson? : Json → Option SearchFields
  | .string s => some (single s)
  | .array items => (strings? items).map many
  | _ => none

def decoder : Decoder SearchFields := .firstOf "SearchExpr" [ofJson?]

end SearchFields

namespace LoadOptions

/-- The fields of a request, in their order. -/
def fields : List (RecordField LoadOptions) :=
  [ .optional "filter" (.nullable .json) fun v o => { o with filter := v },
    .optional "searchExpr" (.nullable SearchFields.decoder)
      fun v o => { o with searchFields := v },
    .optional "searchOperation" (.nullable .string) fun v o => { o with searchOperation := v },
    .optional "searchValue" (.nullable .json) fun v o => { o with searchValue := v },
    .optional "sort" (.orDefault [] (.list SortField.decoder)) fun v o => { o with sort := v },
    .optional "group" (.orDefault [] (.list GroupLevel.decoder)) fun v o => { o with group := v },
    .optional "groupSummary" (.orDefault [] (.list Summary.decoder))
      fun v o => { o with groupSummary := v },
    .optional "totalSummary" (.orDefault [] (.list Summary.decoder))
      fun v o => { o with totalSummary := v },
    .optional "select" (.orDefault [] (.list .string)) fun v o => { o with select := v },
    .optional "skip" (.orDefault 0 .uint64) fun v o => { o with skip := v },
    .optional "take" (.orDefault 0 .uint64) fun v o => { o with take := v },
    .optional "requireGroupCount" (.orDefault false .bool)
      fun v o => { o with requireGroupCount := v },
    .optional "requireTotalCount" (.orDefault false .bool)
      fun v o => { o with requireTotalCount := v } ]

def decoder : Decoder LoadOptions := .record "LoadOptions" fields {}

/-- The request that a text holds (`from_json`). -/
def ofText (text : String) : Except DecodeError LoadOptions := decodeText decoder text

/-- The request that a value holds (`from_value`). -/
def ofValue (value : Json) : Except DecodeError LoadOptions := decodeValue decoder value

end LoadOptions

/-! ## Encoding -/

def SortField.toJson (s : SortField) : Json :=
  .object [("selector", .string s.selector), ("desc", .bool s.desc)]

/-- The interval is left out when there is none. -/
def GroupLevel.toJson (g : GroupLevel) : Json :=
  .object <|
    [("selector", .string g.selector), ("desc", .bool g.desc),
      ("isExpanded", .bool g.isExpanded)] ++
      (g.interval.map fun i => ("groupInterval", i.toJson)).toList

def Summary.toJson (s : Summary) : Json :=
  .object [("selector", .string s.selector), ("summaryType", .string s.kind.name)]

def SearchFields.toJson : SearchFields → Json
  | single field => .string field
  | many fields => .array (fields.map .string)

/-- The request with every part; an absent part is null. -/
def LoadOptions.toJson (o : LoadOptions) : Json :=
  .object
    [ ("filter", o.filter.getD .null),
      ("searchExpr", (o.searchFields.map SearchFields.toJson).getD .null),
      ("searchOperation", (o.searchOperation.map Json.string).getD .null),
      ("searchValue", o.searchValue.getD .null),
      ("sort", .array (o.sort.map SortField.toJson)),
      ("group", .array (o.group.map GroupLevel.toJson)),
      ("groupSummary", .array (o.groupSummary.map Summary.toJson)),
      ("totalSummary", .array (o.totalSummary.map Summary.toJson)),
      ("select", .array (o.select.map .string)),
      ("skip", .ofUInt64 o.skip),
      ("take", .ofUInt64 o.take),
      ("requireGroupCount", .bool o.requireGroupCount),
      ("requireTotalCount", .bool o.requireTotalCount) ]

end GridQuery
