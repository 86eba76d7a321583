import GridQuery.Collection.Basic
import GridQuery.Engine.Session
import GridQuery.Pipeline.Filtering
import GridQuery.Pipeline.Grouping
import GridQuery.Response.Basic

/-!
# The engine

Answers load options by pipelines. A flat request is one pipeline for its rows. A grouped request
is one pipeline for each list of groups; the groups inside a group come from a pipeline that is
narrowed to it. Both may ask for totals.

* `Engine.queryRows`: the rows of a flat request.
* `Engine.queryGroups`: the groups of a level and of those inside it.
* `Engine.query`: the response, with counters and log records about the request as a whole.
-/

namespace GridQuery

/-- An engine: where pipelines run, its configuration, and what becomes of identifiers in rows
    (`QueryEngine`). -/
structure Engine where
  runner : Runner
  config : Config := {}
  normalizer : Json → Json := plainIdentifier

namespace Engine

/-! ## Stages of a request -/

/-- A row as the response shows it (`QueryContext::normalize`). -/
def shownRow (e : Engine) (row : Json) : Json :=
  if e.config.normalizeIdentifiers then e.normalizer row else row

/-- The stages for search and filter, which come first in every pipeline of a request
    (`QueryContext::filter_stages`). -/
def filterStages (e : Engine) (o : LoadOptions) : Pipeline :=
  Pipeline.searchStages o.searchFields o.searchOperation o.searchValue e.config.timezoneOffset ++
    (match o.filter with
    | some filter => Pipeline.filterStages filter e.config.timezoneOffset
    | none => [])

/-- A filter that becomes no predicate is reported. -/
def reportFilter (o : LoadOptions) : Step Unit :=
  match o.filter with
  | some filter =>
    if (CompiledFilter.ofJson filter).predicate.isNone then
      Step.record (Event.filterDiscarded.record [("filter", filter.text)])
    else pure ()
  | none => pure ()

/-- The stages that group at a level (`QueryContext::grouping`). -/
def groupingStages (e : Engine) (g : GroupLevel) (level : Nat) (includeItems countSeparately : Bool)
    (projection : Option Json) : Pipeline :=
  Pipeline.groupingStages g.desc includeItems countSeparately
    (Pipeline.groupKey g.selector g.interval level e.config.timezoneOffset) projection

/-- The stages that narrow to one group of a level (`QueryContext::narrowing`). -/
def narrowingStages (e : Engine) (g : GroupLevel) (level : Nat) (key : Json) : Pipeline :=
  Pipeline.narrowingStages g.selector g.interval level e.config.timezoneOffset key

/-! ## Totals -/

/-- Total count and total summary, if they are asked for; nothing is summarized without documents
    (`QueryEngine::totals`). -/
def addTotals (e : Engine) (o : LoadOptions) (r : Response) : Step Response := do
  if !o.totalsRequired then return r
  let total ← Step.count e.runner (filterStages e o ++ Pipeline.countStages)
  let counted := { r with totalCount := some total }
  if 0 < total && !o.totalSummary.isEmpty then
    let values ← Step.summarize e.runner o.totalSummary
      (filterStages e o ++ Pipeline.summaryStages o.totalSummary)
    return { counted with summary := some values }
  return counted

/-! ## Rows -/

/-- The pipeline of a flat request. -/
def rowsPipeline (e : Engine) (o : LoadOptions) : Pipeline :=
  filterStages e o ++ Pipeline.sortStages o.sort ++ Pipeline.pagingStages o.skip o.take ++
    Pipeline.selectStages o.select

/-- The response to a flat request (`query_flat`). -/
def queryRows (e : Engine) (o : LoadOptions) : Step Response := do
  reportFilter o
  let rows ← Step.execute e.runner (rowsPipeline e o)
  addTotals e o { data := .rows (rows.map (shownRow e)) }

/-! ## Groups -/

/-- The pipeline for the groups of a level inside a scope. Rows are sorted first of all. -/
def levelPipeline (e : Engine) (o : LoadOptions) (g : GroupLevel) (level : Nat) (last : Bool)
    (paging scope : Pipeline) : Pipeline :=
  let withRows := last && g.isExpanded
  (if withRows then Pipeline.sortStages o.sort else []) ++ filterStages e o ++ scope ++
    groupingStages e g level withRows (!last) (Pipeline.selectProjection o.select true) ++ paging

/-- The summary of a group, as far as the budget goes. -/
def addSummary (e : Engine) (o : LoadOptions) (inside : Json → Pipeline) (group : Group) :
    Step Group := do
  if ← Step.acquireSummary then
    let values ← Step.summarize e.runner o.groupSummary
      (filterStages e o ++ inside group.key ++ Pipeline.summaryStages o.groupSummary)
    return group.withSummary values
  else
    Step.measure Metrics.addSkippedSummary
    return group

/-- The groups that a pipeline answers. -/
def fetchGroups (e : Engine) (level : Nat) (pipeline : Pipeline) : Step (List Group) := do
  let docs ← Step.execute e.runner pipeline
  let groups ← Step.checked (docs.mapM Group.ofJson)
  Step.record (Event.groupLevelQueried.record
    [("groups", toString groups.length), ("level", toString level)])
  Step.measure (Metrics.addGroups (UInt64.ofNat groups.length))
  return groups

/-- The groups of a level, given with the levels inside it, within the documents of a scope
    (`GroupQuery::query_level`). The groups inside a group are read if it is expanded or if
    collapsed groups are read too, and counted otherwise. -/
def queryGroups (e : Engine) (o : LoadOptions) :
    (levels : List GroupLevel) → (level : Nat) → (paging scope : Pipeline) → Step (List Group)
  | [], _, _, _ => throw .aborted
  | g :: inner, level, paging, scope => do
    let inside (key : Json) : Pipeline := scope ++ narrowingStages e g level key
    let found ← fetchGroups e level (levelPipeline e o g level inner.isEmpty paging scope)
    let groups ←
      match inner with
      | [] =>
        pure <|
          if g.isExpanded then
            found.map (Group.mapRows fun row => shownRow e (Pipeline.stripKeys row))
          else found
      | next :: _ =>
        if e.config.materializeCollapsedGroups || g.isExpanded then
          found.mapM fun group => do
            return group.withGroups
              (← queryGroups e o inner (level + 1) [] (inside group.key))
        else
          found.mapM fun group => do
            return group.withCount (← Step.count e.runner
              (filterStages e o ++ inside group.key ++
                groupingStages e next (level + 1) false true none ++ Pipeline.countStages))
    if o.groupSummary.isEmpty then return groups
    groups.mapM (addSummary e o inside)

/-- The number of groups of the first level, if it is asked for. -/
def addGroupCount (e : Engine) (o : LoadOptions) (r : Response) : Step Response :=
  match o.group with
  | g :: _ =>
    if o.requireGroupCount then do
      let n ← Step.count e.runner
        (filterStages e o ++ groupingStages e g 0 false false none ++ Pipeline.countStages)
      return { r with groupCount := some n }
    else return r
  | [] => return r

/-- The response to a grouped request (`query_grouped`). -/
def queryGrouped (e : Engine) (o : LoadOptions) : Step Response := do
  reportFilter o
  Step.change fun s => { s with budget := { limit := e.config.summaryLimit } }
  let groups ← queryGroups e o o.group 0 (Pipeline.pagingStages o.skip o.take) []
  let counted ← addGroupCount e o { data := .groups groups }
  addTotals e o counted

/-! ## Requests -/

/-- What is reported about a request from its start to its end. -/
def scope (o : LoadOptions) : Scope :=
  ⟨"QUERY", [("mode", if o.isGrouped then "grouped" else "flat")]⟩

/-- The response to load options, and the session after it (`QueryEngine::query`). -/
def query (e : Engine) (o : LoadOptions) (s : Session) : Except Failure Response × Session :=
  let request := scope o
  let started := (s.measure Metrics.addRequest).write request.began
  let (outcome, s) := (if o.isGrouped then queryGrouped e o else queryRows e o).outcome started
  match outcome with
  | .ok r => (.ok r, s.write request.completed)
  | .error (.error problem) =>
    (.error (.error problem),
      (s.measure Metrics.addFailure).write (request.failed problem.code problem.message))
  | .error .aborted => (.error .aborted, s.write request.abandoned)

end Engine

/-! ## Runners -/

namespace Runner

/-- Runs every pipeline on a collection (`MemoryStore::run`). -/
def ofCollection (c : Collection) : Runner where
  answer _ pipeline := (c.aggregate pipeline).mapError .ofFault

/-- Gives prepared answers one after the other, and no documents after the last of them. -/
def ofAnswers (answers : List (Except Failure (List Json))) : Runner where
  answer before _ := (answers[before.length]?).getD (.ok [])

end Runner

end GridQuery
