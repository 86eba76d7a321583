import Mathlib
import GridQuery.Proofs.StageNames

/-!
# The questions of a request

A request asks a few kinds of questions, each by a pipeline of its own: for rows, for the groups
inside a group, for how many they are, for a summary. Each pipeline filters first, then narrows to
one group by the keys on the way to it, and then asks.

Results:
* `Question.pipeline`: the pipeline of a question.
* `Question.unpaged`: only a question that opens a request skips or limits.
* `Question.endsIn_count`, `Question.reduces_eq`: the last stage shows what is asked.
-/

namespace GridQuery

/-! ## Ways to a group -/

/-- The way to a group: the level and the key of each group on it, the outermost first. -/
abbrev GroupPath := List (GroupLevel × Json)

/-- The stages that narrow to the groups on a way, one after the other. -/
def Engine.scopeOf (e : Engine) (path : GroupPath) : Pipeline :=
  path.zipIdx.flatMap fun (step, level) => e.narrowingStages step.1 level step.2

theorem Engine.scopeOf_append (e : Engine) (path : GroupPath) (g : GroupLevel) (key : Json) :
    e.scopeOf (path ++ [(g, key)]) = e.scopeOf path ++ e.narrowingStages g path.length key := by
  rw [scopeOf, List.zipIdx_append, List.flatMap_append, Nat.zero_add]
  simp [scopeOf]

/-! ## Questions -/

/-- What a pipeline of a request asks for. -/
inductive Question where
  /-- The rows of a flat request. -/
  | rows
  /-- The groups of a level inside the group at the end of a way, and whether the level is the
      last one. -/
  | groups (path : GroupPath) (level : GroupLevel) (last : Bool)
  /-- The number of groups of the next level inside a group. -/
  | innerCount (path : GroupPath) (next : GroupLevel)
  /-- The summary of a group. -/
  | groupSummary (path : GroupPath)
  /-- The number of groups of the first level. -/
  | groupCount (first : GroupLevel)
  /-- The number of all documents. -/
  | totalCount
  /-- The summary of all documents. -/
  | totalSummary

namespace Question

/-- The way to the group that is asked about. -/
def path : Question → GroupPath
  | groups path _ _ | innerCount path _ | groupSummary path => path
  | rows | groupCount _ | totalCount | totalSummary => []

/-- The rows of groups are sorted before anything else. -/
def sortsFirst : Question → Bool
  | groups _ g last => last && g.isExpanded
  | _ => false

/-- A request opens with its rows or with the groups of the first level. -/
def opens : Question → Bool
  | rows => true
  | groups path _ _ => path.isEmpty
  | _ => false

def isCount : Question → Bool
  | innerCount _ _ | groupCount _ | totalCount => true
  | _ => false

def isSummary : Question → Bool
  | groupSummary _ | totalSummary => true
  | _ => false

theorem isSummary_of_isCount {q : Question} (h : q.isCount = true) : q.isSummary = false := by
  cases q with
  | innerCount _ _ | groupCount _ | totalCount => rfl
  | rows | groups _ _ _ | groupSummary _ | totalSummary => cases h

theorem isCount_of_isSummary {q : Question} (h : q.isSummary = true) : q.isCount = false := by
  rw [← Bool.not_eq_true]
  intro hcount
  rw [isSummary_of_isCount hcount] at h
  cases h

variable (e : Engine) (o : LoadOptions)

/-- The stages behind the scope, without the page of groups. -/
def body : Question → Pipeline
  | rows =>
    Pipeline.sortStages o.sort ++ Pipeline.pagingStages o.skip o.take ++
      Pipeline.selectStages o.select
  | groups path g last =>
    e.groupingStages g path.length (last && g.isExpanded) (!last)
      (Pipeline.selectProjection o.select true)
  | innerCount path next =>
    e.groupingStages next path.length false true none ++ Pipeline.countStages
  | groupSummary _ => Pipeline.summaryStages o.groupSummary
  | groupCount first => e.groupingStages first 0 false false none ++ Pipeline.countStages
  | totalCount => Pipeline.countStages
  | totalSummary => Pipeline.summaryStages o.totalSummary

/-- The groups of the first level come by pages. -/
def page : Question → Pipeline
  | groups [] _ _ => Pipeline.pagingStages o.skip o.take
  | _ => []

/-- The pipeline of a question. -/
def pipeline (q : Question) : Pipeline :=
  (if q.sortsFirst then Pipeline.sortStages o.sort else []) ++ e.filterStages o ++
    e.scopeOf q.path ++ q.body e o ++ q.page o

/-- The question fits a request: its way goes down the levels of the request, and what it asks for
    is asked for. -/
def Fits : Question → Prop
  | rows => o.group = []
  | groups path g last =>
    ∃ inner, o.group = path.map Prod.fst ++ g :: inner ∧ last = inner.isEmpty
  | innerCount path next => path ≠ [] ∧ ∃ inner, o.group = path.map Prod.fst ++ next :: inner
  | groupSummary path => path ≠ [] ∧ o.groupSummary ≠ [] ∧ path.map Prod.fst <+: o.group
  | groupCount first => ∃ inner, o.group = first :: inner
  | totalCount => True
  | totalSummary => o.totalSummary ≠ []

/-! ## Their pipelines -/

section Pipelines

variable {e o}

theorem pipeline_rows : rows.pipeline e o = e.rowsPipeline o := by
  simp [pipeline, Engine.rowsPipeline, sortsFirst, path, body, page, Engine.scopeOf]

theorem pipeline_groups (path : GroupPath) (g : GroupLevel) (last : Bool) :
    (groups path g last).pipeline e o =
      e.levelPipeline o g path.length last ((groups path g last).page o) (e.scopeOf path) :=
  rfl

theorem pipeline_innerCount (path : GroupPath) (next : GroupLevel) :
    (innerCount path next).pipeline e o =
      e.countPipeline o next path.length (e.scopeOf path) := by
  simp [pipeline, Engine.countPipeline, sortsFirst, Question.path, body, page]

theorem pipeline_groupSummary (path : GroupPath) :
    (groupSummary path).pipeline e o =
      e.filterStages o ++ e.scopeOf path ++ Pipeline.summaryStages o.groupSummary := by
  simp [pipeline, sortsFirst, Question.path, body, page]

theorem pipeline_groupCount (first : GroupLevel) :
    (groupCount first).pipeline e o =
      e.filterStages o ++ e.groupingStages first 0 false false none ++ Pipeline.countStages := by
  simp [pipeline, sortsFirst, path, body, page, Engine.scopeOf]

theorem pipeline_totalCount :
    totalCount.pipeline e o = e.filterStages o ++ Pipeline.countStages := by
  simp [pipeline, sortsFirst, path, body, page, Engine.scopeOf]

theorem pipeline_totalSummary :
    totalSummary.pipeline e o = e.filterStages o ++ Pipeline.summaryStages o.totalSummary := by
  simp [pipeline, sortsFirst, path, body, page, Engine.scopeOf]

end Pipelines

end Question

/-! ## Pages -/

open Pipeline (Uses)

/-- No stage skips or limits documents. -/
def Pipeline.IsUnpaged (p : Pipeline) : Prop :=
  p.hasStage "$skip" = false ∧ p.hasStage "$limit" = false

/-- The names of the stages that ask for something about all documents that come. -/
def Pipeline.askingNames : List String :=
  ["$addFields", "$project", "$sort", "$group", "$count"]

/-- The names of the stages that neither skip nor limit. -/
def Pipeline.unpagedNames : List String := "$match" :: askingNames

theorem Pipeline.Uses.isUnpaged {p : Pipeline} (h : p.Uses Pipeline.unpagedNames) : p.IsUnpaged :=
  ⟨h.hasStage (by decide), h.hasStage (by decide)⟩

section Names

variable {e : Engine} {o : LoadOptions}

theorem uses_scopeOf (path : GroupPath) : Uses ["$addFields", "$match"] (e.scopeOf path) :=
  .flatMap fun _ _ => uses_narrowingStages e _ _ _

namespace Question

/-- Rows come by pages, and what asks for anything else takes all documents that come. -/
theorem uses_body {q : Question} (h : q ≠ rows) : Uses Pipeline.askingNames (q.body e o) := by
  have hlevel : ∀ g level includeItems countSeparately projection, Uses Pipeline.askingNames
      (e.groupingStages g level includeItems countSeparately projection) :=
    fun g level includeItems countSeparately projection =>
      (uses_groupingStages e g level includeItems countSeparately projection).mono (by decide)
  have hcount : Uses Pipeline.askingNames Pipeline.countStages :=
    Pipeline.uses_countStages.mono (by decide)
  have hsummary : ∀ summaries, Uses Pipeline.askingNames (Pipeline.summaryStages summaries) :=
    fun summaries => (Pipeline.uses_summaryStages summaries).mono (by decide)
  cases q with
  | rows => exact absurd rfl h
  | groups path g last => exact hlevel _ _ _ _ _
  | innerCount path next => exact (hlevel _ _ _ _ _).append hcount
  | groupSummary path => exact hsummary _
  | groupCount first => exact (hlevel _ _ _ _ _).append hcount
  | totalCount => exact hcount
  | totalSummary => exact hsummary _

/-- Nothing is skipped or limited before the page of a question. -/
theorem unpaged {q : Question} (h : q ≠ rows) :
    Pipeline.IsUnpaged ((if q.sortsFirst then Pipeline.sortStages o.sort else []) ++
      e.filterStages o ++ e.scopeOf q.path ++ q.body e o) := by
  have hsort : Uses Pipeline.unpagedNames
      (if q.sortsFirst then Pipeline.sortStages o.sort else []) := by
    split_ifs
    · exact (Pipeline.uses_sortStages _).mono (by decide)
    · exact .nil
  have hfilter : Uses Pipeline.unpagedNames (e.filterStages o) :=
    (uses_filterStages e o).mono (by decide)
  have hscope : Uses Pipeline.unpagedNames (e.scopeOf q.path) :=
    (uses_scopeOf q.path).mono (by decide)
  exact (((hsort.append hfilter).append hscope).append ((uses_body h).mono (by decide))).isUnpaged

/-- A question that does not open a request has no page. -/
theorem page_of_not_opens {q : Question} (h : q.opens = false) : q.page o = [] := by
  unfold page
  split
  · cases h
  · rfl

theorem page_eq_pagingStages (q : Question) :
    ∃ skip take, q.page o = Pipeline.pagingStages skip take := by
  unfold page
  split
  · exact ⟨o.skip, o.take, rfl⟩
  · exact ⟨0, 0, rfl⟩

/-- Behind the scope of a question nothing is matched any more. -/
theorem matchesNothing {q : Question} (h : q ≠ rows) :
    (q.body e o ++ q.page o).hasStage "$match" = false := by
  obtain ⟨skip, take, hpage⟩ := page_eq_pagingStages (o := o) q
  have hused : Uses (Pipeline.askingNames ++ ["$skip", "$limit"]) (q.body e o ++ q.page o) := by
    rw [hpage]
    exact ((uses_body h).mono (by decide)).append
      ((Pipeline.uses_pagingStages skip take).mono (by decide))
  exact hused.hasStage (by decide)

/-! ## Last stages -/

/-- The pipeline of a flat request computes, matches, sorts, pages and selects. -/
theorem uses_rows : Uses ["$addFields", "$match", "$project", "$sort", "$skip", "$limit"]
    (e.rowsPipeline o) :=
  ((((uses_filterStages e o).mono (by decide)).append
    ((Pipeline.uses_sortStages _).mono (by decide))).append
    ((Pipeline.uses_pagingStages _ _).mono (by decide))).append
    ((Pipeline.uses_selectStages _).mono (by decide))

/-- The pipelines that ask for rows or groups end neither with a count nor with a reduction. -/
theorem endsIn_data {q : Question} (hcount : q.isCount = false) (hsummary : q.isSummary = false)
    {name : String} (hname : name = "$count" ∨ name = "$group") :
    (q.pipeline e o).endsIn name = false := by
  cases q with
  | rows =>
    rw [pipeline_rows]
    refine uses_rows.endsIn ?_
    rcases hname with rfl | rfl <;> decide
  | groups path g last =>
    obtain ⟨skip, take, hpage⟩ := page_eq_pagingStages (o := o) (groups path g last)
    rw [pipeline_groups, hpage]
    exact endsIn_levelPipeline g path.length last skip take (e.scopeOf path) hname
  | groupSummary _ | totalSummary => cases hsummary
  | innerCount _ _ | groupCount _ | totalCount => cases hcount

/-- What counts ends with the stage for it. -/
theorem exists_countStages {q : Question} (h : q.isCount = true) :
    ∃ p, q.pipeline e o = p ++ Pipeline.countStages := by
  cases q with
  | innerCount path next => exact ⟨_, pipeline_innerCount path next⟩
  | groupCount first => exact ⟨_, pipeline_groupCount first⟩
  | totalCount => exact ⟨_, pipeline_totalCount⟩
  | rows | groups _ _ _ | groupSummary _ | totalSummary => cases h

/-- What summarizes ends with the reduction. -/
theorem exists_summaryStages {q : Question} (hfits : q.Fits o) (h : q.isSummary = true) :
    ∃ p summaries, q.pipeline e o = p ++ Pipeline.summaryStages summaries ∧ summaries ≠ [] := by
  cases q with
  | groupSummary path => exact ⟨_, _, pipeline_groupSummary path, hfits.2.1⟩
  | totalSummary => exact ⟨_, _, pipeline_totalSummary, hfits⟩
  | rows | groups _ _ _ | innerCount _ _ | groupCount _ | totalCount => cases h

/-- The last stage counts exactly if a count is asked for. -/
theorem endsIn_count {q : Question} (hfits : q.Fits o) :
    (q.pipeline e o).endsIn "$count" = q.isCount := by
  cases hcount : q.isCount with
  | true =>
    obtain ⟨p, hp⟩ := exists_countStages (e := e) (o := o) hcount
    rw [hp, Pipeline.endsIn_append (by simp [Pipeline.countStages])]
    decide
  | false =>
    cases hsummary : q.isSummary with
    | false => exact endsIn_data hcount hsummary (.inl rfl)
    | true =>
      obtain ⟨p, summaries, hp, hne⟩ := exists_summaryStages (e := e) hfits hsummary
      rw [hp, summaryStages_of_ne_nil hne]
      exact Pipeline.endsIn_single (by decide) p _

/-- The last stage reduces all documents to one exactly if a summary is asked for. -/
theorem reduces_eq {q : Question} (hfits : q.Fits o) :
    (q.pipeline e o).reduces = q.isSummary := by
  cases hsummary : q.isSummary with
  | true =>
    obtain ⟨p, summaries, hp, hne⟩ := exists_summaryStages (e := e) hfits hsummary
    rw [hp]
    exact reduces_summaryStages hne p
  | false =>
    refine Pipeline.reduces_of_endsIn ?_
    cases hcount : q.isCount with
    | false => exact endsIn_data hcount hsummary (.inr rfl)
    | true =>
      obtain ⟨p, hp⟩ := exists_countStages (e := e) (o := o) hcount
      rw [hp]
      exact Pipeline.endsIn_single (by decide) p _

end Question

end Names

end GridQuery
