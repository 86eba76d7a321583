import Mathlib
import GridQuery.Proofs.GroupTrees
import GridQuery.Proofs.Steps

/-!
# The levels of a grouped request

The groups of a level are fetched, then each of them is filled with what is inside it, and then
each is summarized. What fills a group depends on the level and not on the other groups.

Results:
* `Engine.fillGroup`, `Engine.summarizeGroup`: what becomes of one group.
* `Engine.queryGroups_cons`: a level goes through its groups twice.
* `Engine.queryGroups_yields`, `Engine.fillGroup_yields`: what the groups of a level come from.
* `Engine.query_eq`: a request comes to what its steps come to.
* `Engine.data_of_totals`: counting leaves the groups alone.
-/

namespace GridQuery.Engine

variable (e : Engine) (o : LoadOptions)

/-- Whether the groups inside the groups of a level are read, and not only counted. -/
def opens (g : GroupLevel) : Bool := e.config.materializeCollapsedGroups || g.isExpanded

/-- The pipeline that counts the groups of a level inside a group. -/
def countPipeline (next : GroupLevel) (level : Nat) (narrowed : Pipeline) : Pipeline :=
  e.filterStages o ++ narrowed ++ e.groupingStages next level false true none ++
    Pipeline.countStages

/-- Fills a group of a level, given with the levels inside it and what narrows to the group. -/
def fillGroup (g : GroupLevel) (inner : List GroupLevel) (level : Nat) (narrowed : Pipeline)
    (group : Group) : Step Group :=
  match inner with
  | [] =>
    return if g.isExpanded then group.mapRows fun row => e.shownRow (Pipeline.stripKeys row)
      else group
  | next :: _ =>
    if e.opens g then do
      return group.withGroups (← e.queryGroups o inner (level + 1) [] narrowed)
    else do
      return group.withCount (← Step.count e.runner (e.countPipeline o next (level + 1) narrowed))

/-- Summarizes a group if summaries are asked for. -/
def summarizeGroup (inside : Json → Pipeline) (group : Group) : Step Group :=
  if o.groupSummary.isEmpty then return group else e.addSummary o inside group

/-- A level goes through its groups twice: first they are filled, then they are summarized. -/
theorem queryGroups_cons (g : GroupLevel) (inner : List GroupLevel) (level : Nat)
    (paging scope : Pipeline) :
    e.queryGroups o (g :: inner) level paging scope = (do
      let found ← e.fetchGroups level (e.levelPipeline o g level inner.isEmpty paging scope)
      let filled ← found.mapM fun group =>
        e.fillGroup o g inner level (scope ++ e.narrowingStages g level group.key) group
      filled.mapM (e.summarizeGroup o fun key => scope ++ e.narrowingStages g level key)) := by
  have hsummarized : ∀ groups : List Group,
      groups.mapM (e.summarizeGroup o fun key => scope ++ e.narrowingStages g level key) =
        if o.groupSummary.isEmpty then pure groups
        else groups.mapM (e.addSummary o fun key => scope ++ e.narrowingStages g level key) := by
    intro groups
    unfold summarizeGroup
    split_ifs
    · rw [List.mapM_pure, List.map_id']
    · rfl
  rw [queryGroups]
  refine bind_congr fun found => ?_
  simp only [hsummarized]
  cases inner with
  | nil =>
    simp only [fillGroup, List.mapM_pure]
    split_ifs <;> simp
  | cons next inner =>
    have hopens : (e.config.materializeCollapsedGroups || g.isExpanded) = e.opens g := rfl
    cases hopen : e.opens g with
    | true => simp only [fillGroup, hopens, hopen, if_true]
    | false =>
      simp only [fillGroup, hopens, hopen, Bool.false_eq_true, if_false]
      rfl

/-! ## What a level yields -/

section Yields

variable {e o} {g : GroupLevel} {inner : List GroupLevel} {level : Nat} {group out : Group}

/-- The groups of a level come from those that are fetched, one from each. -/
theorem queryGroups_yields {paging scope : Pipeline} {groups : List Group}
    (h : Step.Yields (e.queryGroups o (g :: inner) level paging scope) groups) :
    ∃ found filled,
      Step.Yields (e.fetchGroups level (e.levelPipeline o g level inner.isEmpty paging scope))
        found ∧
      List.Forall₂ (fun group out => Step.Yields (e.fillGroup o g inner level
        (scope ++ e.narrowingStages g level group.key) group) out) found filled ∧
      List.Forall₂ (fun group out => Step.Yields (e.summarizeGroup o
        (fun key => scope ++ e.narrowingStages g level key) group) out) filled groups := by
  rw [queryGroups_cons] at h
  obtain ⟨found, hfound, h⟩ := h.bind
  obtain ⟨filled, hfilled, h⟩ := h.bind
  exact ⟨found, filled, hfound, hfilled.mapM, h.mapM⟩

/-- The groups that are fetched have neither summaries nor groups inside them. -/
theorem fetchGroups_bare {p : Pipeline} {found : List Group}
    (h : Step.Yields (e.fetchGroups level p) found) :
    ∀ group ∈ found, group.summary = none ∧ group.groups? = none := by
  obtain ⟨docs, -, h⟩ := h.bind
  obtain ⟨groups, hgroups, h⟩ := h.bind
  obtain ⟨_, -, h⟩ := h.bind
  obtain ⟨_, -, h⟩ := h.bind
  obtain rfl := h.pure
  intro group hgroup
  obtain ⟨doc, -, hdoc⟩ := exists_of_mem_right (mapM_eq_ok.mp hgroups.checked) hgroup
  exact Group.bare_of_ofJson hdoc

/-- There are no groups of no levels. -/
theorem not_yields_nil {paging scope : Pipeline} {groups : List Group} :
    ¬ Step.Yields (e.queryGroups o [] level paging scope) groups := by
  rintro ⟨s, s', h⟩
  cases h

/-- What becomes of a group that is filled. At the last level its rows are shown if they have been
    fetched, at the other levels the groups inside it are read or counted. -/
inductive Filled (e : Engine) (o : LoadOptions) (g : GroupLevel) (level : Nat)
    (narrowed : Pipeline) (group : Group) : List GroupLevel → Group → Prop
  | shown (hexpanded : g.isExpanded = true) :
      Filled e o g level narrowed group []
        (group.mapRows fun row => e.shownRow (Pipeline.stripKeys row))
  | kept (hcollapsed : g.isExpanded = false) : Filled e o g level narrowed group [] group
  | opened {next : GroupLevel} {rest : List GroupLevel} {sub : List Group}
      (hopen : e.opens g = true)
      (hsub : Step.Yields (e.queryGroups o (next :: rest) (level + 1) [] narrowed) sub) :
      Filled e o g level narrowed group (next :: rest) (group.withGroups sub)
  | closed {next : GroupLevel} {rest : List GroupLevel} {n : UInt64}
      (hclosed : e.opens g = false) :
      Filled e o g level narrowed group (next :: rest) (group.withCount n)

/-- A group is filled in one of these ways. -/
theorem fillGroup_yields {narrowed : Pipeline}
    (h : Step.Yields (e.fillGroup o g inner level narrowed group) out) :
    e.Filled o g level narrowed group inner out := by
  cases inner with
  | nil =>
    rw [show out = _ from h.pure]
    cases hexpanded : g.isExpanded with
    | true => exact .shown hexpanded
    | false => exact .kept hexpanded
  | cons next rest =>
    rw [fillGroup] at h
    cases hopen : e.opens g with
    | true =>
      rw [if_pos hopen] at h
      obtain ⟨sub, hsub, h⟩ := h.bind
      rw [h.pure]
      exact .opened hopen hsub
    | false =>
      rw [if_neg (by simp [hopen])] at h
      obtain ⟨n, -, h⟩ := h.bind
      rw [h.pure]
      exact .closed hopen

theorem fillGroup_last {narrowed : Pipeline}
    (h : Step.Yields (e.fillGroup o g [] level narrowed group) out) :
    out = if g.isExpanded then group.mapRows fun row => e.shownRow (Pipeline.stripKeys row)
      else group :=
  h.pure

/-- The groups inside a group that is opened are read. -/
theorem fillGroup_open (hinner : inner ≠ []) (hopen : e.opens g = true) {narrowed : Pipeline}
    (h : Step.Yields (e.fillGroup o g inner level narrowed group) out) :
    ∃ sub, Step.Yields (e.queryGroups o inner (level + 1) [] narrowed) sub ∧
      out = group.withGroups sub := by
  cases fillGroup_yields h with
  | shown | kept => exact absurd rfl hinner
  | opened _ hsub => exact ⟨_, hsub, rfl⟩
  | closed hclosed =>
    rw [hclosed] at hopen
    cases hopen

/-- What fills a group leaves its summary alone. -/
theorem Filled.summary_eq {narrowed : Pipeline}
    (h : e.Filled o g level narrowed group inner out) : out.summary = group.summary := by
  cases h with
  | shown => exact Group.summary_mapRows _ _
  | kept | opened | closed => rfl

/-- What fills a group leaves its key alone. -/
theorem Filled.key_eq {narrowed : Pipeline}
    (h : e.Filled o g level narrowed group inner out) : out.key = group.key := by
  cases h with
  | shown => exact Group.key_mapRows _ _
  | kept | opened | closed => rfl

/-- A group stays as it is or is given the values of its summary. -/
theorem summarizeGroup_cases {inside : Json → Pipeline}
    (h : Step.Yields (e.summarizeGroup o inside group) out) :
    out = group ∨ ∃ values, out = group.withSummary values ∧
      Step.Yields (Step.summarize e.runner o.groupSummary
        (e.filterStages o ++ inside group.key ++ Pipeline.summaryStages o.groupSummary))
        values := by
  unfold summarizeGroup at h
  split_ifs at h
  · exact Or.inl h.pure
  · obtain ⟨granted, -, h⟩ := h.bind
    cases granted with
    | true =>
      obtain ⟨values, hvalues, h⟩ := h.bind
      exact Or.inr ⟨values, h.pure, hvalues⟩
    | false =>
      obtain ⟨_, -, h⟩ := h.bind
      exact Or.inl h.pure

/-- A summary changes nothing but the summary of a group. -/
theorem summarizeGroup_yields {inside : Json → Pipeline}
    (h : Step.Yields (e.summarizeGroup o inside group) out) :
    out.items = group.items ∧ out.count = group.count ∧
      (out.summary = group.summary ∨ ∃ values, out.summary = some values ∧
        Step.Yields (Step.summarize e.runner o.groupSummary
          (e.filterStages o ++ inside group.key ++ Pipeline.summaryStages o.groupSummary))
          values) := by
  rcases summarizeGroup_cases h with rfl | ⟨values, rfl, hvalues⟩
  · exact ⟨rfl, rfl, Or.inl rfl⟩
  · exact ⟨rfl, rfl, Or.inr ⟨values, rfl, hvalues⟩⟩

/-- A group of a level has been fetched and filled. Its summary has left its items and its count
    alone. -/
theorem mem_queryGroups {scope : Pipeline} {inside : Json → Pipeline}
    {found filled groups : List Group}
    (hfilled : List.Forall₂ (fun group out => Step.Yields (e.fillGroup o g inner level
      (scope ++ e.narrowingStages g level group.key) group) out) found filled)
    (hsummarized : List.Forall₂ (fun group out => Step.Yields
      (e.summarizeGroup o inside group) out) filled groups) (hgroup : group ∈ groups) :
    ∃ fetched ∈ found, ∃ full,
      e.Filled o g level (scope ++ e.narrowingStages g level fetched.key) fetched inner full ∧
      group.items = full.items ∧ group.count = full.count := by
  obtain ⟨full, hfull, hsummary⟩ := exists_of_mem_right hsummarized hgroup
  obtain ⟨fetched, hfetched, hfill⟩ := exists_of_mem_right hfilled hfull
  obtain ⟨hitems, hcount, -⟩ := summarizeGroup_yields hsummary
  exact ⟨fetched, hfetched, full, fillGroup_yields hfill, hitems, hcount⟩

/-- What the groups of a request come from. -/
theorem queryGrouped_yields {r : Response} (h : Step.Yields (e.queryGrouped o) r) :
    ∃ groups counted,
      Step.Yields (e.queryGroups o o.group 0 (Pipeline.pagingStages o.skip o.take) []) groups ∧
      Step.Yields (e.addGroupCount o { data := .groups groups }) counted ∧
      Step.Yields (e.addTotals o counted) r := by
  obtain ⟨_, -, h⟩ := h.bind
  obtain ⟨_, -, h⟩ := h.bind
  obtain ⟨groups, hgroups, h⟩ := h.bind
  obtain ⟨counted, hcounted, h⟩ := h.bind
  exact ⟨groups, counted, hgroups, hcounted, h⟩

end Yields

/-! ## Requests -/

/-- What a grouped request does under its own budget. -/
def answerGroups : Step Response := do
  let groups ← e.queryGroups o o.group 0 (Pipeline.pagingStages o.skip o.take) []
  let counted ← e.addGroupCount o { data := .groups groups }
  e.addTotals o counted

theorem outcome_reportFilter (s : Session) :
    ∃ s', (reportFilter o).outcome s = (.ok (), s') := by
  unfold reportFilter
  split
  · split_ifs <;> exact ⟨_, rfl⟩
  · exact ⟨_, rfl⟩

/-- A grouped request succeeds where its groups, their number and the totals do. -/
theorem queryGrouped_succeeds {e : Engine} {o : LoadOptions} {groups : List Group}
    {counted r : Response}
    (hgroups : Step.Succeeds (e.queryGroups o o.group 0 (Pipeline.pagingStages o.skip o.take) [])
      groups)
    (hcount : Step.Succeeds (e.addGroupCount o { data := .groups groups }) counted)
    (htotals : Step.Succeeds (e.addTotals o counted) r) : Step.Succeeds (e.queryGrouped o) r :=
  have hreport : Step.Succeeds (reportFilter o) () := outcome_reportFilter o
  hreport.bind ((Step.Succeeds.change _).bind (hgroups.bind (hcount.bind htotals)))

/-- A grouped request reports its filter and then starts with a budget of its own. -/
theorem outcome_queryGrouped (s : Session) :
    (e.queryGrouped o).outcome s = (e.answerGroups o).outcome
      { ((reportFilter o).outcome s).2 with budget := { limit := e.config.summaryLimit } } := by
  obtain ⟨s', hs'⟩ := outcome_reportFilter o s
  rw [queryGrouped, Step.outcome_bind, hs']
  rfl

/-- The session in which a request starts. -/
def start (s : Session) : Session := (s.measure Metrics.addRequest).write (scope o).began

/-- The session after a request has been reported on. -/
def conclude (outcome : Except Failure Response) (s : Session) : Session :=
  match outcome with
  | .ok _ => s.write (scope o).completed
  | .error (.error problem) =>
    (s.measure Metrics.addFailure).write ((scope o).failed problem.code problem.message)
  | .error .aborted => s.write (scope o).abandoned

/-- The steps of a request. -/
def steps : Step Response := if o.isGrouped then e.queryGrouped o else e.queryRows o

/-- A request comes to what its steps come to. -/
theorem query_eq (s : Session) :
    e.query o s = (((e.steps o).outcome (start o s)).1,
      conclude o ((e.steps o).outcome (start o s)).1 ((e.steps o).outcome (start o s)).2) := by
  have hquery : e.query o s =
      match ((e.steps o).outcome (start o s)).1 with
      | .ok r => (.ok r, ((e.steps o).outcome (start o s)).2.write (scope o).completed)
      | .error (.error problem) => (.error (.error problem),
          (((e.steps o).outcome (start o s)).2.measure Metrics.addFailure).write
            ((scope o).failed problem.code problem.message))
      | .error .aborted =>
        (.error .aborted, ((e.steps o).outcome (start o s)).2.write (scope o).abandoned) := rfl
  rw [hquery]
  rcases ((e.steps o).outcome (start o s)).1 with (_ | _) | r <;> rfl

/-- A response is what the steps of the request yield. -/
theorem steps_yields {r : Response} {s s' : Session} (h : e.query o s = (.ok r, s')) :
    Step.Yields (e.steps o) r := by
  rw [query_eq] at h
  exact ⟨_, _, Prod.ext (Prod.mk.inj h).1 rfl⟩

theorem steps_grouped (h : o.group ≠ []) : e.steps o = e.queryGrouped o := by
  rw [steps, if_pos (by simp [LoadOptions.isGrouped, h])]

/-- A request succeeds if its steps do. -/
theorem query_of_succeeds {r : Response} (h : Step.Succeeds (e.steps o) r) (s : Session) :
    ∃ s', e.query o s = (.ok r, s') := by
  obtain ⟨s', hs'⟩ := h (start o s)
  rw [query_eq, hs']
  exact ⟨_, rfl⟩

/-- A request fails as its steps do. -/
theorem query_of_fails {failure : Failure} (h : Step.Fails (e.steps o) failure) (s : Session) :
    (e.query o s).1 = .error failure := by
  obtain ⟨s', hs'⟩ := h (start o s)
  rw [query_eq, hs']

/-! ## Totals -/

section Totals

variable {e o} {r r' : Response}

/-- Totals come beside the data and the number of groups. -/
theorem addTotals_yields (h : Step.Yields (addTotals e o r) r') :
    r'.data = r.data ∧ r'.groupCount = r.groupCount := by
  unfold addTotals at h
  split_ifs at h
  · obtain rfl := h.pure
    exact ⟨rfl, rfl⟩
  · obtain ⟨total, -, h⟩ := h.bind
    simp only at h
    split_ifs at h
    · obtain ⟨values, -, h⟩ := h.bind
      obtain rfl := h.pure
      exact ⟨rfl, rfl⟩
    · obtain rfl := h.pure
      exact ⟨rfl, rfl⟩

theorem data_of_addTotals (h : Step.Yields (addTotals e o r) r') : r'.data = r.data :=
  (addTotals_yields h).1

/-- The number of groups comes beside the rest. -/
theorem addGroupCount_yields (h : Step.Yields (addGroupCount e o r) r') :
    r' = { r with groupCount := r'.groupCount } := by
  unfold addGroupCount at h
  split at h
  · split_ifs at h
    · obtain ⟨n, -, h⟩ := h.bind
      rw [h.pure]
    · rw [h.pure]
  · rw [h.pure]

theorem data_of_addGroupCount (h : Step.Yields (addGroupCount e o r) r') : r'.data = r.data := by
  rw [addGroupCount_yields h]

/-- The groups that have been found are those of the response. -/
theorem data_of_totals {groups : List Group} {counted : Response}
    (hcounted : Step.Yields (addGroupCount e o { data := .groups groups }) counted)
    (htotals : Step.Yields (addTotals e o counted) r) : r.data = .groups groups := by
  rw [data_of_addTotals htotals, data_of_addGroupCount hcounted]

end Totals

end GridQuery.Engine
