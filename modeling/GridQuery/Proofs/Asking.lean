import Mathlib
import GridQuery.Proofs.Exchanges

/-!
# What a request asks

A grouped request goes down its levels: it asks for the groups of a level, then for what is inside
each of them, and then for their summaries. The way to a group grows by the keys that were answered,
so every question about a group comes after the answers that lead to it.

Results:
* `poses_fetchGroups`, `poses_count`, `poses_summarize`: the steps that ask one question.
* `asks_queryGroups`: the questions about the groups of a level and of the levels inside it.
* `exists_trace`: the exchanges of a request.
-/

namespace GridQuery

open Engine (addGroupCount addSummary addTotals fetchGroups fillGroup queryGroups summarizeGroup)
open Step (Asks Poses Stays)

section Questions

variable {e : Engine} {o : LoadOptions} {q : Question}

/-! ## One question -/

/-- A pipeline is handed over once it has been counted as what it is. -/
theorem issues_handOver (answer : Except Failure (List Json)) (change : Metrics → Metrics)
    {s : Session} (hrequests : (change s.metrics).requests = s.metrics.requests)
    (hfailed : (change s.metrics).requestsFailed = s.metrics.requestsFailed)
    (hexecuted : (change s.metrics).pipelinesExecuted = s.metrics.pipelinesExecuted)
    (hcounted : GoesUp (if q.isCount then 1 else 0) s.metrics.countQueries
      (change s.metrics).countQueries)
    (hsummarized : GoesUp (if q.isSummary then 1 else 0) s.metrics.summaryQueries
      (change s.metrics).summaryQueries) :
    Issues e o [⟨q, answer⟩] s ((s.measure change).handOver (q.pipeline e o)) where
  pipelines := rfl
  counts := {
    requests := hrequests
    requestsFailed := hfailed
    pipelinesExecuted := congrArg (· + 1) hexecuted
    countQueries := by rwa [List.countP_singleton]
    summaryQueries := by rwa [List.countP_singleton] }

theorem Step.outcome_count (runner : Runner) (p : Pipeline) (s : Session) :
    (Step.count runner p).outcome s =
      ((runner.answer s.pipelines p).bind fun docs =>
          (countOf docs).mapError fun fault => .error (.invalidResult fault),
        (s.measure Metrics.addCountQuery).handOver p) := by
  have hmeasured : (Step.measure Metrics.addCountQuery).outcome s =
      (.ok (), s.measure Metrics.addCountQuery) := rfl
  have hpipelines : (s.measure Metrics.addCountQuery).pipelines = s.pipelines := rfl
  rw [Step.count, outcome_bind, hmeasured]
  simp only [outcome_bind, outcome_execute, hpipelines]
  cases runner.answer s.pipelines p with
  | error failure => rfl
  | ok docs =>
    simp only [Except.bind]
    cases countOf docs <;> rfl

theorem poses_count (hcount : q.isCount = true) :
    Poses e o q (Step.count e.runner (q.pipeline e o)) fun docs n => Step.countOf docs = .ok n := by
  refine .of_read (Question.faultIn_of_isCount hcount) (fun s => ?_) fun s => ?_
  · rw [Step.outcome_count]
    refine issues_handOver _ _ rfl rfl rfl ?_ ?_
    · rw [hcount]
      exact .one _
    · rw [Question.isSummary_of_isCount hcount]
      exact .zero _
  · rw [Step.outcome_count]

theorem poses_summarize (hsummary : q.isSummary = true) (summaries : List Summary) :
    Poses e o q (Step.summarize e.runner summaries (q.pipeline e o)) fun docs values =>
      (.ok (Pipeline.summaryValues summaries docs.head?) : Except ResultFault _) = .ok values := by
  have hcount : q.isCount = false := Question.isCount_of_isSummary hsummary
  refine .of_read (Question.faultIn_of_isSummary hsummary) (fun s => ?_) fun s => ?_
  · rw [Step.outcome_summarize]
    refine issues_handOver _ _ rfl rfl rfl ?_ ?_
    · rw [hcount]
      exact .zero _
    · rw [hsummary]
      exact .one _
  · rw [Step.outcome_summarize]
    cases e.runner.answer s.pipelines (q.pipeline e o) <;> rfl

/-- A pipeline that neither counts nor summarizes is handed over. -/
theorem issues_data (hcount : q.isCount = false) (hsummary : q.isSummary = false)
    (answer : Except Failure (List Json)) (s : Session) :
    Issues e o [⟨q, answer⟩] s (s.handOver (q.pipeline e o)) := by
  refine issues_handOver answer id rfl rfl rfl ?_ ?_
  · rw [hcount]
    exact .zero _
  · rw [hsummary]
    exact .zero _

theorem poses_rows :
    Poses e o .rows (Step.execute e.runner (Question.rows.pipeline e o)) fun docs rows =>
      (.ok docs : Except ResultFault _) = .ok rows := by
  refine .of_read (fun docs => rfl) (fun s => ?_) fun s => ?_
  · rw [Step.outcome_execute]
    exact issues_data rfl rfl _ s
  · rw [Step.outcome_execute]
    cases e.runner.answer s.pipelines _ <;> rfl

/-- The session after the groups of a level have been read. -/
def afterGroups (level : Nat) (groups : List Group) (s : Session) : Session :=
  (s.write (Event.groupLevelQueried.record
    [("groups", toString groups.length), ("level", toString level)])).measure
      (Metrics.addGroups (UInt64.ofNat groups.length))

/-- Groups are answered, and then they are read. -/
theorem outcome_fetchGroups (level : Nat) (p : Pipeline) (s : Session) :
    (fetchGroups e level p).outcome s =
      match (e.runner.answer s.pipelines p).bind fun docs =>
        (docs.mapM Group.ofJson).mapError fun fault => .error (.invalidResult fault) with
      | .ok groups => (.ok groups, afterGroups level groups (s.handOver p))
      | .error failure => (.error failure, s.handOver p) := by
  rw [fetchGroups, Step.outcome_bind, Step.outcome_execute]
  cases e.runner.answer s.pipelines p with
  | error failure => rfl
  | ok docs =>
    simp only [Except.bind, Step.outcome_bind]
    cases docs.mapM Group.ofJson <;> rfl

/-- The groups that are answered are read. -/
theorem poses_fetchGroups (path : GroupPath) (g : GroupLevel) (last : Bool) (level : Nat) :
    Poses e o (.groups path g last)
      (fetchGroups e level ((Question.groups path g last).pipeline e o)) fun docs found =>
        docs.mapM Group.ofJson = .ok found := by
  refine .of_read (fun docs => rfl) (fun s => ?_) fun s => ?_
  all_goals
    rw [outcome_fetchGroups]
    generalize (e.runner.answer s.pipelines _).bind _ = outcome
  · have hissues : Issues e o [⟨.groups path g last, e.runner.answer s.pipelines
        ((Question.groups path g last).pipeline e o)⟩] s _ := issues_data rfl rfl _ s
    cases outcome with
    | error failure => exact hissues
    | ok groups =>
      exact hissues.trans (.none rfl rfl)
  · cases outcome <;> rfl

end Questions

/-! ## Groups of a level -/

section Levels

variable {e : Engine} {o : LoadOptions} {earlier : List Pipeline} {path : GroupPath}
  {g : GroupLevel} {inner levels : List GroupLevel}

/-- Questions have been asked, and the ways to the groups that were found are known. -/
def Found (path : GroupPath) (g : GroupLevel) (found : List Group) (history : List Exchange) :
    Prop :=
  history ≠ [] ∧ ∀ group ∈ found, Reached history (path ++ [(g, group.key)])

theorem stays_found (found : List Group) : Stays (Found path g found) := by
  rintro history later ⟨hne, hreached⟩
  exact ⟨List.append_ne_nil_of_left_ne_nil hne _, fun group hgroup =>
    (hreached group hgroup).mono later⟩

/-- The levels inside a group are those behind the way to it. -/
theorem levels_append (hpath : o.group = path.map Prod.fst ++ g :: inner) (key : Json) :
    o.group = (path ++ [(g, key)]).map Prod.fst ++ inner := by
  rw [hpath, List.map_append, List.append_assoc]
  rfl

theorem fits_innerCount {next : GroupLevel} (hpath : o.group = path.map Prod.fst ++ g :: next :: inner)
    (key : Json) : (Question.innerCount (path ++ [(g, key)]) next).Fits o :=
  ⟨by simp, inner, levels_append hpath key⟩

theorem fits_groupSummary (hpath : o.group = path.map Prod.fst ++ g :: inner)
    (hsummary : o.groupSummary ≠ []) (key : Json) :
    (Question.groupSummary (path ++ [(g, key)])).Fits o :=
  ⟨by simp, hsummary, inner, (levels_append hpath key).symm⟩

/-- The groups of a level are asked for by a question of their own, and what is inside a group by
    questions with its key on their way. -/
theorem queryGroups_path (e : Engine) (o : LoadOptions) (path : GroupPath) (g : GroupLevel)
    (inner : List GroupLevel) :
    queryGroups e o (g :: inner) path.length
        (if path.isEmpty then Pipeline.pagingStages o.skip o.take else []) (e.scopeOf path) = (do
      let found ← fetchGroups e path.length ((Question.groups path g inner.isEmpty).pipeline e o)
      let filled ← found.mapM fun group =>
        fillGroup e o g inner path.length (e.scopeOf (path ++ [(g, group.key)])) group
      filled.mapM (summarizeGroup e o fun key => e.scopeOf (path ++ [(g, key)]))) := by
  have hpage : (if path.isEmpty then Pipeline.pagingStages o.skip o.take else []) =
      (Question.groups path g inner.isEmpty).page o := by
    cases path <;> rfl
  simp only [Engine.queryGroups_cons, hpage, Engine.scopeOf_append, Question.pipeline_groups]

/-- The levels inside a group are those at the end of a longer way, where no page is taken. -/
theorem queryGroups_inside (e : Engine) (o : LoadOptions) (path : GroupPath) (g : GroupLevel)
    (key : Json) (inner : List GroupLevel) :
    queryGroups e o inner (path.length + 1) [] (e.scopeOf (path ++ [(g, key)])) =
      queryGroups e o inner (path ++ [(g, key)]).length
        (if (path ++ [(g, key)]).isEmpty then Pipeline.pagingStages o.skip o.take else [])
        (e.scopeOf (path ++ [(g, key)])) := by
  simp

/-- The key of a group is that of its document. -/
theorem Group.key_of_ofJson {doc : Json} {group : Group} (h : ofJson doc = .ok group) :
    doc.get? "key" = some group.key := by
  unfold ofJson at h
  split at h
  · cases h
  · next key hkey =>
    obtain ⟨count, -, rfl⟩ := map_eq_ok.mp h
    exact hkey

/-- Once the groups of a level are found, the ways to them are known. -/
theorem asks_fetchGroups (hfits : (Question.groups path g inner.isEmpty).Fits o) :
    Asks e o earlier (fun history => Reached history path ∧ (path = [] ↔ history = []))
      (fetchGroups e path.length ((Question.groups path g inner.isEmpty).pipeline e o))
      (Found path g) := by
  refine (Asks.one (poses_fetchGroups path g inner.isEmpty path.length) hfits ?_).imp
    (fun _ h => h) ?_
  · rintro history ⟨hreached, hopens⟩
    exact ⟨hreached, by rw [← hopens, Question.opens, List.isEmpty_iff]⟩
  · rintro found _ ⟨before, docs, ⟨hreached, -⟩, rfl, hfound⟩
    refine ⟨by simp, fun group hgroup => (hreached.mono _).step ?_⟩
    obtain ⟨doc, hdoc, hread⟩ := exists_of_mem_right (mapM_eq_ok.mp hfound) hgroup
    exact ⟨inner.isEmpty, docs, by simp, doc, hdoc, Group.key_of_ofJson hread⟩

/-- A group is filled by questions about what is inside it. -/
theorem asks_fillGroup (hpath : o.group = path.map Prod.fst ++ g :: inner) {found : List Group}
    {group : Group} (hgroup : group ∈ found)
    (hinner : inner ≠ [] → Asks e o earlier
      (fun history => Reached history (path ++ [(g, group.key)]) ∧ history ≠ [])
      (queryGroups e o inner (path.length + 1) [] (e.scopeOf (path ++ [(g, group.key)])))
      fun _ history => history ≠ []) :
    Asks e o earlier (Found path g found)
      (fillGroup e o g inner path.length (e.scopeOf (path ++ [(g, group.key)])) group)
      fun _ => Found path g found := by
  cases inner with
  | nil => exact .pure _
  | cons next inner =>
    simp only [Engine.fillGroup]
    split_ifs
    · refine (((hinner (List.cons_ne_nil next inner)).frame (stays_found found) ?_).imp (fun _ h => h)
        fun _ _ h => h.2).bind fun sub _ => .pure _
      rintro history ⟨hne, hreached⟩
      exact ⟨hreached group hgroup, hne⟩
    · have hlevel : path.length + 1 = (path ++ [(g, group.key)]).length := by simp
      rw [hlevel, ← Question.pipeline_innerCount]
      refine (Asks.later (poses_count rfl) rfl (fits_innerCount hpath group.key)
        (stays_found found) ?_).bind fun n _ => .pure _
      rintro history ⟨hne, hreached⟩
      exact ⟨hne, hreached group hgroup⟩

/-- An attempt at a summary hands over nothing and counts nothing but itself. -/
theorem attemptSummary_same (s : Session) :
    s.attemptSummary.pipelines = s.pipelines ∧ s.attemptSummary.metrics = s.metrics := by
  unfold Session.attemptSummary
  split
  · split_ifs <;> exact ⟨rfl, rfl⟩
  · exact ⟨rfl, rfl⟩

theorem asks_acquireSummary (inv : List Exchange → Prop) :
    Asks e o earlier inv Step.acquireSummary fun _ => inv := by
  refine .quiet fun s => ⟨s.budget.grants, s.attemptSummary, rfl, ?_⟩
  obtain ⟨hpipelines, hmetrics⟩ := attemptSummary_same s
  exact .none hpipelines (congrArg Metrics.ofExchanges hmetrics)

/-- A group is summarized by a question about it, or not at all. -/
theorem asks_summarizeGroup (hpath : o.group = path.map Prod.fst ++ g :: inner)
    {found : List Group} {group filled : Group} (hgroup : group ∈ found)
    (hkey : filled.key = group.key) :
    Asks e o earlier (Found path g found)
      (summarizeGroup e o (fun key => e.scopeOf (path ++ [(g, key)])) filled)
      fun _ => Found path g found := by
  unfold Engine.summarizeGroup
  split_ifs with hsummary
  · exact .pure filled
  refine (asks_acquireSummary _).bind fun granted _ => ?_
  cases granted with
  | true =>
    have hfits := fits_groupSummary hpath (by simpa using hsummary) group.key
    rw [if_pos rfl, hkey, ← Question.pipeline_groupSummary]
    refine (Asks.later (poses_summarize rfl _) rfl hfits (stays_found found) ?_).bind
      fun values _ => .pure _
    rintro history ⟨hne, hreached⟩
    exact ⟨hne, hreached group hgroup⟩
  | false =>
    rw [if_neg Bool.false_ne_true]
    exact (Asks.quiet fun s => ⟨(), s.measure Metrics.addSkippedSummary, rfl,
      .none rfl rfl⟩).bind fun _ _ => .pure filled

/-- The questions about the groups of a level, and about those inside them. -/
theorem asks_queryGroups (hlevels : levels ≠ []) (hpath : o.group = path.map Prod.fst ++ levels) :
    Asks e o earlier (fun history => Reached history path ∧ (path = [] ↔ history = []))
      (queryGroups e o levels path.length
        (if path.isEmpty then Pipeline.pagingStages o.skip o.take else []) (e.scopeOf path))
      fun _ history => history ≠ [] := by
  induction levels generalizing path with
  | nil => exact absurd rfl hlevels
  | cons g inner ih =>
    rw [queryGroups_path]
    refine (asks_fetchGroups ⟨inner, hpath, rfl⟩).bind fun found _ => ?_
    -- What is inside a group is asked for with the key of the group on the way.
    have hfill : ∀ group ∈ found, Asks e o earlier (Found path g found)
        (fillGroup e o g inner path.length (e.scopeOf (path ++ [(g, group.key)])) group)
        fun _ => Found path g found := by
      intro group hgroup
      refine asks_fillGroup hpath hgroup fun hinner => ?_
      simpa using ih hinner (levels_append hpath group.key)
    refine (Asks.mapM hfill).bind fun filled hfilled => ?_
    refine (Asks.mapM fun group hgroup => ?_).imp (fun _ h => h) fun _ _ h => h.1
    obtain ⟨origin, horigin, hgroup⟩ := exists_of_mem_right hfilled.mapM hgroup
    exact asks_summarizeGroup hpath horigin (Engine.fillGroup_yields hgroup).key_eq

end Levels

/-! ## Requests -/

section Requests

variable {e : Engine} {o : LoadOptions} {earlier : List Pipeline}

/-- Reporting on a filter changes nothing but the log. -/
theorem exists_log_of_reportFilter (o : LoadOptions) (s : Session) :
    ∃ log, (Engine.reportFilter o).outcome s = (.ok (), { s with log := log }) := by
  unfold Engine.reportFilter
  split
  · split_ifs <;> exact ⟨_, rfl⟩
  · exact ⟨_, rfl⟩

theorem asks_reportFilter (inv : List Exchange → Prop) :
    Asks e o earlier inv (Engine.reportFilter o) fun _ => inv := by
  refine .quiet fun s => ?_
  obtain ⟨log, hlog⟩ := exists_log_of_reportFilter o s
  exact ⟨(), { s with log := log }, hlog, .none rfl rfl⟩

theorem stays_ne_nil : Stays fun history => history ≠ [] :=
  fun _ _ hne => List.append_ne_nil_of_left_ne_nil hne _

/-- A question about all documents comes after the one that opens the request. -/
theorem asks_beside {α : Type} {q : Question} {step : Step α} {gives : List Json → α → Prop}
    (h : Poses e o q step gives) (hopens : q.opens = false) (hpath : q.path = [])
    (hfits : q.Fits o) :
    Asks e o earlier (fun history => history ≠ []) step fun _ history => history ≠ [] :=
  .later h hopens hfits stays_ne_nil fun history hne => ⟨hne, hpath ▸ reached_nil history⟩

theorem asks_addGroupCount (r : Response) : Asks e o earlier (fun history => history ≠ [])
    (addGroupCount e o r) fun _ history => history ≠ [] := by
  unfold Engine.addGroupCount
  split
  · next g inner hgroup =>
    split_ifs
    · have hfits : (Question.groupCount g).Fits o := ⟨inner, hgroup⟩
      rw [← Question.pipeline_groupCount]
      exact (asks_beside (poses_count rfl) rfl rfl hfits).bind fun n _ => .pure _
    · exact .pure r
  · exact .pure r

theorem fits_totalSummary {asked : Bool}
    (h : (asked && !o.totalSummary.isEmpty) = true) : Question.totalSummary.Fits o := by
  simp only [Bool.and_eq_true, Bool.not_eq_true', List.isEmpty_eq_false_iff] at h
  exact h.2

theorem asks_addTotals (r : Response) : Asks e o earlier (fun history => history ≠ [])
    (addTotals e o r) fun _ history => history ≠ [] := by
  unfold Engine.addTotals
  split_ifs
  · exact .pure r
  have hfits : Question.totalCount.Fits o := trivial
  rw [← Question.pipeline_totalCount]
  refine (asks_beside (poses_count rfl) rfl rfl hfits).bind fun total _ => ?_
  simp only
  split_ifs with hsummary
  · rw [← Question.pipeline_totalSummary]
    exact (asks_beside (poses_summarize rfl _) rfl rfl (fits_totalSummary hsummary)).bind
      fun values _ => .pure _
  · exact .pure _

/-- A budget of its own changes nothing that is asked. -/
theorem asks_newBudget (inv : List Exchange → Prop) (limit : Option UInt32) :
    Asks e o earlier inv (Step.change fun s => { s with budget := { limit := limit } })
      fun _ => inv :=
  .quiet fun s => ⟨(), { s with budget := { limit := limit } }, rfl,
    .none rfl rfl⟩

/-- A request opens with its rows or with the groups of the first level. -/
theorem asks_steps : Asks e o earlier (fun history => history = []) (e.steps o)
    fun _ history => history ≠ [] := by
  unfold Engine.steps
  split_ifs with hgrouped
  · have hgroup : o.group ≠ [] := by simpa [LoadOptions.isGrouped] using hgrouped
    unfold Engine.queryGrouped
    refine (asks_reportFilter _).bind fun _ _ => ?_
    refine (asks_newBudget _ _).bind fun _ _ => ?_
    have hopened : Asks e o earlier (fun history => Reached history [] ∧ ([] = [] ↔ history = []))
        (queryGroups e o o.group 0 (Pipeline.pagingStages o.skip o.take) [])
        fun _ history => history ≠ [] := @asks_queryGroups e o earlier [] _ hgroup rfl
    refine (hopened.imp ?_ fun _ _ h => h).bind fun groups _ => ?_
    · rintro _ rfl
      exact ⟨reached_nil [], by simp⟩
    · exact (asks_addGroupCount _).bind fun counted _ => asks_addTotals counted
  · have hgroup : o.group = [] := by simpa [LoadOptions.isGrouped] using hgrouped
    unfold Engine.queryRows
    rw [← Question.pipeline_rows]
    refine (asks_reportFilter _).bind fun _ _ => ?_
    refine ((Asks.one poses_rows hgroup ?_).imp (fun _ h => h) ?_).bind fun rows _ =>
      asks_addTotals _
    · rintro _ rfl
      exact ⟨reached_nil [], by simp [Question.opens]⟩
    · rintro rows _ ⟨before, docs, -, rfl, -⟩
      simp

end Requests

/-- A request has come back with an error. -/
def Engine.returnsError : Except Failure Response → Bool
  | .error (.error _) => true
  | .error .aborted | .ok _ => false

/-- These are the exchanges of a request. -/
structure Engine.Exchanged (e : Engine) (o : LoadOptions) (s : Session) (trace : List Exchange) :
    Prop where
  pipelines : (e.query o s).2.pipelines = s.pipelines ++ trace.map (·.pipeline e o)
  follows : Each (Exchange.Follows e o s.pipelines) [] trace
  concludes : Concludes trace (e.query o s).1
  ne_nil : trace ≠ []
  counts : Counts trace
    { s.metrics with
      requests := s.metrics.requests + 1
      requestsFailed := s.metrics.requestsFailed + if returnsError (e.query o s).1 then 1 else 0 }
    (e.query o s).2.metrics

theorem Engine.pipelines_conclude (o : LoadOptions) (outcome : Except Failure Response)
    (s : Session) : (conclude o outcome s).pipelines = s.pipelines := by
  rcases outcome with (_ | _) | _ <;> rfl

/-- Only an error is counted once a request has ended. -/
theorem Engine.metrics_conclude (o : LoadOptions) (outcome : Except Failure Response)
    (s : Session) : (conclude o outcome s).metrics = { s.metrics with
      requestsFailed := s.metrics.requestsFailed + if returnsError outcome then 1 else 0 } := by
  rcases outcome with (_ | _) | _
  · rfl
  all_goals simp [conclude, returnsError, Session.write]

/-- A request is its exchanges. -/
theorem Engine.exists_trace (e : Engine) (o : LoadOptions) (s : Session) :
    ∃ trace, e.Exchanged o s trace := by
  have hopen : (start o s).pipelines =
      s.pipelines ++ ([] : List Exchange).map (·.pipeline e o) := (List.append_nil _).symm
  obtain ⟨trace, hissues, hfollows, hconcludes, hne⟩ := asks_steps (start o s) [] hopen rfl
  have houtcome : (e.query o s).1 = ((e.steps o).outcome (start o s)).1 := by rw [query_eq]
  have hsession : (e.query o s).2 =
      conclude o (e.query o s).1 ((e.steps o).outcome (start o s)).2 := by rw [query_eq]
  refine ⟨trace, ?_, hfollows, houtcome ▸ hconcludes, ?_, ?_⟩
  · rw [hsession, pipelines_conclude]
    exact hissues.pipelines
  · -- Without any exchange nothing has failed, and there has been one by the time it succeeds.
    rintro rfl
    cases hsteps : ((e.steps o).outcome (start o s)).1 with
    | ok r => exact hne r hsteps rfl
    | error failure =>
      rw [hsteps] at hconcludes
      obtain ⟨before, last, hnil, -⟩ := hconcludes
      simp at hnil
  · rw [hsession, metrics_conclude]
    have hcounts := hissues.counts
    exact {
      requests := hcounts.requests
      requestsFailed := congrArg (· + _) hcounts.requestsFailed
      pipelinesExecuted := hcounts.pipelinesExecuted
      countQueries := hcounts.countQueries
      summaryQueries := hcounts.summaryQueries }

end GridQuery
