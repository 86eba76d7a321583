import Mathlib
import GridQuery.Proofs.Occurrences

/-!
# Requests that go alike

From sessions in which the runner answers alike and the budgets grant alike, all steps of a request
go through the same occurrences. A request on the whole does not even look at the budget of the
session: if it needs one, it starts with one of its own.

Results:
* `goesAlike_queryGroups`: the groups of a level, and of the levels inside it.
* `goesAlike_steps`: the steps of a request, whatever the budgets.
* `Engine.query_goesAlike`: a request from two sessions.
-/

namespace GridQuery

open Engine (addGroupCount addTotals fetchGroups fillGroup queryGroups summarizeGroup)
open Step (GoesAlike)
open SummaryBudget (GrantAlike)

/-! ## Questions -/

section Questions

variable {e : Engine} {o : LoadOptions} {R : SummaryBudget → SummaryBudget → Prop} {q : Question}

/-- What is left of a session once a question has been asked. -/
theorem Session.after_asked (s : Session) (x : Exchange) (b : SummaryBudget) :
    s.after e o [.asked x] b =
      { pipelines := s.pipelines ++ [x.pipeline e o]
        metrics := x.count s.metrics
        log := s.log.writeAll (x.executed e o :: x.levelQueried?.toList)
        budget := b } := by
  simp [after, Occurrence.exchanges, Occurrence.exchange?, Occurrence.count, Occurrence.records]

/-- An exchange about anything but groups reads none. -/
theorem Exchange.groups?_of_isCount {x : Exchange} (h : x.question.isCount = true) :
    x.groups? = none := by
  obtain ⟨q, answer⟩ := x
  cases q with
  | groups path g last => cases h
  | _ => rfl

theorem Exchange.groups?_of_isSummary {x : Exchange} (h : x.question.isSummary = true) :
    x.groups? = none := by
  obtain ⟨q, answer⟩ := x
  cases q with
  | groups path g last => cases h
  | _ => rfl

/-- What counts documents is counted as a count. -/
theorem goesAlike_count (hcount : q.isCount = true) (hfits : q.Fits o) :
    GoesAlike e o R (Step.count e.runner (q.pipeline e o)) := by
  have hsummary : q.isSummary = false := Question.isSummary_of_isCount hcount
  refine .asks (fun answer => answer.bind fun docs =>
    (Step.countOf docs).mapError fun fault => .error (.invalidResult fault)) hfits
    (fun s => by rw [Step.outcome_count]) fun s => ?_
  have hnone : Exchange.groups? ⟨q, e.runner.answer s.pipelines (q.pipeline e o)⟩ = none :=
    Exchange.groups?_of_isCount hcount
  rw [Step.outcome_count, Session.after_asked, Session.handOver_eq]
  simp [Exchange.count, Exchange.levelQueried?, Exchange.executed, Exchange.pipeline, hnone,
    hcount, hsummary, Session.measure, Metrics.addCountQuery, Metrics.addPipeline]

theorem goesAlike_summarize (hsummary : q.isSummary = true) (hfits : q.Fits o)
    (summaries : List Summary) :
    GoesAlike e o R (Step.summarize e.runner summaries (q.pipeline e o)) := by
  have hcount : q.isCount = false := Question.isCount_of_isSummary hsummary
  refine .asks (fun answer => answer.map fun docs => Pipeline.summaryValues summaries docs.head?)
    hfits (fun s => by rw [Step.outcome_summarize]) fun s => ?_
  have hnone : Exchange.groups? ⟨q, e.runner.answer s.pipelines (q.pipeline e o)⟩ = none :=
    Exchange.groups?_of_isSummary hsummary
  rw [Step.outcome_summarize, Session.after_asked, Session.handOver_eq]
  simp [Exchange.count, Exchange.levelQueried?, Exchange.executed, Exchange.pipeline, hnone,
    hcount, hsummary, Session.measure, Metrics.addSummaryQuery, Metrics.addPipeline]

theorem goesAlike_rows (hfits : Question.rows.Fits o) :
    GoesAlike e o R (Step.execute e.runner (Question.rows.pipeline e o)) := by
  refine .asks id hfits (fun s => by rw [Step.outcome_execute]; rfl) fun s => ?_
  rw [Step.outcome_execute, Session.after_asked, Session.handOver_eq]
  simp [Exchange.count, Exchange.levelQueried?, Exchange.executed, Exchange.pipeline,
    Exchange.groups?, Question.isCount, Question.isSummary, Metrics.addPipeline]

/-- The groups that are answered, if they can be read. -/
def readGroups (answer : Except Failure (List Json)) : Except Failure (List Group) :=
  answer.bind fun docs =>
    (docs.mapM Group.ofJson).mapError fun fault => .error (.invalidResult fault)

theorem Exchange.groups?_eq_toOption (path : GroupPath) (g : GroupLevel) (last : Bool)
    (answer : Except Failure (List Json)) :
    groups? ⟨.groups path g last, answer⟩ = (readGroups answer).toOption := by
  cases answer with
  | error failure => rfl
  | ok docs =>
    simp only [groups?, readGroups, Except.bind]
    cases docs.mapM Group.ofJson <;> rfl

theorem outcome_fetchGroups_of_ok {level : Nat} {p : Pipeline} {s : Session} {groups : List Group}
    (h : readGroups (e.runner.answer s.pipelines p) = .ok groups) :
    (fetchGroups e level p).outcome s = (.ok groups, afterGroups level groups (s.handOver p)) := by
  unfold readGroups at h
  rw [outcome_fetchGroups, h]

theorem outcome_fetchGroups_of_error {level : Nat} {p : Pipeline} {s : Session} {failure : Failure}
    (h : readGroups (e.runner.answer s.pipelines p) = .error failure) :
    (fetchGroups e level p).outcome s = (.error failure, s.handOver p) := by
  unfold readGroups at h
  rw [outcome_fetchGroups, h]

/-- Groups are reported and counted if they can be read. -/
theorem goesAlike_fetchGroups (path : GroupPath) (g : GroupLevel) (last : Bool)
    (hfits : (Question.groups path g last).Fits o) :
    GoesAlike e o R (fetchGroups e path.length ((Question.groups path g last).pipeline e o)) := by
  refine .asks readGroups hfits (fun s => ?_) fun s => ?_
  · cases h : readGroups _ with
    | error failure => rw [outcome_fetchGroups_of_error h]
    | ok groups => rw [outcome_fetchGroups_of_ok h]
  · have hgroups := Exchange.groups?_eq_toOption path g last
      (e.runner.answer s.pipelines ((Question.groups path g last).pipeline e o))
    rw [Session.after_asked]
    simp only [Exchange.count, Exchange.levelQueried?, hgroups, Question.isCount,
      Question.isSummary]
    cases h : readGroups _ with
    | error failure =>
      rw [outcome_fetchGroups_of_error h, Session.handOver_eq]
      simp [Except.toOption, Exchange.executed, Exchange.pipeline, Metrics.addPipeline]
    | ok groups =>
      rw [outcome_fetchGroups_of_ok h, Session.handOver_eq]
      simp [Except.toOption, Exchange.executed, Exchange.pipeline, Metrics.addPipeline,
        afterGroups, Session.write, Session.measure, Metrics.addGroups, Log.write_eq,
        Log.writeAll_writeAll, Question.path]

end Questions

/-! ## Groups of a level -/

section Levels

variable {e : Engine} {o : LoadOptions} {R : SummaryBudget → SummaryBudget → Prop}
  {path : GroupPath} {g : GroupLevel} {inner levels : List GroupLevel}

theorem goesAlike_summarizeGroup (hgrant : o.groupSummary ≠ [] → GrantAlike R)
    (hpath : o.group = path.map Prod.fst ++ g :: inner) (group : Group) :
    GoesAlike e o R
      (summarizeGroup e o (fun key => e.scopeOf (path ++ [(g, key)])) group) := by
  unfold Engine.summarizeGroup
  split_ifs with hsummary
  · exact .pure group
  have hasked : o.groupSummary ≠ [] := by simpa using hsummary
  refine (GoesAlike.acquireSummary (hgrant hasked)).bind fun granted => ?_
  cases granted with
  | true =>
    rw [if_pos rfl, ← Question.pipeline_groupSummary]
    exact (goesAlike_summarize rfl (fits_groupSummary hpath hasked group.key) _).bind
      fun values => .pure _
  | false =>
    rw [if_neg Bool.false_ne_true]
    have hskipped : ∀ s : Session, s.measure Metrics.addSkippedSummary =
        s.after e o [.summarySkipped] s.budget := by
      intro s
      simp [Session.after, Session.measure, Occurrence.exchanges, Occurrence.exchange?,
        Occurrence.count, Occurrence.records, Log.writeAll_nil]
    exact (GoesAlike.change rfl hskipped).bind fun _ => .pure group

/-- What is inside a group is read or counted, in the scope of its key. -/
theorem goesAlike_fillGroup_of_inner (hpath : o.group = path.map Prod.fst ++ g :: inner)
    (group : Group) (hinner : GoesAlike e o R
      (queryGroups e o inner (path.length + 1) [] (e.scopeOf (path ++ [(g, group.key)])))) :
    GoesAlike e o R
      (fillGroup e o g inner path.length (e.scopeOf (path ++ [(g, group.key)])) group) := by
  cases inner with
  | nil => exact .pure _
  | cons next inner =>
    simp only [Engine.fillGroup]
    split_ifs
    · exact hinner.bind fun sub => .pure _
    · have hlevel : path.length + 1 = (path ++ [(g, group.key)]).length := by simp
      rw [hlevel, ← Question.pipeline_innerCount]
      exact (goesAlike_count rfl (fits_innerCount hpath group.key)).bind fun n => .pure _

/-- The groups of a level go alike, and those of the levels inside it. -/
theorem goesAlike_queryGroups (hgrant : o.groupSummary ≠ [] → GrantAlike R)
    (hpath : o.group = path.map Prod.fst ++ levels) :
    GoesAlike e o R (queryGroups e o levels path.length
      (if path.isEmpty then Pipeline.pagingStages o.skip o.take else []) (e.scopeOf path)) := by
  induction levels generalizing path with
  | nil => exact .throw .aborted
  | cons g inner ih =>
    rw [queryGroups_path]
    refine (goesAlike_fetchGroups path g inner.isEmpty ⟨inner, hpath, rfl⟩).bind fun found => ?_
    refine GoesAlike.bind (.mapM fun group _ => ?_) fun filled =>
      .mapM fun group _ => goesAlike_summarizeGroup hgrant hpath group
    apply goesAlike_fillGroup_of_inner hpath
    rw [queryGroups_inside]
    exact ih (levels_append hpath group.key)

theorem goesAlike_fillGroup (hgrant : o.groupSummary ≠ [] → GrantAlike R)
    (hpath : o.group = path.map Prod.fst ++ g :: inner) (group : Group) :
    GoesAlike e o R
      (fillGroup e o g inner path.length (e.scopeOf (path ++ [(g, group.key)])) group) := by
  apply goesAlike_fillGroup_of_inner hpath
  rw [queryGroups_inside]
  exact goesAlike_queryGroups hgrant (levels_append hpath group.key)

end Levels

/-! ## Requests -/

section Requests

variable {e : Engine} {o : LoadOptions} {R : SummaryBudget → SummaryBudget → Prop}

theorem goesAlike_reportFilter : GoesAlike e o R (Engine.reportFilter o) := by
  unfold Engine.reportFilter
  split
  · next filter _ =>
    split_ifs
    · have hreported : ∀ s : Session,
          s.write (Event.filterDiscarded.record [("filter", filter.text)]) =
            s.after e o [.filterDiscarded filter] s.budget := by
        intro s
        simp [Session.after, Session.write, Log.write_eq, Occurrence.exchanges,
          Occurrence.exchange?, Occurrence.count, Occurrence.records]
      exact GoesAlike.change rfl hreported
    · exact .pure ()
  · exact .pure ()

theorem goesAlike_addGroupCount (r : Response) : GoesAlike e o R (addGroupCount e o r) := by
  unfold Engine.addGroupCount
  split
  · next g inner hgroup =>
    split_ifs
    · have hfits : (Question.groupCount g).Fits o := ⟨inner, hgroup⟩
      rw [← Question.pipeline_groupCount]
      exact (goesAlike_count rfl hfits).bind fun n => .pure _
    · exact .pure r
  · exact .pure r

theorem goesAlike_addTotals (r : Response) : GoesAlike e o R (addTotals e o r) := by
  unfold Engine.addTotals
  split_ifs
  · exact .pure r
  have hfits : Question.totalCount.Fits o := trivial
  rw [← Question.pipeline_totalCount]
  refine (goesAlike_count rfl hfits).bind fun total => ?_
  simp only
  split_ifs with hsummary
  · rw [← Question.pipeline_totalSummary]
    exact (goesAlike_summarize rfl (fits_totalSummary hsummary) _).bind fun values => .pure _
  · exact .pure _

/-- A step that starts with a budget of its own goes alike whatever the budgets are. -/
theorem Step.GoesAlike.underOwnBudget {α : Type} {step : Step α} (h : GoesAlike e o Eq step)
    (own : SummaryBudget) : GoesAlike e o (fun _ _ => True)
      (Step.change (fun s => { s with budget := own }) >>= fun _ => step) := by
  intro s t halike _
  obtain ⟨outcome, trace, b, c, hs, ht, -, hanswered⟩ :=
    h { s with budget := own } { t with budget := own } halike rfl
  exact ⟨outcome, trace, b, c, hs, ht, trivial, hanswered⟩

theorem goesAlike_answerGroups (hgrant : o.groupSummary ≠ [] → GrantAlike R) :
    GoesAlike e o R (e.answerGroups o) := by
  have hgroups : GoesAlike e o R
      (queryGroups e o o.group 0 (Pipeline.pagingStages o.skip o.take) []) :=
    @goesAlike_queryGroups e o R [] o.group hgrant rfl
  exact hgroups.bind fun groups =>
    (goesAlike_addGroupCount _).bind fun counted => goesAlike_addTotals counted

/-- The steps of a request go alike, whatever the budgets of the sessions are. -/
theorem goesAlike_steps : GoesAlike e o (fun _ _ => True) (e.steps o) := by
  unfold Engine.steps
  split_ifs with hgrouped
  · have hlevels : GoesAlike e o Eq (e.answerGroups o) :=
      goesAlike_answerGroups fun _ => SummaryBudget.grantAlike_eq
    exact goesAlike_reportFilter.bind fun _ => hlevels.underOwnBudget _
  · have hflat : o.group = [] := by simpa [LoadOptions.isGrouped] using hgrouped
    have hfits : Question.rows.Fits o := hflat
    unfold Engine.queryRows
    rw [← Question.pipeline_rows]
    exact goesAlike_reportFilter.bind fun _ =>
      (goesAlike_rows hfits).bind fun rows => goesAlike_addTotals _

/-- From two sessions in which the runner answers alike, a request ends alike, and in between it
    goes through the same occurrences. -/
theorem Engine.query_goesAlike (e : Engine) (o : LoadOptions) {s t : Session}
    (halike : e.runner.AnswersAlike s.pipelines t.pipelines) :
    ∃ outcome trace b c,
      e.query o s = (outcome, conclude o outcome ((start o s).after e o trace b)) ∧
      e.query o t = (outcome, conclude o outcome ((start o t).after e o trace c)) ∧
      Exchange.AreAnswered e o s.pipelines (Occurrence.exchanges trace) := by
  obtain ⟨outcome, trace, b, c, hs, ht, -, hanswered⟩ :=
    goesAlike_steps (start o s) (start o t) halike trivial
  refine ⟨outcome, trace, b, c, ?_, ?_, hanswered⟩
  · rw [query_eq, hs]
  · rw [query_eq, ht]

end Requests

end GridQuery
