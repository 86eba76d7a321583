import Mathlib
import GridQuery.Proofs.Alike

/-!
# The log of a request

A log leaves out the records that are less severe than its minimum, and nothing else depends on it.
With the least minimum it tells the whole request: how it begins and ends, each pipeline that is
handed over, and the groups of each level that have been read.

Results:
* `Engine.log_query`: the records of a request, in their order.
* `Occurrence.filter_executed`, `Occurrence.filter_levelQueried`: what is reported of exchanges.
* `Engine.logging_observes`: the minimum of a log decides about its records and about nothing else.
-/

namespace GridQuery

/-! ## Records of exchanges -/

theorem Event.name_inj {event other : Event} (h : event.name = other.name) : event = other := by
  cases event <;> cases other <;> first | rfl | exact absurd h (by decide)

/-- The record is one of an event. -/
def LogRecord.isOf (event : Event) (r : LogRecord) : Bool := r.event = event.name

theorem isOf_record (event other : Event) (fields : List (String × String)) :
    (other.record fields).isOf event = decide (other = event) := by
  rw [LogRecord.isOf, Event.record]
  exact decide_eq_decide.mpr ⟨Event.name_inj, fun h => h ▸ rfl⟩

namespace Occurrence

variable {e : Engine} {o : LoadOptions}

/-- Every record on the way is one of an event. -/
theorem exists_event {x : Occurrence} {r : LogRecord} (h : r ∈ x.records e o) :
    ∃ event fields, r = Event.record event fields := by
  cases x with
  | filterDiscarded filter => exact ⟨_, _, List.mem_singleton.mp h⟩
  | budgetExhausted limit => exact ⟨_, _, List.mem_singleton.mp h⟩
  | summarySkipped => cases h
  | asked x =>
    rcases List.mem_cons.mp h with rfl | h
    · exact ⟨_, _, rfl⟩
    · obtain ⟨groups, -, rfl⟩ := Option.map_eq_some_iff.mp (Option.mem_toList.mp h)
      exact ⟨_, _, rfl⟩

/-- One record of a pipeline for each exchange. -/
theorem filter_executed (trace : List Occurrence) :
    (trace.flatMap (·.records e o)).filter (LogRecord.isOf .pipelineExecute) =
      (exchanges trace).map (·.executed e o) := by
  induction trace with
  | nil => rfl
  | cons x rest ih =>
    rw [List.flatMap_cons, List.filter_append, ih]
    cases x with
    | asked x =>
      have hnone : x.levelQueried?.toList.filter (LogRecord.isOf .pipelineExecute) = [] := by
        cases hgroups : x.groups? <;> simp [Exchange.levelQueried?, hgroups, isOf_record]
      simp [records, exchanges, exchange?, Exchange.executed, isOf_record, hnone]
    | filterDiscarded filter | budgetExhausted limit =>
      simp [records, exchanges_cons, exchange?, isOf_record]
    | summarySkipped => simp [records, exchanges_cons, exchange?]

/-- One record of a level for each exchange of which the groups have been read. -/
theorem filter_levelQueried (trace : List Occurrence) :
    (trace.flatMap (·.records e o)).filter (LogRecord.isOf .groupLevelQueried) =
      (exchanges trace).filterMap Exchange.levelQueried? := by
  induction trace with
  | nil => rfl
  | cons x rest ih =>
    rw [List.flatMap_cons, List.filter_append, ih]
    cases x with
    | asked x =>
      cases hgroups : x.groups? <;>
        simp [records, exchanges, exchange?, Exchange.executed, Exchange.levelQueried?, hgroups,
          isOf_record]
    | filterDiscarded filter | budgetExhausted limit =>
      simp [records, exchanges_cons, exchange?, isOf_record]
    | summarySkipped => simp [records, exchanges_cons, exchange?]

end Occurrence

/-! ## The whole log -/

namespace Engine

/-- The names of the records with which a request can end. -/
def endings : List String := ["QUERY_COMPLETE", "QUERY_FAILED", "QUERY_INCOMPLETE"]

/-- The record with which a request ends: it is complete, or has failed with an error, or was given
    up without one. -/
def ending (o : LoadOptions) : Except Failure Response → LogRecord
  | .ok _ => (scope o).completed
  | .error (.error problem) => (scope o).failed problem.code problem.message
  | .error .aborted => (scope o).abandoned

/-- What the records of a request tell about it. -/
structure Tells (e : Engine) (o : LoadOptions) (outcome : Except Failure Response)
    (exchanged : List Exchange) (records : List LogRecord) : Prop where
  /-- The first record is that of the start, and no other one is. -/
  begins : ∃ rest, records = (scope o).began :: rest ∧ ∀ r ∈ rest, r.event ≠ "QUERY_BEGIN"
  /-- The last record is that of the end, and no other one is. -/
  ends : ∃ front, records = front ++ [ending o outcome] ∧ ∀ r ∈ front, r.event ∉ endings
  /-- Each pipeline is reported with the number of its stages. -/
  executed : records.filter (LogRecord.isOf .pipelineExecute) = exchanged.map (·.executed e o)
  /-- Each level of which the groups have been read is reported with their number. -/
  levels : records.filter (LogRecord.isOf .groupLevelQueried) =
    exchanged.filterMap Exchange.levelQueried?

variable {e : Engine} {o : LoadOptions}

theorem log_conclude (o : LoadOptions) (outcome : Except Failure Response) (s : Session) :
    (conclude o outcome s).log = s.log.writeAll [ending o outcome] := by
  rw [← Log.write_eq]
  rcases outcome with (_ | _) | _ <;> rfl

/-- The records of a request: that of its start, those of its occurrences, and that of its end. -/
theorem log_query (s : Session) (trace : List Occurrence) (budget : SummaryBudget)
    (outcome : Except Failure Response) :
    (conclude o outcome ((start o s).after e o trace budget)).log =
      s.log.writeAll ((scope o).began :: trace.flatMap (·.records e o) ++ [ending o outcome]) := by
  rw [log_conclude, ← Log.writeAll_writeAll]
  congr 1
  rw [← List.singleton_append, ← Log.writeAll_writeAll, ← Log.write_eq]
  rfl

/-- What happens on the way is not taken for the start or the end. -/
theorem event_record_ne (event : Event) (fields : List (String × String)) :
    (event.record fields).event ≠ "QUERY_BEGIN" ∧ (event.record fields).event ∉ endings := by
  change event.name ≠ "QUERY_BEGIN" ∧ event.name ∉ endings
  cases event <;> decide

theorem event_ending (o : LoadOptions) (outcome : Except Failure Response) :
    (ending o outcome).event ∈ endings := by
  rcases outcome with (_ | _) | _ <;>
    simp [ending, Scope.completed, Scope.failed, Scope.abandoned, scope, endings]

/-- Only a request that is given up without an outcome is incomplete. -/
theorem ending_ne_incomplete {outcome : Except Failure Response}
    (h : outcome ≠ .error .aborted) : (ending o outcome).event ≠ "QUERY_INCOMPLETE" := by
  rcases outcome with (problem | _) | r
  · exact (by decide : "QUERY_FAILED" ≠ "QUERY_INCOMPLETE")
  · exact absurd rfl h
  · exact (by decide : "QUERY_COMPLETE" ≠ "QUERY_INCOMPLETE")

theorem not_isOf_of_mem_endings (event : Event) {r : LogRecord} (h : r.event ∈ endings) :
    r.isOf event = false := by
  have hne : r.event ≠ event.name := by
    intro heq
    rw [heq] at h
    exact (event_record_ne event []).2 h
  simp [LogRecord.isOf, hne]

/-- The records of a request tell how it starts, what is exchanged, and how it ends. -/
theorem tells_records (trace : List Occurrence) (outcome : Except Failure Response) :
    e.Tells o outcome (Occurrence.exchanges trace)
      ((scope o).began :: trace.flatMap (·.records e o) ++ [ending o outcome]) := by
  have hends := event_ending o outcome
  have honway : ∀ r ∈ trace.flatMap (·.records e o),
      r.event ≠ "QUERY_BEGIN" ∧ r.event ∉ endings := by
    intro r hr
    obtain ⟨x, -, hr⟩ := List.mem_flatMap.mp hr
    obtain ⟨event, fields, rfl⟩ := Occurrence.exists_event hr
    exact event_record_ne event fields
  have hfiltered : ∀ event : Event,
      ((scope o).began :: trace.flatMap (·.records e o) ++ [ending o outcome]).filter
          (LogRecord.isOf event) =
        (trace.flatMap (·.records e o)).filter (LogRecord.isOf event) := by
    -- Neither the first record nor the last one is that of an event.
    intro event
    have hbegan : (scope o).began.isOf event = false := by cases event <;> rfl
    simp [hbegan, not_isOf_of_mem_endings event hends]
  refine ⟨⟨_, rfl, ?_⟩, ⟨_, rfl, ?_⟩, ?_, ?_⟩
  · intro r hr
    rcases List.mem_append.mp hr with hr | hr
    · exact (honway r hr).1
    · rintro hbegin
      rw [List.mem_singleton.mp hr] at hbegin
      rw [hbegin] at hends
      exact absurd hends (by decide)
  · intro r hr
    rcases List.mem_cons.mp hr with rfl | hr
    · exact (by decide : "QUERY_BEGIN" ∉ endings)
    · exact (honway r hr).2
  · rw [hfiltered, Occurrence.filter_executed]
  · rw [hfiltered, Occurrence.filter_levelQueried]

/-- A runner that always comes back leaves no request without an outcome. -/
theorem query_ne_aborted (hreturns : ∀ before p, e.runner.answer before p ≠ .error .aborted)
    (s : Session) : (e.query o s).1 ≠ .error .aborted := by
  intro haborted
  obtain ⟨trace, hexchanged⟩ := e.exists_trace o s
  have hconcludes := hexchanged.concludes
  rw [haborted] at hconcludes
  obtain ⟨before, last, htrace, -, hlast⟩ := hconcludes
  have hanswer := (hexchanged.follows.split htrace).answer
  unfold Exchange.failure? at hlast
  split at hlast
  · next failure hfailure =>
    cases hlast
    exact hreturns _ _ (hanswer.symm.trans hfailure)
  · next docs _ =>
    obtain ⟨fault, -, hfault⟩ := Option.map_eq_some_iff.mp hlast
    cases hfault

/-- Everything is kept by a log with the least minimum. -/
theorem records_query (o : LoadOptions) (s : Session) (trace : List Occurrence)
    (budget : SummaryBudget) (outcome : Except Failure Response) :
    (conclude o outcome ((start o { s with log := { least := .trace } }).after e o trace
      budget)).log.records =
      (scope o).began :: trace.flatMap (·.records e o) ++ [ending o outcome] := by
  rw [log_query]
  simp [Log.writeAll, Log.isEnabled, Severity.rank]

/-- Logging only observes.

    What a request answers, hands over and counts does not depend on the log, and a log keeps of the
    whole records those that are severe enough for it. The whole records tell how the request starts
    and ends, each pipeline in the order in which it was handed over, and each level of which the
    groups have been read. If the runner always comes back, the request is never incomplete. -/
theorem logging_observes (e : Engine) (o : LoadOptions) (s : Session) :
    let traced := e.query o { s with log := { least := .trace } }
    (∀ log : Log,
      let logged := e.query o { s with log := log }
      logged.1 = traced.1 ∧ logged.2.pipelines = traced.2.pipelines ∧
        logged.2.metrics = traced.2.metrics ∧
        logged.2.log = { log with
          records := log.records ++
            traced.2.log.records.filter fun r => log.least.rank ≤ r.severity.rank }) ∧
    (∃ exchanged,
      traced.2.pipelines = s.pipelines ++ exchanged.map (·.pipeline e o) ∧
        Exchange.AreAnswered e o s.pipelines exchanged ∧
        e.Tells o traced.1 exchanged traced.2.log.records) ∧
    ((∀ before p, e.runner.answer before p ≠ .error .aborted) →
      traced.1 ≠ .error .aborted ∧
        ∀ r ∈ traced.2.log.records, r.event ≠ "QUERY_INCOMPLETE") := by
  intro traced
  -- The runner does not look at the log, so the traced request goes alike with any other one.
  have hruns : ∀ log, ∃ outcome trace b c,
      traced = (outcome,
        conclude o outcome ((start o { s with log := { least := .trace } }).after e o trace b)) ∧
      e.query o { s with log := log } =
        (outcome, conclude o outcome ((start o { s with log := log }).after e o trace c)) ∧
      Exchange.AreAnswered e o s.pipelines (Occurrence.exchanges trace) :=
    fun log => @query_goesAlike e o { s with log := { least := .trace } } { s with log := log }
      fun _ _ => rfl
  refine ⟨fun log => ?_, ?_, fun hreturns => ?_⟩
  · obtain ⟨outcome, trace, b, c, htraced, hlogged, -⟩ := hruns log
    rw [htraced, hlogged, records_query]
    refine ⟨rfl, ?_, ?_, log_query _ _ _ _⟩
    · rw [pipelines_conclude, pipelines_conclude]
      rfl
    · rw [metrics_conclude, metrics_conclude]
      rfl
  · obtain ⟨outcome, trace, b, -, htraced, -, hanswered⟩ := hruns s.log
    rw [htraced, records_query, pipelines_conclude]
    exact ⟨Occurrence.exchanges trace, rfl, hanswered, tells_records trace outcome⟩
  · have hreturned : traced.1 ≠ .error .aborted := query_ne_aborted hreturns _
    obtain ⟨outcome, trace, b, -, htraced, -, -⟩ := hruns s.log
    obtain ⟨front, hfront, hrest⟩ := (@tells_records e o trace outcome).ends
    refine ⟨hreturned, ?_⟩
    rw [htraced] at hreturned
    rw [htraced, records_query, hfront]
    intro r hr
    rcases List.mem_append.mp hr with hr | hr
    · intro hincomplete
      have hending : r.event ∈ endings := by simp [endings, hincomplete]
      exact hrest r hr hending
    · rw [List.mem_singleton.mp hr]
      exact ending_ne_incomplete hreturned

/-- Prepared answers come back, also once they are used up. -/
theorem ofAnswers_ne_aborted {answers : List (Except Failure (List Json))}
    (h : .error .aborted ∉ answers) (before : List Pipeline) (p : Pipeline) :
    (Runner.ofAnswers answers).answer before p ≠ .error .aborted := by
  simp only [Runner.ofAnswers]
  cases hanswer : answers[before.length]? with
  | none => exact nofun
  | some answer =>
    rintro rfl
    exact h (List.mem_of_getElem? hanswer)

/-- Two expanded levels with summaries. -/
def answeredLevels : LoadOptions where
  sort := [⟨"c", true⟩]
  group := [⟨"a", false, true, none⟩, ⟨"b", false, true, none⟩]
  groupSummary := [⟨"c", .sum⟩]

/-- Prepared answers to it: two groups, one group with a row inside the first of them, its summary,
    and one group inside the second. The summaries after that are without a value. -/
def overAnsweredLevels : Engine where
  runner := .ofAnswers <| List.map .ok
    [ [.single "key" (.string "x"), .single "key" .null],
      [.object [("key", .ofUInt64 1), ("count", .ofUInt64 1),
        ("items", .array [.single "c" (.ofUInt64 3)])]],
      [.single "_sum_c" (.ofUInt64 3)],
      [.single "key" .null] ]

/-- The whole log tells each pipeline and each level, and the usual one only the start and the end of
    the same request. -/
theorem logging_observes_answeredLevels :
    let traced := overAnsweredLevels.query answeredLevels { log := { least := .trace } }
    let logged := overAnsweredLevels.query answeredLevels { log := {} }
    (∀ before p, overAnsweredLevels.runner.answer before p ≠ .error .aborted) ∧
      logged.1 = traced.1 ∧
      traced.2.log.records.map (·.event) =
        ["QUERY_BEGIN", "PIPELINE_EXECUTE", "GROUP_LEVEL_QUERIED", "PIPELINE_EXECUTE",
          "GROUP_LEVEL_QUERIED", "PIPELINE_EXECUTE", "PIPELINE_EXECUTE", "GROUP_LEVEL_QUERIED",
          "PIPELINE_EXECUTE", "PIPELINE_EXECUTE", "PIPELINE_EXECUTE", "QUERY_COMPLETE"] ∧
      logged.2.log.records.map (·.event) = ["QUERY_BEGIN", "QUERY_COMPLETE"] ∧
      ∀ r ∈ traced.2.log.records, r.event ≠ "QUERY_INCOMPLETE" := by
  intro traced logged
  have hreturns : ∀ before p, overAnsweredLevels.runner.answer before p ≠ .error .aborted :=
    ofAnswers_ne_aborted (by simp)
  obtain ⟨hlogs, -, hends⟩ := logging_observes overAnsweredLevels answeredLevels {}
  obtain ⟨hsame, -, -, hkept⟩ := hlogs {}
  refine ⟨hreturns, hsame, by decide +kernel, ?_, (hends hreturns).2⟩
  rw [hkept]
  decide +kernel

end Engine

end GridQuery
