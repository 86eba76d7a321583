import Mathlib
import GridQuery.Proofs.Asking

/-!
# What happens in a request

Of the session that it goes on from, a request sees only what the runner is going to answer and what
the budget is going to grant. All it does to the session is to add to it, one occurrence after the
other: a pipeline with its answer, a summary that is skipped, a report. So two sessions that look
alike in these respects go through the same occurrences, whatever else they hold.

Results:
* `Session.after`: what occurrences add to a session.
* `Step.GoesAlike`: the step goes alike from sessions that look alike, through the same occurrences.
* `Step.GoesAlike.bind`, `Step.GoesAlike.mapM`: a step goes alike if its parts do.
* `Step.GoesAlike.asks`: a step that asks one question.
-/

namespace GridQuery

/-! ## Occurrences -/

/-- Something that happens in a request and is kept in the session. -/
inductive Occurrence where
  /-- The filter became no predicate. -/
  | filterDiscarded (filter : Json)
  /-- A pipeline was handed over and answered. -/
  | asked (x : Exchange)
  /-- A summary was refused for the first time. -/
  | budgetExhausted (limit : UInt32)
  | summarySkipped

namespace Exchange

/-- The groups of an exchange about groups, if all documents that were answered are groups. -/
def groups? (x : Exchange) : Option (List Group) :=
  match x.question, x.answer with
  | .groups _ _ _, .ok docs => (docs.mapM Group.ofJson).toOption
  | _, _ => none

/-- A pipeline is reported before it is handed over. -/
def executed (x : Exchange) (e : Engine) (o : LoadOptions) : LogRecord :=
  Event.pipelineExecute.record [("stages", toString (x.pipeline e o).length)]

/-- The groups of a level are reported once they have been read. -/
def levelQueried? (x : Exchange) : Option LogRecord :=
  x.groups?.map fun groups => Event.groupLevelQueried.record
    [("groups", toString groups.length), ("level", toString x.question.path.length)]

/-- What an exchange adds to the counters. -/
def count (m : Metrics) (x : Exchange) : Metrics :=
  { m with
    pipelinesExecuted := m.pipelinesExecuted + 1
    countQueries := m.countQueries + if x.question.isCount then 1 else 0
    summaryQueries := m.summaryQueries + if x.question.isSummary then 1 else 0
    groupsMaterialized :=
      m.groupsMaterialized + UInt64.ofNat ((x.groups?.map List.length).getD 0) }

/-- The exchanges are about a request, and their answers are those of the runner, to which other
    pipelines have been handed over before. -/
def AreAnswered (e : Engine) (o : LoadOptions) : (before : List Pipeline) → List Exchange → Prop
  | _, [] => True
  | before, x :: rest =>
    (x.question.Fits o ∧ x.answer = e.runner.answer before (x.pipeline e o)) ∧
      AreAnswered e o (before ++ [x.pipeline e o]) rest

theorem areAnswered_append {e : Engine} {o : LoadOptions} {before : List Pipeline}
    {first second : List Exchange} : AreAnswered e o before (first ++ second) ↔
      AreAnswered e o before first ∧
        AreAnswered e o (before ++ first.map (·.pipeline e o)) second := by
  induction first generalizing before with
  | nil => simp [AreAnswered]
  | cons x first ih =>
    rw [List.cons_append, AreAnswered, AreAnswered, ih, List.map_cons, List.append_assoc,
      List.singleton_append, and_assoc (c := AreAnswered e o _ second)]

end Exchange

namespace Occurrence

def exchange? : Occurrence → Option Exchange
  | asked x => some x
  | filterDiscarded _ | budgetExhausted _ | summarySkipped => none

/-- The exchanges among occurrences. -/
def exchanges (trace : List Occurrence) : List Exchange := trace.filterMap exchange?

theorem exchanges_append (first second : List Occurrence) :
    exchanges (first ++ second) = exchanges first ++ exchanges second :=
  List.filterMap_append

theorem exchanges_cons (x : Occurrence) (rest : List Occurrence) :
    exchanges (x :: rest) = x.exchange?.toList ++ exchanges rest := by
  cases hx : x.exchange? <;> simp [exchanges, hx]

/-- What is reported of an occurrence. -/
def records (e : Engine) (o : LoadOptions) : Occurrence → List LogRecord
  | filterDiscarded filter => [Event.filterDiscarded.record [("filter", filter.text)]]
  | asked x => x.executed e o :: x.levelQueried?.toList
  | budgetExhausted limit =>
    [Event.summaryBudgetExhausted.record [("limit", toString limit.toNat)]]
  | summarySkipped => []

/-- What an occurrence adds to the counters. -/
def count (m : Metrics) : Occurrence → Metrics
  | asked x => x.count m
  | summarySkipped => m.addSkippedSummary
  | filterDiscarded _ | budgetExhausted _ => m

end Occurrence

/-! ## Sessions -/

namespace Log

/-- Adds the records whose severity is enabled. -/
def writeAll (log : Log) (records : List LogRecord) : Log :=
  { log with records := log.records ++ records.filter fun r => log.isEnabled r.severity }

theorem writeAll_nil (log : Log) : log.writeAll [] = log := by simp [writeAll]

theorem write_eq (log : Log) (record : LogRecord) : log.write record = log.writeAll [record] := by
  unfold write writeAll
  by_cases h : log.isEnabled record.severity <;> simp [h]

theorem writeAll_writeAll (log : Log) (first second : List LogRecord) :
    (log.writeAll first).writeAll second = log.writeAll (first ++ second) := by
  simp only [writeAll, List.filter_append, List.append_assoc]
  rfl

end Log

namespace Session

/-- The session after such occurrences, with the budget that is left by then. -/
def after (s : Session) (e : Engine) (o : LoadOptions) (trace : List Occurrence)
    (budget : SummaryBudget) : Session where
  pipelines := s.pipelines ++ (Occurrence.exchanges trace).map (·.pipeline e o)
  metrics := trace.foldl Occurrence.count s.metrics
  log := s.log.writeAll (trace.flatMap (·.records e o))
  budget := budget

variable {e : Engine} {o : LoadOptions}

theorem after_nil (s : Session) : s.after e o [] s.budget = s := by
  simp [after, Occurrence.exchanges, Log.writeAll_nil]

theorem after_after (s : Session) (first second : List Occurrence) (b c : SummaryBudget) :
    (s.after e o first b).after e o second c = s.after e o (first ++ second) c := by
  simp [after, Occurrence.exchanges_append, Log.writeAll_writeAll]

/-- A pipeline is handed over, reported and counted. -/
theorem handOver_eq (s : Session) (p : Pipeline) :
    s.handOver p =
      { s with
        pipelines := s.pipelines ++ [p]
        metrics := s.metrics.addPipeline
        log := s.log.writeAll [Event.pipelineExecute.record [("stages", toString p.length)]] } := by
  rw [← Log.write_eq]
  rfl

end Session

/-! ## Sessions that look alike -/

/-- The runner answers alike from now on, whichever of the two has been handed over to it. -/
def Runner.AnswersAlike (runner : Runner) (before before' : List Pipeline) : Prop :=
  ∀ later p, runner.answer (before ++ later) p = runner.answer (before' ++ later) p

namespace Runner.AnswersAlike

variable {runner : Runner} {before before' : List Pipeline}

theorem now (h : runner.AnswersAlike before before') (p : Pipeline) :
    runner.answer before p = runner.answer before' p := by
  have hp := h [] p
  rwa [List.append_nil, List.append_nil] at hp

theorem append (h : runner.AnswersAlike before before') (issued : List Pipeline) :
    runner.AnswersAlike (before ++ issued) (before' ++ issued) := by
  intro later p
  rw [List.append_assoc, List.append_assoc]
  exact h _ p

end Runner.AnswersAlike

/-- The runner answers a pipeline as if it were the first. -/
def Runner.Forgets (runner : Runner) : Prop :=
  ∀ before before', runner.AnswersAlike before before'

theorem Runner.forgets_ofCollection (c : Collection) : (Runner.ofCollection c).Forgets :=
  fun _ _ _ _ => rfl

namespace SummaryBudget

/-- What an attempt adds to the session: the first refusal is reported. -/
def reports (b : SummaryBudget) : List Occurrence :=
  match b.limit with
  | some limit => if b.grants || b.exhausted then [] else [.budgetExhausted limit]
  | none => []

theorem exchanges_reports (b : SummaryBudget) : Occurrence.exchanges b.reports = [] := by
  unfold reports
  split
  · split_ifs <;> rfl
  · rfl

/-- Budgets that are related grant alike, now and after any attempts. -/
def GrantAlike (R : SummaryBudget → SummaryBudget → Prop) : Prop :=
  ∀ b c, R b c → b.grants = c.grants ∧ b.reports = c.reports ∧ R b.attempt c.attempt

theorem grantAlike_eq : GrantAlike Eq := by
  rintro b _ rfl
  exact ⟨rfl, rfl, rfl⟩

/-- Two budgets of the same kind. -/
def Both (kept : SummaryBudget → Prop) (b c : SummaryBudget) : Prop := kept b ∧ kept c

/-- Budgets without a ceiling grant everything. -/
theorem grantAlike_of_no_limit {kept : SummaryBudget → Prop}
    (hlimit : ∀ b, kept b → b.limit = none) (hattempt : ∀ b, kept b → kept b.attempt) :
    GrantAlike (Both kept) := by
  rintro b c ⟨hb, hc⟩
  refine ⟨?_, ?_, hattempt b hb, hattempt c hc⟩
  · rw [grants, grants, hlimit b hb, hlimit c hc]
  · rw [reports, reports, hlimit b hb, hlimit c hc]

end SummaryBudget

theorem Session.attemptSummary_eq {e : Engine} {o : LoadOptions} (s : Session) :
    s.attemptSummary = s.after e o s.budget.reports s.budget.attempt := by
  cases hlimit : s.budget.limit with
  | none =>
    simp [attemptSummary, SummaryBudget.reports, hlimit, after, Occurrence.exchanges,
      Log.writeAll_nil]
  | some limit =>
    by_cases hquiet : (s.budget.grants || s.budget.exhausted) = true
    · simp [attemptSummary, SummaryBudget.reports, hlimit, hquiet, after, Occurrence.exchanges,
        Log.writeAll_nil]
    · simp [attemptSummary, SummaryBudget.reports, hlimit, hquiet, after, Occurrence.exchanges,
        Occurrence.exchange?, Occurrence.count, Occurrence.records, write, Log.write_eq]

/-! ## Steps -/

namespace Step

variable {α β : Type} {e : Engine} {o : LoadOptions} {R : SummaryBudget → SummaryBudget → Prop}

/-- From sessions that look alike, the step ends alike, and it goes through the same occurrences. -/
def GoesAlike (e : Engine) (o : LoadOptions) (R : SummaryBudget → SummaryBudget → Prop)
    (step : Step α) : Prop :=
  ∀ s t, e.runner.AnswersAlike s.pipelines t.pipelines → R s.budget t.budget →
    ∃ outcome trace b c, step.outcome s = (outcome, s.after e o trace b) ∧
      step.outcome t = (outcome, t.after e o trace c) ∧ R b c ∧
      Exchange.AreAnswered e o s.pipelines (Occurrence.exchanges trace)

namespace GoesAlike

theorem pure (a : α) : GoesAlike e o R (Pure.pure a : Step α) := by
  intro s t _ hbudget
  refine ⟨.ok a, [], s.budget, t.budget, ?_, ?_, hbudget, trivial⟩
  · rw [s.after_nil]
    rfl
  · rw [t.after_nil]
    rfl

theorem throw (failure : Failure) : GoesAlike e o R (throw failure : Step α) := by
  intro s t _ hbudget
  refine ⟨.error failure, [], s.budget, t.budget, ?_, ?_, hbudget, trivial⟩
  · rw [s.after_nil]
    rfl
  · rw [t.after_nil]
    rfl

theorem bind {step : Step α} {next : α → Step β} (h : GoesAlike e o R step)
    (hnext : ∀ a, GoesAlike e o R (next a)) : GoesAlike e o R (step >>= next) := by
  intro s t halike hbudget
  obtain ⟨outcome, first, b, c, hs, ht, hleft, hfirst⟩ := h s t halike hbudget
  rw [outcome_bind, outcome_bind, hs, ht]
  cases outcome with
  | error failure => exact ⟨.error failure, first, b, c, rfl, rfl, hleft, hfirst⟩
  | ok a =>
    obtain ⟨last, second, b', c', hs', ht', hleft', hsecond⟩ :=
      hnext a (s.after e o first b) (t.after e o first c) (halike.append _) hleft
    refine ⟨last, first ++ second, b', c', ?_, ?_, hleft', ?_⟩
    · rw [← Session.after_after]
      exact hs'
    · rw [← Session.after_after]
      exact ht'
    · rw [Occurrence.exchanges_append, Exchange.areAnswered_append]
      exact ⟨hfirst, hsecond⟩

theorem mapM {f : α → Step β} {items : List α} (h : ∀ item ∈ items, GoesAlike e o R (f item)) :
    GoesAlike e o R (items.mapM f) := by
  induction items with
  | nil =>
    rw [List.mapM_nil]
    exact pure []
  | cons item items ih =>
    rw [List.mapM_cons]
    have hrest := ih fun other hother => h other (List.mem_cons_of_mem _ hother)
    exact (h item List.mem_cons_self).bind fun b => hrest.bind fun out => pure (b :: out)

/-- A step that does nothing but add one occurrence, which is no exchange. -/
theorem change {f : Session → Session} {x : Occurrence} (hnone : x.exchange? = none)
    (h : ∀ s, f s = s.after e o [x] s.budget) : GoesAlike e o R (Step.change f) := by
  intro s t _ hbudget
  refine ⟨.ok (), [x], s.budget, t.budget, ?_, ?_, hbudget, ?_⟩
  · rw [← h s]
    rfl
  · rw [← h t]
    rfl
  · rw [Occurrence.exchanges, List.filterMap_cons_none hnone]
    trivial

/-- A step that asks one question and reads the answer. -/
theorem asks {q : Question} {step : Step α}
    (read : Except Failure (List Json) → Except Failure α) (hfits : q.Fits o)
    (hread : ∀ s, (step.outcome s).1 = read (e.runner.answer s.pipelines (q.pipeline e o)))
    (hadds : ∀ s, (step.outcome s).2 =
      s.after e o [.asked ⟨q, e.runner.answer s.pipelines (q.pipeline e o)⟩] s.budget) :
    GoesAlike e o R step := by
  intro s t halike hbudget
  have hanswer := halike.now (q.pipeline e o)
  refine ⟨_, _, s.budget, t.budget, Prod.ext (hread s) (hadds s), ?_, hbudget,
    ⟨hfits, rfl⟩, trivial⟩
  rw [hanswer]
  exact Prod.ext (hread t) (hadds t)

/-- Attempts at summaries are granted alike. -/
theorem acquireSummary (hgrant : SummaryBudget.GrantAlike R) :
    GoesAlike e o R Step.acquireSummary := by
  intro s t _ hbudget
  obtain ⟨hgrants, hreports, hleft⟩ := hgrant _ _ hbudget
  refine ⟨.ok s.budget.grants, s.budget.reports, s.budget.attempt, t.budget.attempt, ?_, ?_, hleft,
    ?_⟩
  · rw [← s.attemptSummary_eq]
    rfl
  · rw [hgrants, hreports, ← t.attemptSummary_eq]
    rfl
  · rw [SummaryBudget.exchanges_reports]
    trivial

end GoesAlike

end Step

end GridQuery
