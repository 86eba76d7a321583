import Mathlib
import GridQuery.Engine.Basic
import GridQuery.Proofs.GroupTrees
import GridQuery.Proofs.Steps

/-!
# The budget of summaries

A budget counts attempts. The attempts up to its ceiling are granted and all others are refused, as
long as the counter has room for them. A session shows what has been attempted: each summary that
was granted is a pipeline, each one refused is counted as skipped, and the first refusal is a
record.

Results:
* `SummaryBudget.Spent.answers_eq`: which attempts are granted.
* `Spends.trans`: what is spent from one session to the next, and on to a third.
* `Spends.granted`, `Spends.refused`: one attempt.
-/

namespace GridQuery

/-! ## Attempts in a row -/

namespace SummaryBudget

/-- The budget after so many attempts. -/
def after (b : SummaryBudget) : Nat → SummaryBudget
  | 0 => b
  | n + 1 => b.attempt.after n

/-- Whether each of so many attempts is granted, in their order. -/
def answers (b : SummaryBudget) : Nat → List Bool
  | 0 => []
  | n + 1 => b.grants :: b.attempt.answers n

variable {b : SummaryBudget}

theorem after_add (b : SummaryBudget) (m n : Nat) : b.after (m + n) = (b.after m).after n := by
  induction m generalizing b with
  | zero => rw [Nat.zero_add, after]
  | succ m ih => rw [Nat.succ_add, after, after, ih]

theorem answers_add (b : SummaryBudget) (m n : Nat) :
    b.answers (m + n) = b.answers m ++ (b.after m).answers n := by
  induction m generalizing b with
  | zero => rw [Nat.zero_add, answers, after, List.nil_append]
  | succ m ih => rw [Nat.succ_add, answers, answers, after, ih, List.cons_append]

theorem length_answers (b : SummaryBudget) (n : Nat) : (b.answers n).length = n := by
  induction n generalizing b with
  | zero => rfl
  | succ n ih => rw [answers, List.length_cons, ih]

/-- A budget that is exhausted stays so. -/
theorem exhausted_after (h : b.exhausted = true) (n : Nat) : (b.after n).exhausted = true := by
  induction n generalizing b with
  | zero => exact h
  | succ n ih => exact ih (by rw [attempt, h, Bool.true_or])

/-- Without a ceiling every attempt is granted. -/
theorem answers_of_no_limit (h : b.limit = none) (n : Nat) :
    b.answers n = List.replicate n true := by
  induction n generalizing b with
  | zero => rfl
  | succ n ih =>
    have hgrants : b.grants = true := by rw [grants, h]
    rw [answers, hgrants, ih (b := b.attempt) h, List.replicate_succ]

/-- So many attempts have been counted against a ceiling. -/
structure Spent (b : SummaryBudget) (limit : UInt32) (attempts : Nat) : Prop where
  limit_eq : b.limit = some limit
  attempts_eq : b.attempts.toNat = attempts
  exhausted_eq : b.exhausted = decide (limit.toNat < attempts)

namespace Spent

variable {limit : UInt32} {attempts : Nat}

/-- As long as the counter has room, an attempt is granted if the ceiling has not been reached. -/
theorem grants_eq (h : b.Spent limit attempts) (hroom : attempts + 1 < 2 ^ 32) :
    b.grants = decide (attempts < limit.toNat) := by
  have hnot : b.attempts ≠ 0xffffffff := by
    intro hmax
    have hattempts := h.attempts_eq
    rw [hmax] at hattempts
    have : (0xffffffff : UInt32).toNat = 2 ^ 32 - 1 := rfl
    omega
  have hnext : b.next.toNat = attempts + 1 := by
    rw [next, if_neg hnot, UInt32.toNat_add, h.attempts_eq]
    exact Nat.mod_eq_of_lt hroom
  rw [grants, h.limit_eq]
  simp only [UInt32.le_iff_toNat_le, hnext, Nat.succ_le_iff]

theorem attempt (h : b.Spent limit attempts) (hroom : attempts + 1 < 2 ^ 32) :
    b.attempt.Spent limit (attempts + 1) where
  limit_eq := h.limit_eq
  attempts_eq := by
    rw [SummaryBudget.attempt, UInt32.toNat_add, h.attempts_eq]
    exact Nat.mod_eq_of_lt hroom
  exhausted_eq := by
    rw [SummaryBudget.attempt, h.grants_eq hroom, h.exhausted_eq, Bool.eq_iff_iff]
    simp only [Bool.or_eq_true, decide_eq_true_eq, Bool.not_eq_true', decide_eq_false_iff_not]
    omega

/-- The attempts up to the ceiling are granted, and no others. -/
theorem answers_eq (h : b.Spent limit attempts) {n : Nat} (hroom : attempts + n < 2 ^ 32) :
    b.answers n = List.replicate (min (limit.toNat - attempts) n) true ++
      List.replicate (n - min (limit.toNat - attempts) n) false := by
  induction n generalizing b attempts with
  | zero => simp [answers]
  | succ n ih =>
    have hattempt := h.attempt (by omega)
    rw [answers, h.grants_eq (by omega), ih hattempt (by omega)]
    by_cases hbelow : attempts < limit.toNat
    · have hmin : min (limit.toNat - attempts) (n + 1) =
          min (limit.toNat - (attempts + 1)) n + 1 := by omega
      rw [decide_eq_true hbelow, hmin, List.replicate_succ, List.cons_append, Nat.add_sub_add_right]
    · have hnone : limit.toNat - attempts = 0 := by omega
      have hnone' : limit.toNat - (attempts + 1) = 0 := by omega
      simp [decide_eq_false hbelow, hnone, hnone', List.replicate_succ]

theorem after (h : b.Spent limit attempts) {n : Nat} (hroom : attempts + n < 2 ^ 32) :
    (b.after n).Spent limit (attempts + n) := by
  induction n generalizing b attempts with
  | zero => exact h
  | succ n ih =>
    have hlast := ih (h.attempt (by omega)) (by omega)
    rwa [Nat.add_assoc, Nat.add_comm 1 n] at hlast

end Spent

/-- Nothing has been counted against a new ceiling. -/
theorem spent_new (limit : UInt32) : Spent { limit := some limit } limit 0 := ⟨rfl, rfl, by simp⟩

end SummaryBudget

/-! ## What a run shows -/

/-- The last stage of a pipeline has the given name. -/
def Pipeline.endsIn (pipeline : Pipeline) (name : String) : Bool :=
  pipeline.getLast?.any fun stage => (stage.get? name).isSome

/-- The groups in an answer; none unless all its documents are groups. -/
def groupsIn (answer : Except Failure (List Json)) : Nat :=
  match answer with
  | .ok docs => ((docs.mapM Group.ofJson).toOption.map List.length).getD 0
  | .error _ => 0

/-- The groups that a runner answers to pipelines that are issued in a row. No groups are asked for
    by a pipeline that counts or reduces its documents. -/
def Runner.groupsAnswered (runner : Runner) : (before issued : List Pipeline) → Nat
  | _, [] => 0
  | before, p :: rest =>
    (if Pipeline.endsIn p "$count" || Pipeline.endsIn p "$group" then 0
      else groupsIn (runner.answer before p)) + runner.groupsAnswered (before ++ [p]) rest

/-- A pipeline of a grouped request that summarizes a group. The only other pipeline that ends in a
    reduction is that of the total summary. -/
def Engine.isGroupSummary (e : Engine) (o : LoadOptions) (pipeline : Pipeline) : Bool :=
  Pipeline.endsIn pipeline "$group" &&
    pipeline != e.filterStages o ++ Pipeline.summaryStages o.totalSummary

/-- The record of a budget that is exhausted. -/
def LogRecord.isExhaustion (record : LogRecord) : Bool :=
  record.event == Event.summaryBudgetExhausted.name

theorem isExhaustion_record (event : Event) (fields : List (String × String)) :
    (event.record fields).isExhaustion = decide (event = .summaryBudgetExhausted) := by
  have hname : (event.name == Event.summaryBudgetExhausted.name) =
      decide (event = .summaryBudgetExhausted) := by
    cases event <;> decide
  exact hname

theorem Log.least_write (log : Log) (record : LogRecord) :
    (log.write record).least = log.least := by
  unfold Log.write
  split_ifs <;> rfl

theorem Log.records_write (log : Log) (record : LogRecord) :
    (log.write record).records =
      log.records ++ if log.isEnabled record.severity then [record] else [] := by
  unfold Log.write
  split_ifs
  · rfl
  · rw [List.append_nil]

theorem Runner.groupsAnswered_append (runner : Runner) (before first second : List Pipeline) :
    runner.groupsAnswered before (first ++ second) =
      runner.groupsAnswered before first + runner.groupsAnswered (before ++ first) second := by
  induction first generalizing before with
  | nil => rw [List.nil_append, groupsAnswered, List.append_nil, Nat.zero_add]
  | cons p rest ih =>
    rw [List.cons_append, groupsAnswered, groupsAnswered, ih, List.append_assoc,
      List.singleton_append, Nat.add_assoc]

/-- From one session to a later one, summaries are attempted and groups are answered. -/
structure Spends (e : Engine) (o : LoadOptions) (attempts answered : Nat) (s s' : Session) :
    Prop where
  budget : s'.budget = s.budget.after attempts
  least : s'.log.least = s.log.least
  skipped : s'.metrics.summaryQueriesSkipped =
    s.metrics.summaryQueriesSkipped + UInt64.ofNat ((s.budget.answers attempts).count false)
  pipelines : ∃ issued, s'.pipelines = s.pipelines ++ issued ∧
    issued.countP (e.isGroupSummary o) = (s.budget.answers attempts).count true ∧
    e.runner.groupsAnswered s.pipelines issued = answered
  records : ∃ written, s'.log.records = s.log.records ++ written ∧
    written.countP LogRecord.isExhaustion =
      if s.log.isEnabled .warn && s'.budget.exhausted && !s.budget.exhausted then 1 else 0

namespace Spends

variable {e : Engine} {o : LoadOptions} {s s₁ s' : Session}

/-- A change that leaves pipelines, budget and skipped summaries alone, and writes no record of an
    exhausted budget. -/
theorem quiet (hbudget : s'.budget = s.budget) (hleast : s'.log.least = s.log.least)
    (hskipped : s'.metrics.summaryQueriesSkipped = s.metrics.summaryQueriesSkipped)
    (hpipelines : s'.pipelines = s.pipelines)
    (hrecords : ∃ written, s'.log.records = s.log.records ++ written ∧
      written.countP LogRecord.isExhaustion = 0) : Spends e o 0 0 s s' where
  budget := hbudget
  least := hleast
  skipped := by rw [hskipped, SummaryBudget.answers, List.count_nil]; simp
  pipelines := ⟨[], by rw [hpipelines, List.append_nil], rfl, rfl⟩
  records := by
    obtain ⟨written, hwritten, hnone⟩ := hrecords
    refine ⟨written, hwritten, ?_⟩
    rw [hbudget, hnone]
    cases s.budget.exhausted <;> simp

theorem refl (s : Session) : Spends e o 0 0 s s :=
  .quiet rfl rfl rfl rfl ⟨[], by simp⟩

theorem trans {n m n' m' : Nat} (h : Spends e o n m s s₁) (h' : Spends e o n' m' s₁ s') :
    Spends e o (n + n') (m + m') s s' where
  budget := by rw [h'.budget, h.budget, SummaryBudget.after_add]
  least := by rw [h'.least, h.least]
  skipped := by
    rw [h'.skipped, h.skipped, h.budget, SummaryBudget.answers_add, List.count_append,
      UInt64.ofNat_add, UInt64.add_assoc]
  pipelines := by
    obtain ⟨first, hfirst, hsummaries, hanswered⟩ := h.pipelines
    obtain ⟨second, hsecond, hsummaries', hanswered'⟩ := h'.pipelines
    refine ⟨first ++ second, by rw [hsecond, hfirst, List.append_assoc], ?_, ?_⟩
    · rw [List.countP_append, hsummaries, hsummaries', h.budget, SummaryBudget.answers_add,
        List.count_append]
    · rw [Runner.groupsAnswered_append, hanswered, ← hfirst, hanswered']
  records := by
    obtain ⟨first, hfirst, hcount⟩ := h.records
    obtain ⟨second, hsecond, hcount'⟩ := h'.records
    refine ⟨first ++ second, by rw [hsecond, hfirst, List.append_assoc], ?_⟩
    have henabled : s₁.log.isEnabled .warn = s.log.isEnabled .warn := by
      rw [Log.isEnabled, Log.isEnabled, h.least]
    have hstays : s.budget.exhausted = true → s₁.budget.exhausted = true := fun hex =>
      h.budget ▸ SummaryBudget.exhausted_after hex n
    have hstays' : s₁.budget.exhausted = true → s'.budget.exhausted = true := fun hex =>
      h'.budget ▸ SummaryBudget.exhausted_after hex n'
    rw [List.countP_append, hcount, hcount', henabled]
    cases s.log.isEnabled .warn <;> cases hs : s.budget.exhausted <;>
      cases hs₁ : s₁.budget.exhausted <;> cases hs' : s'.budget.exhausted <;> simp_all

/-- Where nothing is attempted, the budget does not matter. -/
theorem under {m : Nat} (h : Spends e o 0 m s s') (b : SummaryBudget) :
    Spends e o 0 m { s with budget := b } { s' with budget := b } where
  budget := rfl
  least := h.least
  skipped := h.skipped
  pipelines := h.pipelines
  records := by
    obtain ⟨written, hwritten, hcount⟩ := h.records
    refine ⟨written, hwritten, ?_⟩
    rw [hcount, h.budget, SummaryBudget.after]
    cases s.budget.exhausted <;> cases b.exhausted <;> simp

/-- A record that is not that of an exhausted budget. -/
theorem write {record : LogRecord} (h : record.isExhaustion = false) (s : Session) :
    Spends e o 0 0 s (s.write record) := by
  refine .quiet rfl (Log.least_write _ _) rfl rfl ⟨_, Log.records_write _ _, ?_⟩
  split_ifs <;> simp [h]

/-- A counter other than that of skipped summaries. -/
theorem measure (change : Metrics → Metrics)
    (h : ∀ m, (change m).summaryQueriesSkipped = m.summaryQueriesSkipped) (s : Session) :
    Spends e o 0 0 s (s.measure change) :=
  .quiet rfl rfl (h s.metrics) rfl ⟨[], by simp [Session.measure]⟩

/-- A pipeline that summarizes no group. -/
theorem issue {p : Pipeline} (h : e.isGroupSummary o p = false) (s : Session) :
    Spends e o 0 (e.runner.groupsAnswered s.pipelines [p]) s
      { s with pipelines := s.pipelines ++ [p] } where
  budget := rfl
  least := rfl
  skipped := by simp [SummaryBudget.answers]
  pipelines := ⟨[p], rfl, by simp [h, SummaryBudget.answers], rfl⟩
  records := ⟨[], by simp⟩

end Spends

/-- A pipeline that summarizes no group is handed over. -/
theorem Spends.handOver {e : Engine} {o : LoadOptions} {p : Pipeline}
    (h : e.isGroupSummary o p = false) (s : Session) :
    Spends e o 0 (e.runner.groupsAnswered s.pipelines [p]) s (s.handOver p) := by
  have hmeasured : Spends e o 0 0 s (s.measure Metrics.addPipeline) :=
    .measure Metrics.addPipeline (fun _ => rfl) s
  have hreported := hmeasured.trans (.write (isExhaustion_record .pipelineExecute
    [("stages", toString p.length)]) _)
  have hissued := hreported.trans (.issue h _)
  rw [Nat.zero_add, Nat.zero_add] at hissued
  exact hissued

/-- A summary that is granted is one more pipeline. -/
theorem Spends.granted {e : Engine} {o : LoadOptions} {s : Session} {p : Pipeline}
    (hgrants : s.budget.grants = true) (hsummary : e.isGroupSummary o p = true) :
    Spends e o 1 0 s ((s.attemptSummary.measure Metrics.addSummaryQuery).handOver p) := by
  have hattempted : s.attemptSummary = { s with budget := s.budget.attempt } := by
    unfold Session.attemptSummary
    cases s.budget.limit <;> simp [hgrants]
  have hanswers : s.budget.answers 1 = [true] := by
    rw [SummaryBudget.answers, hgrants, SummaryBudget.answers]
  have hgroup : p.endsIn "$group" = true := ((Bool.and_eq_true _ _).mp hsummary).1
  rw [hattempted]
  constructor
  · rfl
  · exact Log.least_write _ _
  · rw [hanswers]
    exact (UInt64.add_zero _).symm
  · refine ⟨[p], rfl, by rw [hanswers]; simp [hsummary], ?_⟩
    rw [Runner.groupsAnswered, hgroup, Bool.or_true, if_pos rfl, Runner.groupsAnswered]
  · refine ⟨_, Log.records_write _ _, ?_⟩
    have hexhausted : s.budget.attempt.exhausted = s.budget.exhausted := by
      simp [SummaryBudget.attempt, hgrants]
    have hnone : (if s.log.isEnabled .warn && s.budget.attempt.exhausted && !s.budget.exhausted
        then 1 else 0) = 0 := by
      rw [hexhausted]
      cases s.budget.exhausted <;> simp
    refine Eq.trans ?_ hnone.symm
    split_ifs <;> simp [isExhaustion_record]

/-- A summary that is refused is skipped, and the first one is reported. -/
theorem Spends.refused {e : Engine} {o : LoadOptions} {s : Session}
    (hgrants : s.budget.grants = false) :
    Spends e o 1 0 s (s.attemptSummary.measure Metrics.addSkippedSummary) := by
  have hanswers : s.budget.answers 1 = [false] := by
    rw [SummaryBudget.answers, hgrants, SummaryBudget.answers]
  obtain ⟨limit, hlimit⟩ : ∃ limit, s.budget.limit = some limit := by
    cases hlimit : s.budget.limit with
    | none => simp [SummaryBudget.grants, hlimit] at hgrants
    | some limit => exact ⟨limit, rfl⟩
  have hexhausted : s.budget.attempt.exhausted = true := by
    rw [SummaryBudget.attempt, hgrants, Bool.not_false, Bool.or_true]
  obtain ⟨record, hrecord, hseverity, hreports⟩ : ∃ record : LogRecord,
      record = Event.summaryBudgetExhausted.record [("limit", toString limit.toNat)] ∧
        record.severity = .warn ∧ record.isExhaustion = true :=
    ⟨_, rfl, rfl, isExhaustion_record _ _⟩
  have hattempted : s.attemptSummary =
      if s.budget.exhausted then { s with budget := s.budget.attempt }
      else ({ s with budget := s.budget.attempt } : Session).write record := by
    simp [Session.attemptSummary, hlimit, hgrants, hrecord]
  have hskipped : s.metrics.summaryQueriesSkipped + 1 =
      s.metrics.summaryQueriesSkipped + UInt64.ofNat ((s.budget.answers 1).count false) := by
    rw [hanswers]
    rfl
  cases hbefore : s.budget.exhausted with
  | true =>
    rw [hattempted, if_pos hbefore]
    refine ⟨rfl, rfl, hskipped, ⟨[], (List.append_nil _).symm, by rw [hanswers]; rfl, rfl⟩,
      [], (List.append_nil _).symm, ?_⟩
    simp [hbefore]
  | false =>
    rw [hattempted, if_neg (by simp [hbefore])]
    refine ⟨rfl, Log.least_write _ _, hskipped,
      ⟨[], (List.append_nil _).symm, by rw [hanswers]; rfl, rfl⟩, _, Log.records_write _ _, ?_⟩
    have hended : (if s.log.isEnabled .warn && s.budget.attempt.exhausted && !s.budget.exhausted
        then 1 else 0) = if s.log.isEnabled .warn then 1 else 0 := by
      rw [hexhausted, hbefore]
      simp
    refine Eq.trans ?_ hended.symm
    rw [hseverity]
    change List.countP _ (if s.log.isEnabled .warn then [record] else []) = _
    split_ifs <;> simp [hreports]

end GridQuery
