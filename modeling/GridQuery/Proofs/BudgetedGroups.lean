import Mathlib
import GridQuery.Proofs.Levels
import GridQuery.Proofs.SummaryBudget

/-!
# Summaries within the budget

One budget is handed down all levels of a grouped request. The groups of a level are answered
first; the levels inside them follow, and their own summaries come last. So a step has pending
groups: those that have been answered and whose summary has not been attempted.

Results:
* `Step.Attempts.bind`, `Step.Attempts.mapM`: the attempts of a step are those of its parts.
* `attempts_queryGroups`: each group of a level and of the levels inside it is attempted once, in
  the order in which the tree is visited.
* `summaries_within_budget`: as many groups as the budget allows carry a summary, and these are the
  first ones of the tree.
-/

namespace GridQuery

open Engine (addGroupCount addSummary addTotals fetchGroups queryGroups queryGrouped summarizeGroup)

/-! ## Steps -/

namespace Step

variable {α β : Type} {e : Engine} {o : LoadOptions}

/-- The step attempts no summary, and no groups are answered to it. -/
def Quiet (e : Engine) (o : LoadOptions) (step : Step α) : Prop :=
  ∀ s, Spends e o 0 0 s (step.outcome s).2

namespace Quiet

theorem pure (a : α) : Quiet e o (Pure.pure a : Step α) := Spends.refl

theorem bind {step : Step α} {next : α → Step β} (h : Quiet e o step)
    (hnext : ∀ a, Quiet e o (next a)) : Quiet e o (step >>= next) := by
  intro s
  have hspends := h s
  rw [outcome_bind]
  cases hstep : step.outcome s with
  | mk outcome s₁ =>
    rw [hstep] at hspends
    cases outcome with
    | error failure => exact hspends
    | ok a => exact hspends.trans (hnext a s₁)

theorem checked (x : Except ResultFault α) : Quiet e o (Step.checked x) := by
  cases x <;> exact Spends.refl

theorem record (event : Event) (fields : List (String × String))
    (h : event ≠ .summaryBudgetExhausted) : Quiet e o (Step.record (event.record fields)) :=
  Spends.write (by rw [isExhaustion_record, decide_eq_false h])

theorem measure (change : Metrics → Metrics)
    (h : ∀ m, (change m).summaryQueriesSkipped = m.summaryQueriesSkipped) :
    Quiet e o (Step.measure change) :=
  Spends.measure change h

/-- A pipeline to which no groups are answered, and that summarizes no group. -/
theorem execute {p : Pipeline} (hsummary : e.isGroupSummary o p = false)
    (hends : (p.endsIn "$count" || p.endsIn "$group") = true) :
    Quiet e o (Step.execute e.runner p) := by
  intro s
  have hissued := Spends.handOver hsummary s
  rw [Runner.groupsAnswered, if_pos hends] at hissued
  rw [outcome_execute]
  exact hissued

end Quiet

/-- The attempts of a step keep up with the groups that are answered: so many groups are pending
    before it, and so many are left after it. In a step that fails, some may not be attempted. -/
def Attempts (e : Engine) (o : LoadOptions) (pending : Nat) (left : α → Nat)
    (gives : List Bool → α → Prop) (step : Step α) : Prop :=
  ∀ s, ∃ attempts answered, Spends e o attempts answered s (step.outcome s).2 ∧
    attempts ≤ answered + pending ∧
    ∀ a, (step.outcome s).1 = .ok a → attempts + left a = answered + pending ∧
      gives (s.budget.answers attempts) a

namespace Attempts

variable {pending : Nat} {left : α → Nat} {left' : β → Nat} {gives gives' : List Bool → α → Prop}

theorem imp {step : Step α} (h : Attempts e o pending left gives step)
    (himp : ∀ answers a, gives answers a → gives' answers a) :
    Attempts e o pending left gives' step := by
  intro s
  obtain ⟨attempts, answered, hspends, hle, hgives⟩ := h s
  refine ⟨attempts, answered, hspends, hle, fun a ha => ?_⟩
  obtain ⟨hleft, hgiven⟩ := hgives a ha
  exact ⟨hleft, himp _ _ hgiven⟩

/-- Groups that have nothing to do with a step stay pending. -/
theorem frame {step : Step α} (h : Attempts e o pending left gives step) (others : Nat) :
    Attempts e o (pending + others) (fun a => left a + others) gives step := by
  intro s
  obtain ⟨attempts, answered, hspends, hle, hgives⟩ := h s
  refine ⟨attempts, answered, hspends, by omega, fun a ha => ?_⟩
  obtain ⟨hleft, hgiven⟩ := hgives a ha
  exact ⟨by rw [← Nat.add_assoc, hleft, Nat.add_assoc], hgiven⟩

theorem of_quiet {step : Step α} (h : Quiet e o step) (pending : Nat) :
    Attempts e o pending (fun _ => pending) (fun answers _ => answers = []) step :=
  fun s => ⟨0, 0, h s, by omega, fun _ _ => ⟨rfl, rfl⟩⟩

theorem pure (a : α) (pending : Nat) :
    Attempts e o pending (fun _ => pending) (fun answers b => answers = [] ∧ b = a)
      (Pure.pure a) := by
  intro s
  refine ⟨0, 0, .refl s, by omega, ?_⟩
  rintro _ ⟨⟩
  exact ⟨rfl, rfl, rfl⟩

/-- A step after another one starts with the groups that the first one leaves. -/
theorem bind {step : Step α} {next : α → Step β} {givesNext : α → List Bool → β → Prop}
    {givesLast : List Bool → β → Prop} (h : Attempts e o pending left gives step)
    (hnext : ∀ a, (∃ answers, gives answers a) →
      Attempts e o (left a) left' (givesNext a) (next a))
    (hlast : ∀ a first second b, gives first a → givesNext a second b →
      givesLast (first ++ second) b) :
    Attempts e o pending left' givesLast (step >>= next) := by
  intro s
  obtain ⟨n, m, hspends, hle, hgives⟩ := h s
  rw [outcome_bind]
  cases hstep : step.outcome s with
  | mk outcome s₁ =>
    rw [hstep] at hspends hgives
    cases outcome with
    | error failure => exact ⟨n, m, hspends, hle, fun _ hfails => by cases hfails⟩
    | ok a =>
      obtain ⟨hleft, hgiven⟩ := hgives a rfl
      obtain ⟨n', m', hspends', hle', hgives'⟩ := hnext a ⟨_, hgiven⟩ s₁
      refine ⟨n + n', m + m', hspends.trans hspends', by omega, fun b hb => ?_⟩
      obtain ⟨hleft', hgiven'⟩ := hgives' b hb
      rw [hspends.budget] at hgiven'
      refine ⟨by omega, ?_⟩
      rw [SummaryBudget.answers_add]
      exact hlast a _ _ b hgiven hgiven'

theorem yields {step : Step α} {P : α → Prop} (h : Attempts e o pending left gives step)
    (hyields : ∀ a, Yields step a → P a) :
    Attempts e o pending left (fun answers a => gives answers a ∧ P a) step := by
  intro s
  obtain ⟨attempts, answered, hspends, hle, hgives⟩ := h s
  refine ⟨attempts, answered, hspends, hle, fun a ha => ?_⟩
  obtain ⟨hleft, hgiven⟩ := hgives a ha
  exact ⟨hleft, hgiven, hyields a ⟨s, _, Prod.ext ha rfl⟩⟩

/-- What comes after a step that attempts no summary gives all the answers. -/
theorem bind_silent {step : Step α} {next : α → Step β} {P : α → Prop}
    {gives : List Bool → β → Prop}
    (h : Attempts e o pending left (fun answers a => answers = [] ∧ P a) step)
    (hnext : ∀ a, P a → Attempts e o (left a) left' gives (next a)) :
    Attempts e o pending left' gives (step >>= next) := by
  refine h.bind (fun a ⟨_, _, ha⟩ => hnext a ha) ?_
  rintro a first second b ⟨rfl, -⟩ hb
  exact hb

/-- A step for each item, each of which settles the groups that are pending for it. -/
theorem mapM {f : α → Step β} {items : List α} {trace : β → List Bool} {P : α → β → Prop}
    (h : ∀ item ∈ items, Attempts e o pending (fun _ => 0)
      (fun answers b => answers = trace b ∧ P item b) (f item)) :
    Attempts e o (pending * items.length) (fun _ => 0)
      (fun answers out => answers = out.flatMap trace ∧ List.Forall₂ P items out)
      (items.mapM f) := by
  induction items with
  | nil =>
    rw [List.mapM_nil]
    refine (pure [] 0).imp ?_
    rintro _ _ ⟨rfl, rfl⟩
    exact ⟨rfl, .nil⟩
  | cons item items ih =>
    have hfirst := (h item List.mem_cons_self).frame (pending * items.length)
    have hrest := ih fun other hother => h other (List.mem_cons_of_mem _ hother)
    have hnext : ∀ b, Attempts e o (0 + pending * items.length) (fun _ => 0)
        (fun answers all => ∃ out, answers = out.flatMap trace ∧ List.Forall₂ P items out ∧
          all = b :: out)
        (items.mapM f >>= fun out => Pure.pure (b :: out)) := by
      intro b
      rw [Nat.zero_add]
      refine hrest.bind (fun out _ => pure (b :: out) 0) ?_
      rintro out first second all ⟨hfirst, hout⟩ ⟨rfl, hall⟩
      exact ⟨out, by rw [List.append_nil, hfirst], hout, hall⟩
    rw [List.mapM_cons, List.length_cons, Nat.mul_succ, Nat.add_comm]
    refine hfirst.bind (fun b _ => hnext b) ?_
    rintro b first second _ ⟨rfl, hb⟩ ⟨out, rfl, hout, rfl⟩
    exact ⟨rfl, .cons hb hout⟩

end Attempts

end Step

/-! ## The pipelines of a grouped request -/

theorem Pipeline.endsIn_append {tail : Pipeline} (h : tail ≠ []) (p : Pipeline) (name : String) :
    (p ++ tail).endsIn name = tail.endsIn name := by
  rw [endsIn, endsIn, List.getLast?_append_of_ne_nil p h]

theorem Pipeline.endsIn_single {name other : String} (h : other ≠ name) (p : Pipeline)
    (operand : Json) : Pipeline.endsIn (p ++ [.single other operand]) name = false := by
  rw [endsIn, List.getLast?_concat, Option.any_some, Json.single, Json.get?]
  simp [Json.object?, Entries.get?, h]

/-- A stage that neither counts nor reduces is last in the pipeline of a level. -/
theorem endsIn_levelStages (desc includeItems countSeparately : Bool) (key : Pipeline.GroupKey)
    (projection : Option Json) (skip take : UInt64) {name : String}
    (hname : name = "$count" ∨ name = "$group") :
    Pipeline.endsIn (Pipeline.groupingStages desc includeItems countSeparately key projection ++
      Pipeline.pagingStages skip take) name = false := by
  have hother : ∀ other ∈ ["$skip", "$limit", "$sort", "$addFields"], other ≠ name := by
    rcases hname with rfl | rfl <;> decide
  unfold Pipeline.pagingStages
  by_cases htake : 0 < take
  · rw [if_pos htake, ← List.append_assoc]
    exact Pipeline.endsIn_single (hother _ (by simp)) _ _
  rw [if_neg htake, List.append_nil]
  by_cases hskip : 0 < skip
  · rw [if_pos hskip]
    exact Pipeline.endsIn_single (hother _ (by simp)) _ _
  rw [if_neg hskip, List.append_nil, Pipeline.groupingStages]
  cases includeItems with
  | true =>
    simp only [↓reduceIte, List.append_nil]
    rw [List.append_cons]
    exact Pipeline.endsIn_single (hother _ (by simp)) _ _
  | false => exact Pipeline.endsIn_single (hother _ (by simp)) _ _

section Requests

variable {e : Engine} {o : LoadOptions}

theorem endsIn_levelPipeline (g : GroupLevel) (level : Nat) (last : Bool) (skip take : UInt64)
    (scope : Pipeline) {name : String} (hname : name = "$count" ∨ name = "$group") :
    Pipeline.endsIn (e.levelPipeline o g level last (Pipeline.pagingStages skip take) scope) name =
      false := by
  have hends := endsIn_levelStages g.desc (last && g.isExpanded) (!last)
    (Pipeline.groupKey g.selector g.interval level e.config.timezoneOffset)
    (Pipeline.selectProjection o.select true) skip take hname
  rw [Engine.levelPipeline, List.append_assoc, Pipeline.endsIn_append ?_]
  · exact hends
  · simp [Engine.groupingStages, Pipeline.groupingStages]

/-! ## Counts and summaries -/

/-- A count attempts no summary. -/
theorem quiet_count (p : Pipeline) :
    Step.Quiet e o (Step.count e.runner (p ++ Pipeline.countStages)) := by
  have hcount : (p ++ Pipeline.countStages).endsIn "$count" = true := by
    rw [Pipeline.endsIn_append (by simp [Pipeline.countStages])]
    decide
  have hgroup : (p ++ Pipeline.countStages).endsIn "$group" = false :=
    Pipeline.endsIn_single (by decide) p _
  refine (Step.Quiet.measure Metrics.addCountQuery fun _ => rfl).bind fun _ =>
    .bind ?_ fun docs => .checked _
  refine .execute ?_ ?_
  · rw [Engine.isGroupSummary, hgroup, Bool.false_and]
  · rw [hcount, Bool.true_or]

theorem summaryStages_of_ne_nil {summaries : List Summary} (h : summaries ≠ []) :
    Pipeline.summaryStages summaries = [.single "$group"
      (.object (Entries.ofList (("_id", .null) :: summaries.filterMap Summary.entry?)))] := by
  rw [Pipeline.summaryStages, if_neg (by simp [h])]

theorem endsIn_summaryStages {summaries : List Summary} (h : summaries ≠ []) (p : Pipeline) :
    (p ++ Pipeline.summaryStages summaries).endsIn "$group" = true := by
  rw [Pipeline.endsIn_append (by simp [summaryStages_of_ne_nil h]), summaryStages_of_ne_nil h]
  rfl

/-- The pipeline of a group's summary is not that of the total summary, which narrows to nothing. -/
theorem isGroupSummary_of_narrowed (h : o.groupSummary ≠ []) {narrowed : Pipeline}
    (hnarrowed : narrowed ≠ []) : e.isGroupSummary o
      (e.filterStages o ++ narrowed ++ Pipeline.summaryStages o.groupSummary) = true := by
  rw [Engine.isGroupSummary, endsIn_summaryStages h, Bool.true_and, bne_iff_ne]
  intro heq
  have hlength := congrArg List.length heq
  have hpos := List.length_pos_iff.mpr hnarrowed
  have htotal : (Pipeline.summaryStages o.totalSummary).length ≤ 1 := by
    unfold Pipeline.summaryStages
    split_ifs <;> simp
  simp only [summaryStages_of_ne_nil h, List.length_append, List.length_singleton] at hlength
  omega

theorem Step.outcome_summarize (runner : Runner) (summaries : List Summary) (p : Pipeline)
    (s : Session) : (Step.summarize runner summaries p).outcome s =
      ((runner.answer s.pipelines p).map fun docs => Pipeline.summaryValues summaries docs.head?,
        (s.measure Metrics.addSummaryQuery).handOver p) := by
  have hmeasured : (Step.measure Metrics.addSummaryQuery).outcome s =
      (.ok (), s.measure Metrics.addSummaryQuery) := rfl
  have hpipelines : (s.measure Metrics.addSummaryQuery).pipelines = s.pipelines := rfl
  rw [Step.summarize, outcome_bind, hmeasured]
  simp only [outcome_bind, outcome_execute, hpipelines]
  cases runner.answer s.pipelines p <;> rfl

theorem quiet_reportFilter : Step.Quiet e o (Engine.reportFilter o) := by
  unfold Engine.reportFilter
  split
  · split_ifs
    · exact .record _ _ (by decide)
    · exact .pure ()
  · exact .pure ()

theorem quiet_addGroupCount (r : Response) : Step.Quiet e o (addGroupCount e o r) := by
  unfold addGroupCount
  split
  · split_ifs
    · exact (quiet_count _).bind fun n => .pure _
    · exact .pure r
  · exact .pure r

/-- The total summary is no summary of a group. -/
theorem quiet_addTotals (r : Response) : Step.Quiet e o (addTotals e o r) := by
  unfold addTotals
  split_ifs with htotals
  · exact .pure r
  refine (quiet_count _).bind fun total => ?_
  simp only
  split_ifs with hsummary
  · have htotal : o.totalSummary ≠ [] := by
      rintro hnil
      simp [hnil] at hsummary
    have hmeasure := Step.Quiet.measure (e := e) (o := o) Metrics.addSummaryQuery fun _ => rfl
    refine (hmeasure.bind fun _ => .bind (.execute ?_ ?_) fun _ => .pure _).bind fun _ => .pure _
    · simp [Engine.isGroupSummary]
    · rw [endsIn_summaryStages htotal, Bool.or_true]
  · exact .pure _

/-! ## Levels -/

/-- The groups that are answered to the pipeline of a level are pending after it. -/
theorem attempts_fetchGroups (level : Nat) {p : Pipeline}
    (hends : (p.endsIn "$count" || p.endsIn "$group") = false) :
    Step.Attempts e o 0 List.length (fun answers found => answers = [] ∧
      ∀ group ∈ found, group.summary = none ∧ group.groups? = none) (fetchGroups e level p) := by
  refine Step.Attempts.yields (fun s => ?_) fun found => Engine.fetchGroups_bare
  have hsummary : e.isGroupSummary o p = false := by
    rw [Engine.isGroupSummary, (Bool.or_eq_false_iff.mp hends).2, Bool.false_and]
  have hissued := Spends.handOver hsummary s
  rw [Runner.groupsAnswered, hends, if_neg Bool.false_ne_true, Runner.groupsAnswered,
    Nat.add_zero] at hissued
  rw [fetchGroups, Step.outcome_bind, Step.outcome_execute]
  cases hanswer : e.runner.answer s.pipelines p with
  | error failure => exact ⟨0, _, hissued, Nat.zero_le _, fun _ hfails => by cases hfails⟩
  | ok docs =>
    have hquiet : ∀ s', Spends e o 0 0 s' _ :=
      (Step.Quiet.checked (docs.mapM Group.ofJson)).bind fun groups =>
        (Step.Quiet.record (.groupLevelQueried)
          [("groups", toString groups.length), ("level", toString level)] (by decide)).bind fun _ =>
        (Step.Quiet.measure (Metrics.addGroups (UInt64.ofNat groups.length)) fun _ => rfl).bind
          fun _ => .pure groups
    refine ⟨0, _, hissued.trans (hquiet _), Nat.zero_le _, fun found hfound => ?_⟩
    obtain ⟨groups, hgroups, hrest⟩ := Step.Yields.bind ⟨_, _, Prod.ext hfound rfl⟩
    obtain ⟨_, -, hrest⟩ := hrest.bind
    obtain ⟨_, -, hrest⟩ := hrest.bind
    obtain rfl := hrest.pure
    refine ⟨?_, rfl⟩
    rw [hanswer, groupsIn, hgroups.checked]
    simp [Except.toOption]

/-- The summary of a group is one attempt; with it the group is no longer pending. -/
theorem attempts_addSummary (hsummary : o.groupSummary ≠ []) {inside : Json → Pipeline}
    {group : Group} (hinside : ∀ key, inside key ≠ []) (hnone : group.summary = none) :
    Step.Attempts e o 1 (fun _ => 0) (fun answers out => answers = [out.summary.isSome] ∧
      out.items = group.items) (addSummary e o inside group) := by
  intro s
  have hacquired : Step.acquireSummary.outcome s = (.ok s.budget.grants, s.attemptSummary) := rfl
  have hanswers : s.budget.answers 1 = [s.budget.grants] := rfl
  rw [addSummary, Step.outcome_bind, hacquired]
  cases hgrants : s.budget.grants with
  | true =>
    have hspends := Spends.granted (e := e) hgrants
      (isGroupSummary_of_narrowed hsummary (hinside group.key))
    simp only [if_pos, Step.outcome_bind, Step.outcome_summarize]
    cases e.runner.answer s.attemptSummary.pipelines _ with
    | error failure => exact ⟨1, 0, hspends, Nat.le_refl _, fun _ hfails => by cases hfails⟩
    | ok docs =>
      refine ⟨1, 0, hspends, Nat.le_refl _, ?_⟩
      rintro _ ⟨⟩
      exact ⟨rfl, by rw [hanswers, hgrants]; rfl, rfl⟩
  | false =>
    refine ⟨1, 0, Spends.refused hgrants, Nat.le_refl _, ?_⟩
    rintro _ ⟨⟩
    exact ⟨rfl, by rw [hanswers, hgrants, hnone]; rfl, rfl⟩

theorem narrowingStages_ne_nil (g : GroupLevel) (level : Nat) (key : Json) :
    e.narrowingStages g level key ≠ [] := by
  unfold Engine.narrowingStages Pipeline.narrowingStages Pipeline.matchStages
  split_ifs <;> simp

/-- What is attempted in filling a group are the groups that come to be inside it. -/
def Fills (e : Engine) (o : LoadOptions) (f : Group → Step Group) (group : Group) : Prop :=
  Step.Attempts e o 0 (fun _ => 0) (fun answers out =>
    answers = out.inside.map (·.summary.isSome) ∧ out.summary = group.summary) (f group)

/-- The groups of a level are filled, and then they are summarized. -/
theorem attempts_summarizeGroups (hsummary : o.groupSummary ≠ []) {inside : Json → Pipeline}
    (hinside : ∀ key, inside key ≠ []) {found : List Group} {f : Group → Step Group}
    (hnone : ∀ group ∈ found, group.summary = none) (hf : ∀ group ∈ found, Fills e o f group) :
    Step.Attempts e o found.length (fun _ => 0)
      (fun answers groups => answers = (Group.visit groups).map (·.summary.isSome))
      (found.mapM f >>= fun filled => filled.mapM (summarizeGroup e o inside)) := by
  have hfilled := (Step.Attempts.mapM hf).frame found.length
  simp only [Nat.zero_mul, Nat.zero_add] at hfilled
  have hsummarized : ∀ filled : List Group,
      List.Forall₂ (fun a b : Group => b.summary = a.summary) found filled →
      Step.Attempts e o found.length (fun _ => 0)
        (fun answers out => answers = out.flatMap (fun group => [group.summary.isSome]) ∧
          List.Forall₂ (fun a b : Group => b.items = a.items) filled out)
        (filled.mapM (summarizeGroup e o inside)) := by
    intro filled hsame
    rw [hsame.length_eq, ← Nat.one_mul filled.length]
    refine Step.Attempts.mapM fun group hgroup => ?_
    obtain ⟨a, ha, hab⟩ := exists_of_mem_right hsame hgroup
    rw [summarizeGroup, if_neg (by simp [hsummary])]
    exact attempts_addSummary hsummary hinside (by rw [hab, hnone a ha])
  refine hfilled.bind (fun filled ⟨_, _, hsame⟩ => hsummarized filled hsame) ?_
  rintro filled first second out ⟨rfl, -⟩ ⟨rfl, hitems⟩
  rw [Group.visit, List.map_append, Group.insideEach_congr hitems, Group.insideEach_eq,
    List.map_flatMap, ← List.map_eq_flatMap]

/-- A group is filled by what it shows, by the groups inside it, which are attempted once each, or by
    their number. -/
theorem attempts_fillGroup {g : GroupLevel} {inner : List GroupLevel} {level : Nat}
    {narrowed : Pipeline} {group : Group} (hbare : group.groups? = none)
    (hinner : Step.Attempts e o 0 (fun _ => 0)
      (fun answers sub => answers = (Group.visit sub).map (·.summary.isSome))
      (queryGroups e o inner (level + 1) [] narrowed)) :
    Step.Attempts e o 0 (fun _ => 0) (fun answers out =>
      answers = out.inside.map (·.summary.isSome) ∧ out.summary = group.summary)
      (e.fillGroup o g inner level narrowed group) := by
  have hnothing := Group.inside_of_groups? hbare
  cases inner with
  | nil =>
    refine (Step.Attempts.pure _ 0).imp ?_
    rintro answers out ⟨rfl, rfl⟩
    split_ifs
    · rw [Group.inside_mapRows, Group.summary_mapRows, hnothing]
      exact ⟨rfl, rfl⟩
    · rw [hnothing]
      exact ⟨rfl, rfl⟩
  | cons next rest =>
    simp only [Engine.fillGroup]
    split_ifs with hopen
    · refine hinner.bind (fun sub _ => .pure (group.withGroups sub) 0) ?_
      rintro sub first second out rfl ⟨rfl, rfl⟩
      exact ⟨List.append_nil _, rfl⟩
    · refine (Step.Attempts.of_quiet (quiet_count _) 0).bind
        (fun n _ => .pure (group.withCount n) 0) ?_
      rintro n first second out rfl ⟨rfl, rfl⟩
      have hcounted : (group.withCount n).inside = [] := by
        rw [Group.inside_eq, ← hnothing, Group.inside_eq]
        rfl
      exact ⟨by rw [hcounted]; rfl, rfl⟩

/-- Each group of a level and of the levels inside it is attempted once, and the summaries that are
    granted are in their places in the tree. -/
theorem attempts_queryGroups (hsummary : o.groupSummary ≠ []) (levels : List GroupLevel)
    (level : Nat) (skip take : UInt64) (scope : Pipeline) :
    Step.Attempts e o 0 (fun _ => 0)
      (fun answers groups => answers = (Group.visit groups).map (·.summary.isSome))
      (queryGroups e o levels level (Pipeline.pagingStages skip take) scope) := by
  induction levels generalizing level skip take scope with
  | nil => exact fun s => ⟨0, 0, .refl s, Nat.le_refl _, fun _ hfails => by cases hfails⟩
  | cons g inner ih =>
    have hinside : ∀ key, scope ++ e.narrowingStages g level key ≠ [] := fun key =>
      List.append_ne_nil_of_right_ne_nil _ (narrowingStages_ne_nil g level key)
    rw [Engine.queryGroups_cons]
    refine (attempts_fetchGroups level ?_).bind_silent fun found hbare =>
      attempts_summarizeGroups hsummary hinside (fun group hgroup => (hbare group hgroup).1) ?_
    · rw [endsIn_levelPipeline _ _ _ _ _ _ (.inl rfl), endsIn_levelPipeline _ _ _ _ _ _ (.inr rfl),
        Bool.or_false]
    intro group hgroup
    unfold Fills
    exact attempts_fillGroup (hbare group hgroup).2 (ih (level + 1) 0 0 _)

/-! ## Requests -/

/-- The levels of a grouped request and its totals, under whatever budget they find. -/
theorem attempts_answerGroups (hsummary : o.groupSummary ≠ []) :
    Step.Attempts e o 0 (fun _ => 0) (fun answers r => ∃ groups, r.data = .groups groups ∧
      (Group.visit groups).map (·.summary.isSome) = answers) (e.answerGroups o) := by
  have htotals : ∀ groups, Step.Attempts e o 0 (fun _ => 0)
      (fun answers r => answers = [] ∧ r.data = .groups groups)
      (addGroupCount e o { data := .groups groups } >>= addTotals e o) := by
    intro groups
    refine (Step.Attempts.of_quiet ((quiet_addGroupCount _).bind quiet_addTotals) 0).yields ?_
    intro r hr
    obtain ⟨counted, hcounted, hr⟩ := hr.bind
    exact Engine.data_of_totals hcounted hr
  refine (attempts_queryGroups hsummary o.group 0 o.skip o.take []).bind
    (fun groups _ => htotals groups) ?_
  rintro groups first second r rfl ⟨rfl, hdata⟩
  exact ⟨groups, hdata, (List.append_nil _).symm⟩

/-- The records of a request as a whole have other names. -/
theorem isExhaustion_of_query {record : LogRecord} {ending : String}
    (h : record.event = "QUERY" ++ ending) : record.isExhaustion = false := by
  rw [LogRecord.isExhaustion, h, beq_eq_false_iff_ne]
  intro heq
  have hchars := congrArg String.toList heq
  rw [String.toList_append] at hchars
  cases hchars

theorem spends_start (s : Session) : Spends e o 0 0 s (Engine.start o s) :=
  (Spends.measure Metrics.addRequest (fun _ => rfl) s).trans
    (.write (isExhaustion_of_query rfl) _)

theorem spends_conclude (outcome : Except Failure Response) (s : Session) :
    Spends e o 0 0 s (Engine.conclude o outcome s) := by
  rcases outcome with (problem | _) | r
  · exact (Spends.measure Metrics.addFailure (fun _ => rfl) s).trans
      (.write (isExhaustion_of_query rfl) _)
  · exact .write (isExhaustion_of_query rfl) _
  · exact .write (isExhaustion_of_query rfl) _

/-- A grouped request starts with a budget of its own, and attempts a summary for each group of its
    response. -/
theorem spends_query (hgroup : o.group ≠ []) (hsummary : o.groupSummary ≠ []) (s : Session) :
    ∃ attempts answered, Spends e o attempts answered
        { s with budget := { limit := e.config.summaryLimit } } (e.query o s).2 ∧
      attempts ≤ answered ∧
      ∀ r, (e.query o s).1 = .ok r → ∃ groups, r.data = .groups groups ∧
        (Group.visit groups).map (·.summary.isSome) =
          SummaryBudget.answers { limit := e.config.summaryLimit } attempts := by
  have hquiet := (spends_start (e := e) (o := o) s).trans (quiet_reportFilter (Engine.start o s))
  obtain ⟨attempts, answered, hspends, hle, hgives⟩ := attempts_answerGroups (e := e) hsummary
    { ((Engine.reportFilter o).outcome (Engine.start o s)).2 with
      budget := { limit := e.config.summaryLimit } }
  rw [Engine.query_eq, Engine.steps_grouped e o hgroup, Engine.outcome_queryGrouped]
  refine ⟨attempts, answered, ?_, hle, fun r hr => (hgives r hr).2⟩
  have hanswered := (hquiet.under { limit := e.config.summaryLimit }).trans hspends
  simp only [Nat.zero_add] at hanswered
  exact hanswered.trans (spends_conclude _ _)

/-- Without a ceiling every group carries a summary. -/
theorem summary_of_no_limit {e : Engine} {o : LoadOptions} (hgroup : o.group ≠ [])
    (hsummary : o.groupSummary ≠ []) (hlimit : e.config.summaryQueryLimit = 0) {s s' : Session}
    {r : Response} (h : e.query o s = (.ok r, s')) {groups : List Group}
    (hdata : r.data = .groups groups) :
    ∀ group ∈ Group.visit groups, ∃ values, group.summary = some values := by
  obtain ⟨attempts, -, -, -, hgives⟩ := spends_query (e := e) hgroup hsummary s
  rw [h] at hgives
  obtain ⟨found, hfound, hvisit⟩ := hgives r rfl
  obtain rfl : groups = found := ResponseData.groups.inj (hdata.symm.trans hfound)
  have hnone : e.config.summaryLimit = none := by rw [Config.summaryLimit, if_pos hlimit]
  rw [hnone, SummaryBudget.answers_of_no_limit rfl] at hvisit
  intro group hmem
  have hsome : group.summary.isSome ∈ List.replicate attempts true :=
    hvisit ▸ List.mem_map_of_mem hmem
  exact Option.isSome_iff_exists.mp (List.eq_of_mem_replicate hsome)

theorem count_answers (limit : UInt32) {n : Nat} (hroom : n < 2 ^ 32) :
    (SummaryBudget.answers { limit := some limit } n).count true = min limit.toNat n ∧
      (SummaryBudget.answers { limit := some limit } n).count false =
        n - min limit.toNat n := by
  rw [(SummaryBudget.spent_new limit).answers_eq (by omega)]
  simp [List.count_append, List.count_replicate]

/-- The budget of a grouped request holds over the whole request, whatever the runner answers.

    As long as fewer than 2^32 groups are answered, no more summaries of groups are asked for than
    the budget allows, and its exhaustion is recorded once at most, whether the request fails or
    not. In a response, the first groups carry a summary, as many as the budget allows, and the
    others are counted as skipped; the budget is exhausted if there are any, and this is recorded
    unless the log leaves out warnings. -/
theorem summaries_within_budget (hgroup : o.group ≠ []) (hsummary : o.groupSummary ≠ [])
    (hlimit : e.config.summaryQueryLimit ≠ 0) {s s' : Session}
    {outcome : Except Failure Response} (h : e.query o s = (outcome, s')) :
    ∃ issued written, s'.pipelines = s.pipelines ++ issued ∧
      s'.log.records = s.log.records ++ written ∧
      (e.runner.groupsAnswered s.pipelines issued < 2 ^ 32 →
        issued.countP (e.isGroupSummary o) ≤ e.config.summaryQueryLimit.toNat ∧
        written.countP LogRecord.isExhaustion ≤ 1 ∧
        ∀ r, outcome = .ok r → ∃ groups, r.data = .groups groups ∧
          let n := (Group.visit groups).length
          let allowed := min e.config.summaryQueryLimit.toNat n
          (Group.visit groups).map (·.summary.isSome) =
            List.replicate allowed true ++ List.replicate (n - allowed) false ∧
          s'.metrics.summaryQueriesSkipped =
            s.metrics.summaryQueriesSkipped + UInt64.ofNat (n - allowed) ∧
          (s'.budget.exhausted = true ↔ e.config.summaryQueryLimit.toNat < n) ∧
          ((∃ record ∈ written, record.isExhaustion = true) ↔
            e.config.summaryQueryLimit.toNat < n ∧ s.log.isEnabled .warn = true)) := by
  obtain ⟨attempts, answered, hspends, hle, hgives⟩ := spends_query (e := e) hgroup hsummary s
  have hceiling : e.config.summaryLimit = some e.config.summaryQueryLimit := by
    rw [Config.summaryLimit, if_neg hlimit]
  rw [h, hceiling] at hspends
  rw [h, hceiling] at hgives
  obtain ⟨issued, hissued, hsummaries, hanswered⟩ := hspends.pipelines
  obtain ⟨written, hwritten, hrecords⟩ := hspends.records
  refine ⟨issued, written, hissued, hwritten, fun hroom => ?_⟩
  have hroom : attempts < 2 ^ 32 := by
    rw [hanswered] at hroom
    omega
  obtain ⟨hgranted, hrefused⟩ := count_answers e.config.summaryQueryLimit hroom
  have hspent := (SummaryBudget.spent_new e.config.summaryQueryLimit).after
    (n := attempts) (by omega)
  have hexhausted : s'.budget.exhausted =
      decide (e.config.summaryQueryLimit.toNat < attempts) := by
    rw [hspends.budget, hspent.exhausted_eq, Nat.zero_add]
  refine ⟨?_, ?_, ?_⟩
  · rw [hsummaries, hgranted]
    exact Nat.min_le_left _ _
  · rw [hrecords]
    split_ifs <;> omega
  · intro r hr
    obtain ⟨groups, hdata, hvisit⟩ := hgives r hr
    have hattempts : (Group.visit groups).length = attempts := by
      rw [← List.length_map (·.summary.isSome), hvisit, SummaryBudget.length_answers]
    refine ⟨groups, hdata, ?_⟩
    simp only [hattempts]
    refine ⟨?_, ?_, ?_, ?_⟩
    · rw [hvisit, (SummaryBudget.spent_new _).answers_eq (by omega), Nat.sub_zero]
    · rw [hspends.skipped, hrefused]
    · rw [hexhausted, decide_eq_true_eq]
    · rw [← List.countP_pos_iff, hrecords, hexhausted]
      by_cases hbeyond : e.config.summaryQueryLimit.toNat < attempts
      · cases henabled : s.log.isEnabled .warn <;> simp [hbeyond]
      · simp [hbeyond]

end Requests

/-- A runner that answers two groups and then one summary, under a budget of one. -/
def overTwoAnswers : Engine where
  runner := .ofAnswers [
    .ok [.object [("key", .ofUInt64 1), ("count", .ofUInt64 3)],
      .object [("key", .ofUInt64 2), ("count", .ofUInt64 4)]],
    .ok [.object [("_count", .ofUInt64 3)]]]
  config := { summaryQueryLimit := 1 }

/-- Groups that are counted by a summary. -/
def countedGroups : LoadOptions where
  group := [⟨"a", false, false, none⟩]
  groupSummary := [⟨"", .count⟩]

/-- The first of the two groups carries the one summary that is granted. -/
def answeredGroups : List Group :=
  [.mk (.ofUInt64 1) 3 .absent (some [.ofUInt64 3]), .mk (.ofUInt64 2) 4 .absent none]

theorem summaries_within_budget_of_two :
    ∃ s', overTwoAnswers.query countedGroups {} = (.ok { data := .groups answeredGroups }, s') ∧
      (Group.visit answeredGroups).map (·.summary.isSome) = [true, false] ∧
      s'.metrics.summaryQueriesSkipped = 1 ∧
      ∃ record ∈ s'.log.records, record.isExhaustion = true := by
  have hquery : overTwoAnswers.query countedGroups {} =
      (.ok { data := .groups answeredGroups }, (overTwoAnswers.query countedGroups {}).2) := rfl
  obtain ⟨issued, written, hissued, hwritten, hwithin⟩ :=
    summaries_within_budget (by decide) (by decide) (by decide) hquery
  have hroom : overTwoAnswers.runner.groupsAnswered [] issued < 2 ^ 32 := by
    obtain rfl : (overTwoAnswers.query countedGroups {}).2.pipelines = issued := hissued
    decide +kernel
  obtain ⟨-, -, hgroups⟩ := hwithin hroom
  obtain ⟨_, ⟨⟩, hvisit, hskipped, -, hreported⟩ := hgroups _ rfl
  refine ⟨_, hquery, hvisit, hskipped, ?_⟩
  obtain ⟨record, hmem, hrecord⟩ := hreported.mpr ⟨by decide, by decide⟩
  refine ⟨record, ?_, hrecord⟩
  rw [hwritten]
  exact List.mem_append_right _ hmem

end GridQuery
