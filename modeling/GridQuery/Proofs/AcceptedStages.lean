import Mathlib
import GridQuery.Proofs.BadAnswers
import GridQuery.Proofs.Succeeding

/-!
# Stages that a collection accepts

An engine writes stages and a collection reads them, and a pipeline with a stage that cannot be read
is refused as a whole. Keys that a runner has answered and names from the request stand in the
stages, and still every stage of every pipeline can be read. So a collection refuses a pipeline only
when it comes to evaluate a predicate.

Results:
* `Question.isAccepted`: every pipeline of a request can be read.
* `Pipeline.FailsMatching.of_aggregate`: what can be read fails at a predicate if it fails.
* `Engine.stages_accepted`: both, for a whole request.
-/

namespace GridQuery

open Collection (aggregate_eq_ok aggregate_of_reads runStages runStages_append runStages_one)
open Pipeline (groupKey)

/-! ## Stages that can be read -/

namespace Pipeline

/-- A collection can read every stage of the pipeline. -/
def IsAccepted (p : Pipeline) : Prop := ∀ stage ∈ p, ∃ read, Stage.ofJson stage = .ok read

theorem isAccepted_of_reads {p : Pipeline} {stages : List Stage} (h : Reads p stages) :
    p.IsAccepted := by
  intro stage hstage
  obtain ⟨before, after, rfl⟩ := List.append_of_mem hstage
  obtain ⟨_, rest, -, hrest, -⟩ := reads_append.mp h
  obtain ⟨read, _, hread, -⟩ := mapM_cons_eq_ok.mp hrest
  exact ⟨read, hread⟩

theorem IsAccepted.exists_reads {p : Pipeline} (h : p.IsAccepted) : ∃ stages, Reads p stages :=
  exists_mapM_eq_ok h

theorem isAccepted_nil : IsAccepted [] := isAccepted_of_reads reads_nil

theorem IsAccepted.append {p q : Pipeline} (hp : p.IsAccepted) (hq : q.IsAccepted) :
    (p ++ q).IsAccepted :=
  List.forall_mem_append.mpr ⟨hp, hq⟩

end Pipeline

open Pipeline (IsAccepted isAccepted_nil isAccepted_of_reads)

/-! ## The stages of a request -/

/-- Fields are named by what does not read as an operator. -/
structure LoadOptions.NamesFields (o : LoadOptions) : Prop where
  levels : ∀ g ∈ o.group, startsWithDollar g.selector = false
  groupSummary : ∀ s ∈ o.groupSummary, startsWithDollar s.selector = false
  totalSummary : ∀ s ∈ o.totalSummary, startsWithDollar s.selector = false
  select : ∀ name ∈ o.select, startsWithDollar name = false

section Levels

variable {selector : String} (hselector : startsWithDollar selector = false)
include hselector

theorem isAccepted_keyStages (interval : Option GroupInterval) (level : Nat) (offset : Int64) :
    IsAccepted (groupKey selector interval level offset).stages := by
  cases hany : interval.any GroupInterval.isBucketed with
  | true =>
    obtain ⟨bucket, rfl, hbucketed⟩ := (Option.any_eq_true _ _).mp hany
    obtain ⟨stages, hreads, -⟩ := computes_keyStages hselector hbucketed level offset
    exact isAccepted_of_reads hreads
  | false => exact isAccepted_of_reads (reads_keyStages_values hselector hany level offset)

/-- A predicate is not looked at while it is read, so any key can stand in it. -/
theorem isAccepted_narrowingStages (interval : Option GroupInterval) (level : Nat) (offset : Int64)
    (key : Json) : IsAccepted (Pipeline.narrowingStages selector interval level offset key) := by
  have hmatch : ∀ field, IsAccepted (Pipeline.matchStages field key) :=
    fun field => isAccepted_of_reads (reads_matchStages field key)
  unfold Pipeline.narrowingStages
  split_ifs
  · exact (isAccepted_keyStages hselector interval level offset).append (hmatch _)
  · exact hmatch selector

/-- The stages of a level can be read if what is pushed into its groups can. -/
theorem isAccepted_groupingStages (interval : Option GroupInterval) (level : Nat) (offset : Int64)
    (desc includeItems countSeparately : Bool) {projection : Option Json}
    (hpush : includeItems = true →
      ∃ e, Expression.ofJson (projection.getD Pipeline.currentDocument) = .ok e) :
    IsAccepted (Pipeline.groupingStages desc includeItems countSeparately
      (groupKey selector interval level offset) projection) := by
  obtain ⟨keyStages, hkey⟩ := (isAccepted_keyStages hselector interval level offset).exists_reads
  obtain ⟨items, hsome, hitems⟩ : ∃ items : Option Expression, items.isSome = includeItems ∧
      ∀ e ∈ items, Expression.ofJson (projection.getD Pipeline.currentDocument) = .ok e := by
    cases includeItems with
    | false => exact ⟨none, rfl, nofun⟩
    | true =>
      obtain ⟨e, he⟩ := hpush rfl
      exact ⟨some e, rfl, fun _ h => Option.some.inj h ▸ he⟩
  exact isAccepted_of_reads (reads_levelStages hkey hsome hitems)

end Levels

section Questions

variable {e : Engine} {o : LoadOptions}

theorem isAccepted_filterStages : IsAccepted (e.filterStages o) := by
  obtain ⟨stages, hreads, -⟩ := keeps_requestStages e o
  exact isAccepted_of_reads hreads

theorem isAccepted_sortStages (sort : List SortField) :
    IsAccepted (Pipeline.sortStages sort) := by
  obtain ⟨stages, hreads⟩ := exists_reads_sortStages sort
  exact isAccepted_of_reads hreads

theorem isAccepted_pagingStages (skip take : UInt64) :
    IsAccepted (Pipeline.pagingStages skip take) := by
  obtain ⟨stages, hreads, -⟩ := exists_reads_pagingStages skip take
  exact isAccepted_of_reads hreads

theorem isAccepted_countStages : IsAccepted Pipeline.countStages :=
  isAccepted_of_reads reads_countStages

theorem isAccepted_summaryStages {summaries : List Summary}
    (h : ∀ s ∈ summaries, startsWithDollar s.selector = false) :
    IsAccepted (Pipeline.summaryStages summaries) := by
  obtain ⟨stages, hreads, -⟩ := exists_reads_summaryStages fun s hs _ => h s hs
  exact isAccepted_of_reads hreads

theorem isAccepted_selectStages {select : List String}
    (h : ∀ name ∈ select, startsWithDollar name = false) :
    IsAccepted (Pipeline.selectStages select) := by
  obtain ⟨stages, hreads, -⟩ := run_selectStages h
  exact isAccepted_of_reads hreads

/-- The way of a question goes down levels of the request. -/
theorem Question.Fits.levels {q : Question} (h : q.Fits o) :
    ∀ step ∈ q.path, step.1 ∈ o.group := by
  intro step hstep
  have hmem : step.1 ∈ q.path.map Prod.fst := List.mem_map_of_mem hstep
  cases q with
  | groups path g last =>
    obtain ⟨inner, hgroup, -⟩ := h
    rw [hgroup]
    exact List.mem_append_left _ hmem
  | innerCount path next =>
    obtain ⟨-, inner, hgroup⟩ := h
    rw [hgroup]
    exact List.mem_append_left _ hmem
  | groupSummary path => exact h.2.2.subset hmem
  | rows | groupCount _ | totalCount | totalSummary => cases hstep

theorem isAccepted_scopeOf (hnames : o.NamesFields) {path : GroupPath}
    (hlevels : ∀ step ∈ path, step.1 ∈ o.group) : IsAccepted (e.scopeOf path) := by
  intro stage hstage
  obtain ⟨⟨step, level⟩, hstep, hmem⟩ := List.mem_flatMap.mp hstage
  have hlevel : step.1 ∈ o.group := hlevels step (List.fst_mem_of_mem_zipIdx hstep)
  exact isAccepted_narrowingStages (hnames.levels _ hlevel) _ _ _ _ stage hmem

/-- What a question asks for can be read. -/
theorem Question.isAccepted_body (hnames : o.NamesFields) {q : Question} (hfits : q.Fits o) :
    IsAccepted (q.body e o) := by
  -- A level that is counted has no items.
  have hcounted : ∀ g ∈ o.group, ∀ level countSeparately,
      IsAccepted (e.groupingStages g level false countSeparately none) :=
    fun g hg level countSeparately => isAccepted_groupingStages (hnames.levels g hg) g.interval
      level _ g.desc false countSeparately nofun
  cases q with
  | rows =>
    exact ((isAccepted_sortStages _).append (isAccepted_pagingStages _ _)).append
      (isAccepted_selectStages hnames.select)
  | groups path g last =>
    obtain ⟨inner, hgroup, -⟩ := hfits
    have hg : g ∈ o.group := by simp [hgroup]
    obtain ⟨pushed, hpushed, -⟩ := exists_pushed hnames.select
    exact isAccepted_groupingStages (hnames.levels g hg) _ _ _ _ _ _ fun _ => ⟨pushed, hpushed⟩
  | innerCount path next =>
    obtain ⟨-, inner, hgroup⟩ := hfits
    have hnext : next ∈ o.group := by simp [hgroup]
    exact (hcounted next hnext _ _).append isAccepted_countStages
  | groupSummary path => exact isAccepted_summaryStages hnames.groupSummary
  | groupCount first =>
    obtain ⟨inner, hgroup⟩ := hfits
    have hfirst : first ∈ o.group := by simp [hgroup]
    exact (hcounted first hfirst _ _).append isAccepted_countStages
  | totalCount => exact isAccepted_countStages
  | totalSummary => exact isAccepted_summaryStages hnames.totalSummary

/-- Every pipeline of a request can be read, whatever keys have been answered. -/
theorem Question.isAccepted (hnames : o.NamesFields) {q : Question} (hfits : q.Fits o) :
    IsAccepted (q.pipeline e o) := by
  have hsort : IsAccepted (if q.sortsFirst then Pipeline.sortStages o.sort else []) := by
    split_ifs
    · exact isAccepted_sortStages _
    · exact isAccepted_nil
  have hpage : IsAccepted (q.page o) := by
    obtain ⟨skip, take, hpage⟩ := q.page_eq_pagingStages (o := o)
    rw [hpage]
    exact isAccepted_pagingStages skip take
  exact (((hsort.append isAccepted_filterStages).append
    (isAccepted_scopeOf hnames hfits.levels)).append (isAccepted_body hnames hfits)).append hpage

end Questions

/-! ## Where a pipeline fails -/

section Failing

variable {docs : List Json} {fault : CollectionError}

/-- A group is read from the stage of another name. -/
theorem Stage.readGroup_ne_keepMatching {name : String} {content predicate : Json} :
    Stage.readGroup name content ≠ .ok (.keepMatching predicate) := by
  intro h
  unfold Stage.readGroup at h
  split at h
  · split at h
    · cases h
    · obtain ⟨accumulators, -, h⟩ := bind_eq_ok.mp h
      obtain ⟨key, -, h⟩ := bind_eq_ok.mp h
      cases h
  · cases h

/-- Only the stage that matches is read as one. -/
theorem Stage.eq_of_ofJson_keepMatching {stage predicate : Json}
    (h : Stage.ofJson stage = .ok (.keepMatching predicate)) :
    stage = .single "$match" predicate := by
  unfold Stage.ofJson at h
  split at h
  · next name content =>
    unfold Stage.ofEntry at h
    split at h
    case h_1 =>
      rw [Stage.keepMatching.inj (Except.ok.inj h)]
      rfl
    case h_4 => exact absurd h readGroup_ne_keepMatching
    case h_9 =>
      split at h
      · split at h
        · cases h
        · cases h
      · cases h
    case h_10 => cases h
    -- The others are read from their content as what they are.
    all_goals
      obtain ⟨_, -, hother⟩ := map_eq_ok.mp h
      cases hother
  · cases h

/-- Matching fails on the first document on which the predicate does. -/
theorem exists_of_matching_error {predicate : Json} (h : matching predicate docs = .error fault) :
    ∃ doc ∈ docs, doc.satisfies predicate = .error fault := by
  induction docs with
  | nil => cases h
  | cons doc rest ih =>
    rw [matching] at h
    rcases bind_eq_error.mp h with hfirst | ⟨satisfied, -, h⟩
    · exact ⟨doc, List.mem_cons_self, hfirst⟩
    · rcases bind_eq_error.mp h with hrest | ⟨kept, -, h⟩
      · obtain ⟨other, hother, hfails⟩ := ih hrest
        exact ⟨other, List.mem_cons_of_mem _ hother, hfails⟩
      · cases h

/-- Among the stages only a match looks for errors: the others compute, and may at most leave the
    years that are supported. -/
theorem Stage.exists_of_run_error {stage : Stage} (h : stage.run docs = .error (.error fault)) :
    ∃ predicate, stage = .keepMatching predicate ∧
      ∃ doc ∈ docs, doc.satisfies predicate = .error fault := by
  cases stage with
  | keepMatching predicate =>
    obtain ⟨_, hmatch, hfault⟩ := mapError_eq_error.mp h
    cases hfault
    exact ⟨predicate, rfl, exists_of_matching_error hmatch⟩
  | addFields fields | group key accumulators | project fields =>
    obtain ⟨_, -, hfault⟩ := mapError_eq_error.mp h
    cases hfault
  | sort fields | skip n | limit n | count field => cases h

/-- A pipeline fails on the documents because a predicate cannot be evaluated on one of those that
    come to it. -/
def Pipeline.FailsMatching (p : Pipeline) (docs : List Json) (fault : CollectionError) : Prop :=
  ∃ before predicate after, p = before ++ .single "$match" predicate :: after ∧
    ∃ inside, (Collection.mk docs).aggregate before = .ok inside ∧
      ∃ doc ∈ inside, doc.satisfies predicate = .error fault

/-- Stages that have been read fail where a match does. -/
theorem Pipeline.FailsMatching.of_runStages {stages : List Stage} (before : Pipeline)
    {inside : List Json} (hbefore : (Collection.mk docs).aggregate before = .ok inside)
    {p : Pipeline} (hreads : Reads p stages)
    (hrun : runStages stages inside = .error (.error fault)) :
    (before ++ p).FailsMatching docs fault := by
  induction p generalizing before stages inside with
  | nil =>
    cases hreads
    cases hrun
  | cons stage rest ih =>
    obtain ⟨first, later, hfirst, hlater, rfl⟩ := mapM_cons_eq_ok.mp hreads
    have hsplit : runStages (first :: later) inside = first.run inside >>= runStages later := by
      rw [← List.singleton_append, runStages_append, runStages_one]
    rw [hsplit] at hrun
    rcases bind_eq_error.mp hrun with hfails | ⟨mid, hmid, hfails⟩
    · obtain ⟨predicate, rfl, doc, hdoc, hpredicate⟩ := Stage.exists_of_run_error hfails
      have hstage := Stage.eq_of_ofJson_keepMatching hfirst
      exact ⟨before, predicate, rest, by rw [hstage], inside, hbefore, doc, hdoc, hpredicate⟩
    · -- The stage has been run as well, and it stands before the rest.
      have hstep : (Collection.mk docs).aggregate (before ++ [stage]) = .ok mid := by
        obtain ⟨read, hread, hinside⟩ := aggregate_eq_ok.mp hbefore
        refine aggregate_eq_ok.mpr ⟨read ++ [first], hread.append (reads_one hfirst), ?_⟩
        rw [runStages_append, hinside]
        show runStages [first] inside = .ok mid
        rw [runStages_one, hmid]
      rw [← List.singleton_append, ← List.append_assoc]
      exact ih (before ++ [stage]) hstep hlater hfails

/-- A pipeline that can be read fails at a predicate, if it fails with an error at all. -/
theorem Pipeline.FailsMatching.of_aggregate {p : Pipeline} (haccepted : p.IsAccepted)
    (h : (Collection.mk docs).aggregate p = .error (.error fault)) : p.FailsMatching docs fault := by
  obtain ⟨stages, hreads⟩ := haccepted.exists_reads
  rw [aggregate_of_reads hreads] at h
  exact of_runStages [] (aggregate_of_reads reads_nil) hreads h

end Failing

/-! ## Requests -/

/-- An answer of a collection that ends a request with an error of the runner is that of a pipeline
    which fails on the documents. -/
theorem Exchange.fault_of_executionFailed {e : Engine} {o : LoadOptions} {docs : List Json}
    (hrunner : e.runner = .ofCollection ⟨docs⟩) {earlier : List Pipeline} {history : List Exchange}
    {x : Exchange} (hx : x.Follows e o earlier history) {reason : String}
    (h : x.failure? = some (.error (.executionFailed reason))) :
    ∃ fault, (Collection.mk docs).aggregate (x.pipeline e o) = .error (.error fault) ∧
      QueryError.ofCollection fault = .executionFailed reason := by
  unfold Exchange.failure? at h
  split at h
  · next failure hfailure =>
    obtain rfl := Option.some.inj h
    rw [hx.answer_ofCollection hrunner] at hfailure
    obtain ⟨fault, hfault, hreason⟩ := mapError_eq_error.mp hfailure
    cases fault with
    | error fault => exact ⟨fault, hfault, Failure.error.inj hreason⟩
    | dateOverflow => cases hreason
  · obtain ⟨fault, -, hinvalid⟩ := Option.map_eq_some_iff.mp h
    cases hinvalid

/-- Whatever a runner answers, each stage that a request hands over can be read by a collection.
    So if the runner is a collection and refuses a pipeline, this is the last one, and a predicate
    of it could not be evaluated on a document. -/
theorem Engine.stages_accepted {e : Engine} {o : LoadOptions} (hnames : o.NamesFields)
    (s : Session) :
    ∃ issued, (e.query o s).2.pipelines = s.pipelines ++ issued ∧
      (∀ p ∈ issued, ∀ stage ∈ p, ∃ read, Stage.ofJson stage = .ok read) ∧
      ∀ docs, e.runner = .ofCollection ⟨docs⟩ → ∀ reason,
        (e.query o s).1 = .error (.error (.executionFailed reason)) →
        ∃ earlier last fault, issued = earlier ++ [last] ∧ last.FailsMatching docs fault ∧
          reason = fault.code ++ ": " ++ fault.message := by
  obtain ⟨trace, htrace⟩ := e.exists_trace o s
  have hfits : ∀ x ∈ trace, x.question.Fits o :=
    htrace.follows.forall_mem fun _ _ hx => hx.fits
  have haccepted : ∀ x ∈ trace, Pipeline.IsAccepted (x.pipeline e o) :=
    fun x hx => Question.isAccepted hnames (hfits x hx)
  refine ⟨trace.map (·.pipeline e o), htrace.pipelines, ?_, ?_⟩
  · intro p hp
    obtain ⟨x, hx, rfl⟩ := List.mem_map.mp hp
    exact haccepted x hx
  · intro docs hrunner reason hfails
    obtain rfl | ⟨before, x, rfl⟩ := List.eq_nil_or_concat' trace
    · exact absurd rfl htrace.ne_nil
    have hx : x.Follows e o s.pipelines before := htrace.follows.split rfl
    have hlast : x.failure? = some (.error (.executionFailed reason)) := by
      rw [htrace.concludes.last.2, hfails]
      rfl
    obtain ⟨fault, hfault, hreason⟩ := Exchange.fault_of_executionFailed hrunner hx hlast
    refine ⟨before.map (·.pipeline e o), x.pipeline e o, fault, by simp, ?_, ?_⟩
    · exact .of_aggregate (haccepted x (by simp)) hfault
    · exact (QueryError.executionFailed.inj hreason).symm

theorem namesFields_byReference : byReference.NamesFields where
  levels := by decide
  groupSummary := by decide
  totalSummary := by decide
  select := by decide

/-- The request that an identifier ends is refused for the predicate that narrows to it. -/
theorem Engine.stages_accepted_byReference :
    byReference.NamesFields ∧
      ∃ issued, (overReferring.query byReference {}).2.pipelines = issued ∧
        (∀ p ∈ issued, ∀ stage ∈ p, ∃ read, Stage.ofJson stage = .ok read) ∧
        ∃ earlier last fault, issued = earlier ++ [last] ∧
          last.FailsMatching referringDocuments fault ∧
          "STORE_UNSUPPORTED_OPERATOR: Unsupported operator: $oid" =
            fault.code ++ ": " ++ fault.message := by
  obtain ⟨issued, hissued, haccepted, hfails⟩ :=
    Engine.stages_accepted (e := overReferring) namesFields_byReference {}
  have hquery := Engine.query_of_fails overReferring byReference queryGrouped_byReference {}
  exact ⟨namesFields_byReference, issued, hissued, haccepted, hfails _ rfl _ hquery⟩

end GridQuery
