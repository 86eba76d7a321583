import Mathlib
import GridQuery.Proofs.Asking

/-!
# Counters account for all requests

The counters of an engine are words that go up at many places, whether requests succeed or fail. All
the same they can be read off from outside: from the requests, from how they ended, and from the
pipelines that were handed over on the way.

Results:
* `Step.Materializes.bind`, `Step.Materializes.mapM`: groups are counted as they are read.
* `Engine.accounts_query`, `Engine.accounts_queryEach`: what requests add to the counters.
* `Engine.counters_of_requests`: the counters after any requests on a new engine.
-/

namespace GridQuery

open Engine (addGroupCount addTotals fetchGroups fillGroup queryGroups summarizeGroup)

/-! ## Groups that are read -/

namespace Step

variable {α β : Type} {n : Nat}

/-- Where so many groups have been counted before the step, so many have been counted after it, as
    the value tells that it yields. -/
def Materializes (n : Nat) (step : Step α) (total : α → Nat) : Prop :=
  ∀ base s a s', GoesUp n base s.metrics.groupsMaterialized → step.outcome s = (.ok a, s') →
    GoesUp (total a) base s'.metrics.groupsMaterialized

namespace Materializes

variable {total total' : α → Nat}

/-- The total can be told in another way of the values that are yielded. -/
theorem congr {step : Step α} (h : Materializes n step total)
    (htotal : ∀ a, Yields step a → total a = total' a) : Materializes n step total' := by
  intro base s a s' hs hstep
  rw [← htotal a ⟨s, s', hstep⟩]
  exact h base s a s' hs hstep

/-- A step that counts no groups. -/
theorem still {step : Step α}
    (h : ∀ s, (step.outcome s).2.metrics.groupsMaterialized = s.metrics.groupsMaterialized) :
    Materializes n step fun _ => n := by
  intro base s a s' hs hstep
  rwa [← h s, hstep] at hs

theorem pure (a : α) : Materializes n (Pure.pure a : Step α) fun _ => n := still fun _ => rfl

theorem bind {step : Step α} {next : α → Step β} {last : β → Nat} (h : Materializes n step total)
    (hnext : ∀ a, Yields step a → Materializes (total a) (next a) last) :
    Materializes n (step >>= next) last := by
  intro base s b s' hs hstep
  rw [outcome_bind] at hstep
  cases hfirst : step.outcome s with
  | mk outcome s₁ =>
    rw [hfirst] at hstep
    cases outcome with
    | error failure => cases hstep
    | ok a => exact hnext a ⟨s, s₁, hfirst⟩ base s₁ b s' (h base s a s₁ hs hfirst) hstep

/-- A step for each item adds up what each of them counts. -/
theorem mapM {f : α → Step β} {items : List α} {weight : β → Nat}
    (h : ∀ item ∈ items, ∀ n, Materializes n (f item) fun b => n + weight b) (n : Nat) :
    Materializes n (items.mapM f) fun out => n + (out.map weight).sum := by
  induction items generalizing n with
  | nil =>
    rw [List.mapM_nil]
    exact (pure []).congr fun out hout => by rw [hout.pure]; rfl
  | cons item items ih =>
    rw [List.mapM_cons]
    refine (h item List.mem_cons_self n).bind fun b _ => ?_
    refine (ih (fun other hother => h other (List.mem_cons_of_mem _ hother)) _).bind
      fun out _ => ?_
    refine (pure (b :: out)).congr fun out' hout' => ?_
    rw [hout'.pure, List.map_cons, List.sum_cons, Nat.add_assoc]

end Materializes

end Step

open Step (Materializes)

section Groups

variable {e : Engine} {o : LoadOptions} {n : Nat}

theorem materializes_count (p : Pipeline) : Materializes n (Step.count e.runner p) fun _ => n :=
  .still fun s => by
    rw [Step.outcome_count]
    rfl

theorem materializes_summarize (summaries : List Summary) (p : Pipeline) :
    Materializes n (Step.summarize e.runner summaries p) fun _ => n :=
  .still fun s => by
    rw [Step.outcome_summarize]
    rfl

/-- The groups that are answered are counted as soon as they can be read. -/
theorem materializes_fetchGroups (level : Nat) (p : Pipeline) :
    Materializes n (fetchGroups e level p) fun found => n + found.length := by
  intro base s found s' hs hstep
  rw [outcome_fetchGroups] at hstep
  split at hstep
  · next groups hgroups =>
    obtain ⟨⟨rfl⟩, rfl⟩ := Prod.mk.inj hstep
    have hcounted : GoesUp found.length s.metrics.groupsMaterialized
        (afterGroups level found (s.handOver p)).metrics.groupsMaterialized := rfl
    exact hs.trans hcounted
  · cases (Prod.mk.inj hstep).1

theorem materializes_summarizeGroup (inside : Json → Pipeline) (group : Group) :
    Materializes n (summarizeGroup e o inside group) fun _ => n := by
  unfold Engine.summarizeGroup
  split_ifs
  · exact .pure group
  · refine Materializes.bind (.still fun s => ?_) fun granted _ => ?_
    · exact congrArg Metrics.groupsMaterialized (attemptSummary_same s).2
    · cases granted with
      | true => exact (materializes_summarize _ _).bind fun values _ => .pure _
      | false => exact Materializes.bind (.still fun s => rfl) fun _ _ => .pure group

/-- What is inside a group has been counted once the group has been filled. -/
theorem materializes_fillGroup {g : GroupLevel} {inner : List GroupLevel} {level : Nat}
    {narrowed : Pipeline} {group : Group} (hbare : group.groups? = none)
    (hinner : inner ≠ [] → Materializes n (queryGroups e o inner (level + 1) [] narrowed)
      fun groups => n + (Group.visit groups).length) :
    Materializes n (fillGroup e o g inner level narrowed group)
      fun out => n + out.inside.length := by
  have hnone : ∀ out : Group, out.inside = [] → n = n + out.inside.length := by
    rintro out hout
    rw [hout]
    rfl
  cases inner with
  | nil =>
    refine Materializes.congr (.pure _) fun out hout => hnone out ?_
    rw [Engine.fillGroup_last hout]
    split_ifs
    · rw [Group.inside_mapRows, Group.inside_of_groups? hbare]
    · exact Group.inside_of_groups? hbare
  | cons next inner =>
    simp only [fillGroup]
    split_ifs
    · refine (hinner (List.cons_ne_nil next inner)).bind fun sub _ => ?_
      exact Materializes.congr (.pure _) fun out hout => by rw [hout.pure]; rfl
    · refine (materializes_count _).bind fun count _ => ?_
      refine Materializes.congr (.pure _) fun out hout => hnone out ?_
      rw [hout.pure, Group.inside_eq]
      have := Group.inside_of_groups? hbare
      rwa [Group.inside_eq] at this

/-- All groups of a level, and those inside them, are counted once. -/
theorem materializes_queryGroups (levels : List GroupLevel) (level : Nat)
    (paging scope : Pipeline) :
    Materializes n (queryGroups e o levels level paging scope)
      fun groups => n + (Group.visit groups).length := by
  induction levels generalizing n level paging scope with
  | nil =>
    intro base s groups s' hs hstep
    cases hstep
  | cons g inner ih =>
    rw [Engine.queryGroups_cons]
    refine (materializes_fetchGroups level _).bind fun found hfound => ?_
    have hbare := Engine.fetchGroups_bare hfound
    refine (Materializes.mapM (fun group hgroup n => materializes_fillGroup (hbare group hgroup).2
      fun _ => ih _ _ _) _).bind fun filled hfilled => ?_
    -- Summaries add no groups, and leave what is inside the groups alone.
    have hsummarized : ∀ n, Materializes n
        (filled.mapM (summarizeGroup e o fun key => scope ++ e.narrowingStages g level key))
        fun groups => n + (groups.map fun _ => 0).sum :=
      Materializes.mapM fun group _ n => materializes_summarizeGroup _ group
    refine (hsummarized _).congr fun groups hgroups => ?_
    have hinside : Group.insideEach groups = Group.insideEach filled :=
      Group.insideEach_congr (hgroups.mapM.imp fun _ _ h => (Engine.summarizeGroup_yields h).1)
    have hlength : found.length = groups.length :=
      hfilled.mapM.length_eq.trans hgroups.mapM.length_eq
    rw [Group.visit, List.length_append, hinside, Group.insideEach_eq, List.length_flatMap,
      hlength]
    simp
    omega

theorem materializes_addGroupCount (r : Response) :
    Materializes n (addGroupCount e o r) fun _ => n := by
  unfold Engine.addGroupCount
  split
  · split_ifs
    · exact (materializes_count _).bind fun count _ => .pure _
    · exact .pure r
  · exact .pure r

theorem materializes_addTotals (r : Response) :
    Materializes n (addTotals e o r) fun _ => n := by
  unfold Engine.addTotals
  split_ifs
  · exact .pure r
  refine (materializes_count _).bind fun total _ => ?_
  simp only
  split_ifs
  · exact (materializes_summarize _ _).bind fun values _ => .pure _
  · exact .pure _

end Groups

/-- All groups of a response. -/
def Response.allGroups (r : Response) : List Group :=
  match r.data with
  | .rows _ => []
  | .groups groups => Group.visit groups

section Requests

variable {e : Engine} {o : LoadOptions}

/-- A request that succeeds counts the groups of its response. -/
theorem materializes_steps : Materializes 0 (e.steps o) fun r => r.allGroups.length := by
  have hreport : Materializes 0 (Engine.reportFilter o) fun _ => 0 := .still fun s => by
    obtain ⟨log, hlog⟩ := exists_log_of_reportFilter o s
    rw [hlog]
  have htotals : ∀ r, Materializes r.allGroups.length (addTotals e o r)
      fun r' => r'.allGroups.length := fun r =>
    (materializes_addTotals r).congr fun r' hr' => by
      rw [Response.allGroups, Response.allGroups, Engine.data_of_addTotals hr']
  unfold Engine.steps
  split_ifs
  · unfold Engine.queryGrouped
    refine hreport.bind fun _ _ => Materializes.bind (.still fun s => rfl) fun _ _ => ?_
    refine (materializes_queryGroups _ _ _ _).bind fun groups _ => ?_
    rw [Nat.zero_add]
    have hcounted : Materializes (Group.visit groups).length
        (addGroupCount e o { data := .groups groups }) fun r => r.allGroups.length :=
      (materializes_addGroupCount _).congr fun r hr => by
        rw [Response.allGroups, Engine.data_of_addGroupCount hr]
    exact hcounted.bind fun r _ => htotals r
  · unfold Engine.queryRows
    have hrows : Materializes 0 (Step.execute e.runner (e.rowsPipeline o)) fun _ => 0 :=
      .still fun s => by
        rw [Step.outcome_execute]
        rfl
    exact hreport.bind fun _ _ => hrows.bind fun rows _ =>
      htotals { data := .rows (rows.map e.shownRow) }

end Requests

/-! ## Requests -/

/-- Requests made one after the other on one engine: how each of them ends, and the session after
    the last one. -/
def Engine.queryEach (e : Engine) :
    List LoadOptions → Session → List (Except Failure Response) × Session
  | [], s => ([], s)
  | o :: rest, s =>
    let (outcome, s₁) := e.query o s
    let (outcomes, s') := e.queryEach rest s₁
    (outcome :: outcomes, s')

/-- Each request has an outcome. -/
theorem Engine.length_queryEach (e : Engine) (requests : List LoadOptions) (s : Session) :
    (e.queryEach requests s).1.length = requests.length := by
  induction requests generalizing s with
  | nil => rfl
  | cons o rest ih => exact congrArg (· + 1) (ih (e.query o s).2)

/-- What the counters tell of requests with such outcomes, for which these pipelines were handed
    over. -/
structure Engine.Accounts (outcomes : List (Except Failure Response)) (issued : List Pipeline)
    (m m' : Metrics) : Prop where
  requests : GoesUp outcomes.length m.requests m'.requests
  requestsFailed : GoesUp (outcomes.countP returnsError) m.requestsFailed m'.requestsFailed
  pipelinesExecuted : GoesUp issued.length m.pipelinesExecuted m'.pipelinesExecuted
  countQueries : GoesUp (issued.countP fun p => p.endsIn "$count") m.countQueries m'.countQueries
  summaryQueries : GoesUp (issued.countP Pipeline.reduces) m.summaryQueries m'.summaryQueries
  groupsMaterialized : ∀ responses : List Response, outcomes = responses.map .ok →
    GoesUp (responses.map fun r => r.allGroups.length).sum m.groupsMaterialized
      m'.groupsMaterialized

namespace Engine

variable {e : Engine} {o : LoadOptions}

/-- Exchanges that count and those that summarize are told by the last stage of their pipelines. -/
theorem Exchanged.countP {s : Session} {trace : List Exchange} (h : e.Exchanged o s trace) :
    ((trace.map (·.pipeline e o)).countP fun p => p.endsIn "$count") =
        trace.countP (fun x => x.question.isCount) ∧
      (trace.map (·.pipeline e o)).countP Pipeline.reduces =
        trace.countP fun x => x.question.isSummary := by
  have hfits : ∀ x ∈ trace, x.question.Fits o := h.follows.forall_mem fun _ _ hx => hx.fits
  rw [List.countP_map, List.countP_map]
  refine ⟨List.countP_congr fun x hx => ?_, List.countP_congr fun x hx => ?_⟩
  · rw [Function.comp_apply, Exchange.pipeline, Question.endsIn_count (hfits x hx)]
  · rw [Function.comp_apply, Exchange.pipeline, Question.reduces_eq (hfits x hx)]

/-- A request that succeeds counts the groups of its response. -/
theorem groupsMaterialized_query {s : Session} {r : Response} (h : (e.query o s).1 = .ok r) :
    GoesUp r.allGroups.length s.metrics.groupsMaterialized
      (e.query o s).2.metrics.groupsMaterialized := by
  rw [query_eq] at h ⊢
  simp only at h
  simp only [h, metrics_conclude]
  exact materializes_steps _ (start o s) r _ (.zero _) (Prod.ext h rfl)

/-- What one request adds to the counters. -/
theorem accounts_query (e : Engine) (o : LoadOptions) (s : Session) :
    ∃ issued, (e.query o s).2.pipelines = s.pipelines ++ issued ∧
      Accounts [(e.query o s).1] issued s.metrics (e.query o s).2.metrics := by
  obtain ⟨trace, htrace⟩ := e.exists_trace o s
  obtain ⟨hcount, hsummary⟩ := htrace.countP
  have hcounts := htrace.counts
  refine ⟨trace.map (·.pipeline e o), htrace.pipelines, ?_⟩
  exact {
    requests := hcounts.requests
    requestsFailed := by
      rw [List.countP_singleton, hcounts.requestsFailed]
      cases returnsError (e.query o s).1 <;> rfl
    pipelinesExecuted := by
      rw [List.length_map]
      exact hcounts.pipelinesExecuted
    countQueries := by
      rw [hcount]
      exact hcounts.countQueries
    summaryQueries := by
      rw [hsummary]
      exact hcounts.summaryQueries
    groupsMaterialized := by
      intro responses hresponses
      obtain ⟨r, rfl, hr⟩ := List.map_eq_singleton_iff.mp hresponses.symm
      rw [List.map_singleton, List.sum_singleton]
      exact groupsMaterialized_query hr.symm }

/-- Without requests, the counters stay as they are. -/
theorem Accounts.nil (m : Metrics) : Accounts [] [] m m where
  requests := .zero _
  requestsFailed := .zero _
  pipelinesExecuted := .zero _
  countQueries := .zero _
  summaryQueries := .zero _
  groupsMaterialized responses hresponses := by
    rw [List.map_eq_nil_iff.mp hresponses.symm]
    exact .zero _

/-- Requests after others add to what those have added. -/
theorem Accounts.append {first second : List (Except Failure Response)}
    {issued issued' : List Pipeline} {m m₁ m' : Metrics} (h : Accounts first issued m m₁)
    (h' : Accounts second issued' m₁ m') :
    Accounts (first ++ second) (issued ++ issued') m m' where
  requests := by
    rw [List.length_append]
    exact h.requests.trans h'.requests
  requestsFailed := by
    rw [List.countP_append]
    exact h.requestsFailed.trans h'.requestsFailed
  pipelinesExecuted := by
    rw [List.length_append]
    exact h.pipelinesExecuted.trans h'.pipelinesExecuted
  countQueries := by
    rw [List.countP_append]
    exact h.countQueries.trans h'.countQueries
  summaryQueries := by
    rw [List.countP_append]
    exact h.summaryQueries.trans h'.summaryQueries
  groupsMaterialized responses hresponses := by
    obtain ⟨left, right, rfl, hleft, hright⟩ := List.append_eq_map_iff.mp hresponses
    rw [List.map_append, List.sum_append]
    exact (h.groupsMaterialized left hleft.symm).trans (h'.groupsMaterialized right hright.symm)

/-- What any requests add to the counters. -/
theorem accounts_queryEach (e : Engine) (requests : List LoadOptions) (s : Session) :
    ∃ issued, (e.queryEach requests s).2.pipelines = s.pipelines ++ issued ∧
      Accounts (e.queryEach requests s).1 issued s.metrics (e.queryEach requests s).2.metrics := by
  induction requests generalizing s with
  | nil => exact ⟨[], (List.append_nil _).symm, .nil _⟩
  | cons o rest ih =>
    obtain ⟨issued, hissued, hfirst⟩ := e.accounts_query o s
    obtain ⟨issued', hissued', hrest⟩ := ih (e.query o s).2
    refine ⟨issued ++ issued', ?_, hfirst.append hrest⟩
    rw [← List.append_assoc, ← hissued]
    exact hissued'

/-- On a new engine, and after any requests, the counters can be read off: from how many requests
    there were and how many of them came back with an error, from the pipelines handed over and from
    their last stages, and, as long as all requests succeed, from the groups of the responses. -/
theorem counters_of_requests (e : Engine) (requests : List LoadOptions) (log : Log) :
    let outcomes := (e.queryEach requests { log := log }).1
    let s := (e.queryEach requests { log := log }).2
    s.metrics.requests = UInt64.ofNat requests.length ∧
      s.metrics.requestsFailed = UInt64.ofNat (outcomes.countP returnsError) ∧
      s.metrics.pipelinesExecuted = UInt64.ofNat s.pipelines.length ∧
      s.metrics.countQueries = UInt64.ofNat (s.pipelines.countP fun p => p.endsIn "$count") ∧
      s.metrics.summaryQueries = UInt64.ofNat (s.pipelines.countP Pipeline.reduces) ∧
      ∀ responses : List Response, outcomes = responses.map .ok →
        s.metrics.groupsMaterialized =
          UInt64.ofNat (responses.map fun r => r.allGroups.length).sum := by
  obtain ⟨issued, hissued, h⟩ := e.accounts_queryEach requests { log := log }
  -- A new engine starts all its counters at zero.
  have hzero : ∀ {n : Nat} {c : UInt64}, GoesUp n 0 c → c = UInt64.ofNat n := fun h => by
    rw [h, UInt64.zero_add]
  simp only [hissued, List.nil_append]
  refine ⟨?_, hzero h.requestsFailed, hzero h.pipelinesExecuted, hzero h.countQueries,
    hzero h.summaryQueries, fun responses hresponses =>
      hzero (h.groupsMaterialized responses hresponses)⟩
  rw [← e.length_queryEach requests]
  exact hzero h.requests

end Engine

end GridQuery
