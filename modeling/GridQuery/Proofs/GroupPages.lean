import Mathlib
import GridQuery.Proofs.Alike
import GridQuery.Proofs.Collapsing

/-!
# Pages of groups

Only the groups of the first level are paged. As long as no summary is refused, what is inside a
group and what is said about it does not depend on the page it is on, so a page of groups is that
page of all groups. The number of groups comes from a pipeline of its own, without any page.

Results:
* `Step.YieldsUnder.bind`, `Step.YieldsUnder.mapM`: the parts of a step that yields something from a
  session with a budget of some kind.
* `Step.YieldsUnder.answers`: what has been yielded once is answered from all such sessions.
* `answers_page`: a page of the groups.
* `groupCount_of_groups`: the number of groups is that of all groups.
* `group_pages`: any page of a grouped request.
-/

namespace GridQuery

open Step (Answers GoesAlike)
open SummaryBudget (Both GrantAlike)
open Collection (runStages)

/-! ## Steps under a budget -/

namespace Step

variable {α β : Type} {e : Engine} {o : LoadOptions} {kept : SummaryBudget → Prop}

/-- The step yields a value from some session with a budget that is kept. -/
def YieldsUnder (kept : SummaryBudget → Prop) (step : Step α) (a : α) : Prop :=
  ∃ s, kept s.budget ∧ (step.outcome s).1 = .ok a

namespace YieldsUnder

theorem yields {step : Step α} {a : α} (h : YieldsUnder kept step a) : Yields step a := by
  obtain ⟨s, -, hstep⟩ := h
  exact ⟨s, _, Prod.ext hstep rfl⟩

/-- What has been yielded once is answered from every session with a budget that is kept. -/
theorem answers {step : Step α} {a : α} (h : YieldsUnder kept step a)
    (hforgets : e.runner.Forgets) (halike : GoesAlike e o (Both kept) step) :
    Answers kept step (· = a) := by
  intro t ht
  obtain ⟨s, hs, hstep⟩ := h
  obtain ⟨outcome, trace, b, c, hrun, hagain, ⟨-, hkept⟩, -⟩ := halike s t (hforgets _ _) ⟨hs, ht⟩
  rw [hrun] at hstep
  obtain rfl : outcome = .ok a := hstep
  exact ⟨a, _, hagain, rfl, hkept⟩

/-- A step after another one goes on from what that one yields, with a budget that is kept. -/
theorem bind {step : Step α} {next : α → Step β} {b : β} (h : YieldsUnder kept (step >>= next) b)
    (halike : GoesAlike e o (Both kept) step) :
    ∃ a, YieldsUnder kept step a ∧ YieldsUnder kept (next a) b := by
  obtain ⟨s, hs, hstep⟩ := h
  obtain ⟨outcome, trace, left, -, hrun, -, ⟨hleft, -⟩, -⟩ :=
    halike s s (fun _ _ => rfl) ⟨hs, hs⟩
  rw [outcome_bind, hrun] at hstep
  cases outcome with
  | error failure => cases hstep
  | ok a => exact ⟨a, ⟨s, hs, by rw [hrun]⟩, s.after e o trace left, hleft, hstep⟩

/-- A step for each item. -/
theorem mapM {f : α → Step β} {items : List α} {out : List β}
    (h : YieldsUnder kept (items.mapM f) out)
    (halike : ∀ item ∈ items, GoesAlike e o (Both kept) (f item)) :
    List.Forall₂ (fun item b => YieldsUnder kept (f item) b) items out := by
  induction items generalizing out with
  | nil =>
    rw [List.mapM_nil] at h
    rw [h.yields.pure]
    exact .nil
  | cons item items ih =>
    have hrest : ∀ other ∈ items, GoesAlike e o (Both kept) (f other) :=
      fun other hother => halike other (List.mem_cons_of_mem _ hother)
    rw [List.mapM_cons] at h
    obtain ⟨b, hb, h⟩ := h.bind (halike item List.mem_cons_self)
    obtain ⟨rest, hout, h⟩ := h.bind (.mapM hrest)
    rw [h.yields.pure]
    exact .cons hb (ih hout hrest)

end YieldsUnder

end Step

/-! ## A page of groups -/

theorem forall₂_pageOf {α β : Type} {R : α → β → Prop} {xs : List α} {ys : List β}
    (h : List.Forall₂ R xs ys) (skip take : UInt64) :
    List.Forall₂ R (pageOf skip take xs) (pageOf skip take ys) := by
  unfold pageOf
  split_ifs
  · exact List.forall₂_drop _ h
  · exact List.forall₂_take _ (List.forall₂_drop _ h)

section Pages

variable {e : Engine} {o : LoadOptions} {docs : List Json} {g : GroupLevel}
  {inner : List GroupLevel}

/-- Only the first level looks at the page of a request. -/
theorem Engine.queryGroups_withPage (skip take : UInt64) (levels : List GroupLevel) (level : Nat)
    (paging scope : Pipeline) :
    e.queryGroups { o with skip := skip, take := take } levels level paging scope =
      e.queryGroups o levels level paging scope := by
  induction levels generalizing level paging scope with
  | nil => rfl
  | cons g inner ih =>
    rw [queryGroups_cons, queryGroups_cons]
    have hfill : ∀ narrowed,
        e.fillGroup { o with skip := skip, take := take } g inner level narrowed =
          e.fillGroup o g inner level narrowed := by
      intro narrowed
      funext group
      cases inner with
      | nil => rfl
      | cons next inner =>
        simp only [fillGroup, ih]
        rfl
    simp only [hfill]
    rfl

theorem grantAlike_unlimited (hsummary : o.groupSummary ≠ []) :
    GrantAlike (Both (Unlimited o)) :=
  SummaryBudget.grantAlike_of_no_limit (fun _ hb => hb.resolve_left hsummary) fun _ hb => hb

/-- The groups of the first level come from those that are fetched, one from each, by steps that can
    be done again. -/
theorem firstLevel_parts (hforgets : e.runner.Forgets) (hlevels : o.group = g :: inner)
    {groups : List Group} (h : Step.YieldsUnder (Unlimited o)
      (e.queryGroups o (g :: inner) 0 (Pipeline.pagingStages o.skip o.take) []) groups) :
    ∃ found filled,
      Step.Yields (e.fetchGroups 0
        (e.levelPipeline o g 0 inner.isEmpty (Pipeline.pagingStages o.skip o.take) [])) found ∧
      List.Forall₂ (fun group full => Answers (Unlimited o)
        (e.fillGroup o g inner 0 ([] ++ e.narrowingStages g 0 group.key) group) (· = full))
        found filled ∧
      List.Forall₂ (fun full out => Answers (Unlimited o)
        (e.summarizeGroup o (fun key => [] ++ e.narrowingStages g 0 key) full) (· = out))
        filled groups := by
  have hpath : o.group = ([] : GroupPath).map Prod.fst ++ g :: inner := hlevels
  have hscope : (fun key => [] ++ e.narrowingStages g 0 key) =
      fun key => e.scopeOf ([] ++ [(g, key)]) := funext fun key => (e.scopeOf_append [] g key).symm
  have hfetch : GoesAlike e o (Both (Unlimited o)) (e.fetchGroups 0
      (e.levelPipeline o g 0 inner.isEmpty (Pipeline.pagingStages o.skip o.take) [])) :=
    goesAlike_fetchGroups [] g inner.isEmpty ⟨inner, hpath, rfl⟩
  have hfill : ∀ group : Group, GoesAlike e o (Both (Unlimited o))
      (e.fillGroup o g inner 0 ([] ++ e.narrowingStages g 0 group.key) group) := by
    intro group
    rw [congrFun hscope group.key]
    exact @goesAlike_fillGroup e o _ [] g inner grantAlike_unlimited hpath group
  have hsummarize : ∀ group : Group, GoesAlike e o (Both (Unlimited o))
      (e.summarizeGroup o (fun key => [] ++ e.narrowingStages g 0 key) group) := by
    intro group
    rw [hscope]
    exact goesAlike_summarizeGroup grantAlike_unlimited hpath group
  rw [Engine.queryGroups_cons] at h
  obtain ⟨found, hfound, h⟩ := h.bind hfetch
  obtain ⟨filled, hfilled, h⟩ := h.bind (.mapM fun group _ => hfill group)
  refine ⟨found, filled, hfound.yields, ?_, ?_⟩
  · exact (hfilled.mapM fun group _ => hfill group).imp fun group full hfull =>
      hfull.answers hforgets (hfill group)
  · exact (h.mapM fun full _ => hsummarize full).imp fun full out hout =>
      hout.answers hforgets (hsummarize full)

/-- The paging of a level comes last, so it takes a page of what is answered without it. -/
theorem aggregate_levelPipeline_page {level : Nat} {last : Bool} {scope : Pipeline}
    {out : List Json}
    (h : (Collection.mk docs).aggregate (e.levelPipeline o g level last [] scope) = .ok out)
    (skip take : UInt64) :
    (Collection.mk docs).aggregate
        (e.levelPipeline o g level last (Pipeline.pagingStages skip take) scope) =
      .ok (pageOf skip take out) := by
  rw [Engine.levelPipeline, List.append_nil] at h
  obtain ⟨stages, hreads, hpages⟩ := run_pagingStages skip take
  exact aggregate_append_eq_ok.mpr ⟨out, stages, h, hreads, hpages out⟩

/-- Where all groups have been yielded, a page of them is answered. -/
theorem answers_page (hrunner : e.runner = .ofCollection ⟨docs⟩) (hgroup : o.group ≠ [])
    (hwhole : Pipeline.pagingStages o.skip o.take = []) {groups : List Group}
    (h : Step.YieldsUnder (Unlimited o)
      (e.queryGroups o o.group 0 (Pipeline.pagingStages o.skip o.take) []) groups)
    (skip take : UInt64) :
    Answers (Unlimited o) (e.queryGroups o o.group 0 (Pipeline.pagingStages skip take) [])
      (· = pageOf skip take groups) := by
  obtain ⟨g, inner, hlevels⟩ := List.exists_cons_of_ne_nil hgroup
  have hforgets : e.runner.Forgets := hrunner ▸ Runner.forgets_ofCollection _
  rw [hlevels] at h ⊢
  obtain ⟨found, filled, hfound, hfills, hsummaries⟩ := firstLevel_parts hforgets hlevels h
  obtain ⟨out, hout, hread⟩ := Engine.fetchGroups_yields hrunner hfound
  rw [hwhole] at hout
  have hreadPage : (pageOf skip take out).mapM Group.ofJson = .ok (pageOf skip take found) :=
    mapM_eq_ok.mpr (forall₂_pageOf (mapM_eq_ok.mp hread) skip take)
  -- Fewer groups are fetched, and then each of them is treated as before.
  rw [Engine.queryGroups_cons]
  refine (Engine.answers_fetchGroups hrunner 0 (aggregate_levelPipeline_page hout skip take)
    hreadPage).bind ?_
  rintro _ rfl
  refine (Answers.mapM_eq (forall₂_pageOf hfills skip take)).bind ?_
  rintro _ rfl
  exact Answers.mapM_eq (forall₂_pageOf hsummaries skip take)

/-- Without pages, the number of groups is counted as it is read. -/
theorem groupCount_of_groups (hrunner : e.runner = .ofCollection ⟨docs⟩) (hgroup : o.group ≠ [])
    (hrequired : o.requireGroupCount = true) (hwhole : Pipeline.pagingStages o.skip o.take = [])
    {groups : List Group} (h : Step.Yields
      (e.queryGroups o o.group 0 (Pipeline.pagingStages o.skip o.take) []) groups)
    {r counted : Response} (hcounted : Step.Yields (e.addGroupCount o r) counted) :
    counted.groupCount = some (UInt64.ofNat groups.length) := by
  obtain ⟨g, inner, hlevels⟩ := List.exists_cons_of_ne_nil hgroup
  rw [hwhole, hlevels] at h
  obtain ⟨chosen, hchosen, hlength⟩ :=
    exists_counted_of_yields hrunner Pipeline.looksAtOne_nil h false
  rw [List.append_nil] at hchosen
  unfold Engine.addGroupCount at hcounted
  rw [hlevels, hrunner] at hcounted
  simp only [hrequired, if_true] at hcounted
  obtain ⟨n, hn, hcounted⟩ := hcounted.bind
  obtain ⟨chosen', hchosen', rfl⟩ := hn.count
  obtain rfl := Except.ok.inj (hchosen.symm.trans hchosen')
  rw [hcounted.pure, hlength]

/-- A request for all groups tells all its pages. -/
theorem pages_of_query (hrunner : e.runner = .ofCollection ⟨docs⟩) (hgroup : o.group ≠ [])
    (hrequired : o.requireGroupCount = true)
    (hunlimited : o.groupSummary = [] ∨ e.config.summaryQueryLimit = 0)
    (hwhole : Pipeline.pagingStages o.skip o.take = []) {s s' : Session} {r : Response}
    (h : e.query o s = (.ok r, s')) :
    ∃ groups, r.data = .groups groups ∧ r.groupCount = some (UInt64.ofNat groups.length) ∧
      ∀ skip take t, ∃ t', e.query { o with skip := skip, take := take } t =
        (.ok { r with data := .groups (pageOf skip take groups) }, t') := by
  have hbudget : Unlimited o { limit := e.config.summaryLimit } :=
    hunlimited.imp_right fun hlimit => if_pos hlimit
  have hlevels : GoesAlike e o (Both (Unlimited o))
      (e.queryGroups o o.group 0 (Pipeline.pagingStages o.skip o.take) []) :=
    @goesAlike_queryGroups e o _ [] o.group grantAlike_unlimited rfl
  have hyields : Step.YieldsUnder (Unlimited o) (e.answerGroups o) r := by
    rw [Engine.query_eq, Engine.steps_grouped e o hgroup, Engine.outcome_queryGrouped] at h
    exact ⟨_, hbudget, (Prod.mk.inj h).1⟩
  obtain ⟨groups, hgroups, hyields⟩ := hyields.bind hlevels
  obtain ⟨counted, hcounted, htotals⟩ := hyields.bind (goesAlike_addGroupCount _)
  have hdata := Engine.data_of_totals hcounted.yields htotals.yields
  refine ⟨groups, hdata, ?_, fun skip take t => ?_⟩
  · rw [(Engine.addTotals_yields htotals.yields).2]
    exact groupCount_of_groups hrunner hgroup hrequired hwhole hgroups.yields hcounted.yields
  · have hanswers : Answers (Unlimited o)
        (e.answerGroups { o with skip := skip, take := take })
        (· = { r with data := .groups (pageOf skip take groups) }) := by
      unfold Engine.answerGroups
      rw [Engine.queryGroups_withPage]
      refine (answers_page hrunner hgroup hwhole hgroups skip take).bind ?_
      rintro _ rfl
      refine (answers_addGroupCount hrunner hcounted.yields _).bind ?_
      rintro _ rfl
      exact answers_addTotals hrunner htotals.yields _
    obtain ⟨_, t', hquery, rfl⟩ :=
      @Engine.query_of_answers e { o with skip := skip, take := take } _ hgroup hbudget _ hanswers t
    exact ⟨t', hquery⟩

end Pages

/-- Pages of groups.

    A grouped request over a collection asks for the number of groups, and no summary of a group is
    refused. If it succeeds without a page, with some groups, it succeeds with every page, from any
    session: its groups are that page of those groups, as they were, and nothing else in the
    response changes. The number of groups is that of all groups. -/
theorem group_pages {e : Engine} {o : LoadOptions} {docs : List Json}
    (hrunner : e.runner = .ofCollection ⟨docs⟩) (hgroup : o.group ≠ [])
    (hrequired : o.requireGroupCount = true)
    (hunlimited : o.groupSummary = [] ∨ e.config.summaryQueryLimit = 0) {s s' : Session}
    {r : Response} (h : e.query { o with skip := 0, take := 0 } s = (.ok r, s')) :
    ∃ groups, r.data = .groups groups ∧ r.groupCount = some (UInt64.ofNat groups.length) ∧
      ∀ skip take t, ∃ t', e.query { o with skip := skip, take := take } t =
        (.ok { r with data := .groups (pageOf skip take groups) }, t') :=
  @pages_of_query e { o with skip := 0, take := 0 } docs hrunner hgroup hrequired hunlimited rfl
    s s' r h

/-- Groups by `b`, with their number. -/
def numberedGroups : LoadOptions where
  group := [⟨"b", false, false, none⟩]
  requireGroupCount := true

/-- Each of the two documents has a group of its own. -/
def twoGroups : List Group :=
  [.mk (.ofUInt64 1) 1 .absent none, .mk (.ofUInt64 2) 1 .absent none]

theorem aggregate_numberedGroups :
    (Collection.mk twoDocuments).aggregate
        (overTwoDocuments.groupingStages ⟨"b", false, false, none⟩ 0 false false none) =
      .ok [.object [("key", .ofUInt64 1), ("count", .ofUInt64 1), ("items", .null)],
        .object [("key", .ofUInt64 2), ("count", .ofUInt64 1), ("items", .null)]] := by
  have hcounted : runStages ([.addFields [(Pipeline.keyField 0, .field "b")]] ++
      [.group (.field (Pipeline.keyField 0)) (levelAccumulators false none),
        .project (levelProjection false false)]) twoDocuments =
      .ok [.object [("key", .ofUInt64 1), ("count", .ofUInt64 1)],
        .object [("key", .ofUInt64 2), ("count", .ofUInt64 1)]] := by
    decide +kernel
  exact aggregate_inOrder (reads_keyStages_values rfl rfl 0 0) Option.isSome_none nofun hcounted
    (by decide +kernel)

/-- What the request for numbered groups answers. -/
theorem steps_numberedGroups :
    Step.Succeeds (overTwoDocuments.steps numberedGroups)
      { data := .groups twoGroups, groupCount := some 2 } := by
  have hlevel : (Collection.mk twoDocuments).aggregate (overTwoDocuments.levelPipeline
      numberedGroups ⟨"b", false, false, none⟩ 0 true [] []) = .ok _ := aggregate_numberedGroups
  have hgroups : Step.Succeeds (overTwoDocuments.queryGroups numberedGroups numberedGroups.group 0
      [] []) twoGroups := by
    have hrunner : overTwoDocuments.runner = .ofCollection ⟨twoDocuments⟩ := rfl
    have hfound := Engine.fetchGroups_succeeds hrunner 0 hlevel rfl
    exact hfound.bind ((Step.Succeeds.pure _).bind (.pure _))
  have hcount : Step.Succeeds
      (overTwoDocuments.addGroupCount numberedGroups { data := .groups twoGroups })
      { data := .groups twoGroups, groupCount := some 2 } :=
    (Step.Succeeds.count aggregate_numberedGroups).bind (.pure _)
  exact Engine.queryGrouped_succeeds hgroups hcount (.pure _)

theorem group_pages_of_two :
    (overTwoDocuments.query numberedGroups {}).1 =
        .ok { data := .groups twoGroups, groupCount := some 2 } ∧
      (overTwoDocuments.query { numberedGroups with skip := 1, take := 5 } {}).1 =
        .ok { data := .groups (twoGroups.drop 1), groupCount := some 2 } := by
  obtain ⟨s', hquery⟩ :=
    Engine.query_of_succeeds overTwoDocuments numberedGroups steps_numberedGroups {}
  obtain ⟨groups, hdata, -, hpages⟩ :=
    @group_pages overTwoDocuments numberedGroups twoDocuments rfl (by decide) rfl (.inl rfl) {} s' _
      hquery
  cases hdata
  obtain ⟨t', hpage⟩ := hpages 1 5 {}
  exact ⟨by rw [hquery], by rw [hpage]; rfl⟩

end GridQuery
