import Mathlib
import GridQuery.Proofs.Answering
import GridQuery.Proofs.BudgetedGroups
import GridQuery.Proofs.GroupedRows

/-!
# Collapsed groups

The groups inside a collapsed group are read or only counted, as the engine is configured. Reading
them tells no more about the collapsed group than counting does: the response with all groups read
is that with collapsed groups counted once their items are taken out of it.

Results:
* `Group.collapse`: a group without what is inside the collapsed groups.
* `exists_counted_of_yields`: if the groups of a level can be read they can be counted, and the
  count is their number.
* `answers_queryGroups`: the groups of a level when collapsed groups are counted.
* `collapsed_counts_agree`: both configurations give the same response but for those items.
-/

namespace GridQuery

open Collection (aggregate_eq_ok runStages runStages_append_eq_ok)

/-! ## Taking items out -/

/-- Changes every group inside a group. -/
def GroupItems.mapGroups (f : Group → Group) : GroupItems → GroupItems
  | .groups inside => .groups (inside.map f)
  | other => other

namespace Group

/-- A group of the first of some levels without the items of collapsed groups. On the last level
    there are rows, and they stay. -/
def collapse : List GroupLevel → Group → Group
  | [], group => group
  | [_], group => group
  | g :: next :: inner, mk key count items summary =>
    mk key count (if g.isExpanded then items.mapGroups (collapse (next :: inner)) else .absent)
      summary

variable {g next : GroupLevel} {inner : List GroupLevel}

theorem key_collapse (levels : List GroupLevel) (group : Group) :
    (group.collapse levels).key = group.key := by
  obtain ⟨key, count, items, summary⟩ := group
  rcases levels with _ | ⟨g, _ | ⟨next, inner⟩⟩ <;> rfl

/-- Items are taken out before a summary is added, or after. -/
theorem collapse_withSummary (levels : List GroupLevel) (group : Group) (values : List Json) :
    (group.withSummary values).collapse levels = (group.collapse levels).withSummary values := by
  obtain ⟨key, count, items, summary⟩ := group
  rcases levels with _ | ⟨g, _ | ⟨next, inner⟩⟩ <;> rfl

theorem collapse_of_expanded (hexpanded : g.isExpanded = true) (group : Group)
    (groups : List Group) :
    (group.withGroups groups).collapse (g :: next :: inner) =
      group.withGroups (groups.map (collapse (next :: inner))) := by
  rw [withGroups, collapse, if_pos hexpanded, withGroups, List.length_map]
  rfl

/-- What is left of a collapsed group is the group that was fetched, with a count. -/
theorem collapse_of_collapsed (hcollapsed : g.isExpanded = false) {group : Group}
    (hitems : group.items = .absent) (groups : List Group) :
    (group.withGroups groups).collapse (g :: next :: inner) =
      group.withCount (UInt64.ofNat groups.length) := by
  rw [withGroups, collapse, if_neg (by simp [hcollapsed]), withCount, hitems]

end Group

/-! ## Pipelines that look at one document at a time -/

namespace Pipeline

/-- Whatever the pipeline is read as, it looks at one document at a time. -/
def LooksAtOne (p : Pipeline) : Prop :=
  ∀ stages, Reads p stages → ∀ stage ∈ stages, stage.LooksAtOne

namespace LooksAtOne

theorem append {p q : Pipeline} (hp : LooksAtOne p) (hq : LooksAtOne q) : LooksAtOne (p ++ q) := by
  intro stages hreads
  obtain ⟨a, b, ha, hb, rfl⟩ := reads_append.mp hreads
  exact List.forall_mem_append.mpr ⟨hp a ha, hq b hb⟩

theorem of_forall {p : Pipeline}
    (h : ∀ content ∈ p, ∀ stage, Stage.ofJson content = .ok stage → stage.LooksAtOne) :
    LooksAtOne p := by
  intro stages hreads stage hstage
  obtain ⟨content, hcontent, hread⟩ := exists_of_mem_right (mapM_eq_ok.mp hreads) hstage
  exact h content hcontent stage hread

end LooksAtOne

theorem looksAtOne_nil : LooksAtOne [] := .of_forall (by simp)

theorem looksAtOne_addField {field : String} {expression : Json} {stage : Stage}
    (h : Stage.ofJson (addField field expression) = .ok stage) : stage.LooksAtOne := by
  simp only [addField, Json.single, Stage.ofJson, Stage.ofEntry] at h
  obtain ⟨fields, -, rfl⟩ := map_eq_ok.mp h
  trivial

theorem looksAtOne_matchStages (field : String) (value : Json) :
    LooksAtOne (matchStages field value) := by
  refine .of_forall fun content hcontent stage hread => ?_
  obtain rfl := List.mem_singleton.mp hcontent
  simp only [Json.single, Stage.ofJson, Stage.ofEntry] at hread
  obtain rfl := Except.ok.inj hread
  trivial

theorem looksAtOne_partStages (target source : String) (part : CalendarPart) (offset : Int64)
    (scratch : String) : LooksAtOne (partStages target source part offset scratch) := by
  refine .of_forall fun content hcontent stage hread => ?_
  obtain ⟨field, expression, rfl⟩ : ∃ field expression, content = addField field expression := by
    cases part <;> simp only [partStages, List.mem_cons, List.not_mem_nil, or_false] at hcontent
    case quarter => rcases hcontent with rfl | rfl <;> exact ⟨_, _, rfl⟩
    all_goals exact ⟨_, _, hcontent⟩
  exact looksAtOne_addField hread

/-- The key of a level is computed in each document by itself. -/
theorem looksAtOne_groupKey (selector : String) (interval : Option GroupInterval) (level : Nat)
    (offset : Int64) : LooksAtOne (groupKey selector interval level offset).stages := by
  unfold groupKey
  simp only
  split
  · refine .of_forall fun content hcontent stage hread => ?_
    obtain rfl := List.mem_singleton.mp hcontent
    exact looksAtOne_addField hread
  · exact looksAtOne_partStages _ _ _ _ _
  · refine .of_forall fun content hcontent stage hread => ?_
    obtain rfl := List.mem_singleton.mp hcontent
    exact looksAtOne_addField hread

end Pipeline

section Engine

variable {e : Engine} {o : LoadOptions}

theorem looksAtOne_narrowingStages (g : GroupLevel) (level : Nat) (key : Json) :
    Pipeline.LooksAtOne (e.narrowingStages g level key) := by
  unfold Engine.narrowingStages Pipeline.narrowingStages
  simp only
  split_ifs
  · exact (Pipeline.looksAtOne_groupKey _ _ _ _).append (Pipeline.looksAtOne_matchStages _ _)
  · exact Pipeline.looksAtOne_matchStages _ _

theorem looksAtOne_filterStages : Pipeline.LooksAtOne (e.filterStages o) := by
  intro stages hreads
  obtain ⟨_, hreads', hkeeps⟩ := keeps_requestStages e o
  obtain rfl := hreads.unique hreads'
  exact hkeeps.looksAtOne

/-! ## Counting the groups inside a group -/

/-- If the groups of a level can be read they can be counted, and the count is their number. The
    groups are read from sorted documents, and counted without their rows. -/
theorem exists_counted {docs out : List Json} {next : GroupLevel} {level : Nat} {last : Bool}
    {narrowed : Pipeline} (hnarrowed : narrowed.LooksAtOne)
    (h : (Collection.mk docs).aggregate (e.levelPipeline o next level last [] narrowed) = .ok out)
    (countSeparately : Bool) :
    ∃ chosen, (Collection.mk docs).aggregate (e.filterStages o ++ narrowed ++
        e.groupingStages next level false countSeparately none) = .ok chosen ∧
      chosen.length = out.length := by
  obtain ⟨_, hreads, hrun⟩ := aggregate_eq_ok.mp h
  rw [Engine.levelPipeline, List.append_nil] at hreads
  obtain ⟨_, grouping, hscoped, hgrouping, rfl⟩ := reads_append.mp hreads
  obtain ⟨_, scope, hbefore, hscope, rfl⟩ := reads_append.mp hscoped
  obtain ⟨sorts, filters, hsorts, hfilters, rfl⟩ := reads_append.mp hbefore
  obtain ⟨arrange, harrange⟩ : ∃ arrange, Arranges sorts arrange := by
    split_ifs at hsorts
    · exact arranges_sortStages hsorts
    · obtain rfl := hsorts.unique reads_nil
      exact ⟨id, arranges_nil⟩
  obtain ⟨inside, hinside, hout⟩ := runStages_append_eq_ok.mp hrun
  obtain ⟨keyStages, items, computed, keys, hkey, -, -, hcomputed, hkeys, hgroups⟩ :=
    run_groupingStages hgrouping hout
  have hlooks := (looksAtOne_filterStages.append (hnarrowed.append
    (Pipeline.looksAtOne_groupKey _ _ _ _))) _ (hfilters.append (hscope.append hkey))
  have hlocal := runStages_append_eq_ok.mpr ⟨inside, hinside, hcomputed⟩
  rw [List.append_assoc, List.append_assoc] at hlocal
  obtain ⟨computed', hcomputed', hperm⟩ := harrange.run_without hlooks hlocal
  obtain ⟨chosen, hchosen⟩ : ∃ chosen, runStages
      (levelStages next.desc countSeparately (Pipeline.keyField level) none) computed' =
        .ok chosen :=
    exists_run_levelStages (by simp) _ _ _
  obtain ⟨keys', hkeys', hgroups'⟩ := run_levelStages hchosen
  refine ⟨chosen, ?_, ?_⟩
  · have hlevel : Reads (e.groupingStages next level false countSeparately none) _ :=
      reads_levelStages hkey Option.isSome_none (by simp)
    refine aggregate_eq_ok.mpr ⟨_, (hfilters.append hscope).append hlevel, ?_⟩
    rw [← List.append_assoc, List.append_assoc filters]
    exact runStages_append_eq_ok.mpr ⟨computed', hcomputed', hchosen⟩
  · rw [← hgroups'.length_eq, ← hgroups.length_eq]
    exact hkeys'.length_eq (hkeys.docs_perm hperm)

/-- The groups of a level that have been read without a page can be counted. -/
theorem exists_counted_of_yields {docs : List Json} (hrunner : e.runner = .ofCollection ⟨docs⟩)
    {next : GroupLevel} {inner : List GroupLevel} {level : Nat} {narrowed : Pipeline}
    (hnarrowed : narrowed.LooksAtOne) {groups : List Group}
    (h : Step.Yields (e.queryGroups o (next :: inner) level [] narrowed) groups)
    (countSeparately : Bool) :
    ∃ chosen, (Collection.mk docs).aggregate (e.filterStages o ++ narrowed ++
        e.groupingStages next level false countSeparately none) = .ok chosen ∧
      chosen.length = groups.length := by
  obtain ⟨found, filled, hfound, hfilled, hsummarized⟩ := Engine.queryGroups_yields h
  obtain ⟨out, hout, hread⟩ := Engine.fetchGroups_yields hrunner hfound
  obtain ⟨chosen, hchosen, hlength⟩ := exists_counted hnarrowed hout countSeparately
  refine ⟨chosen, hchosen, ?_⟩
  rw [hlength, (mapM_eq_ok.mp hread).length_eq, hfilled.length_eq, hsummarized.length_eq]

/-! ## The documents of a level -/

/-- The pipeline of a level prepares documents, computes their keys, groups them and takes a page of
    the groups. -/
theorem levelStages_of_aggregate {docs out : List Json} {g : GroupLevel} {level : Nat} {last : Bool}
    {skip take : UInt64} {scope : Pipeline}
    (h : (Collection.mk docs).aggregate
      (e.levelPipeline o g level last (Pipeline.pagingStages skip take) scope) = .ok out) :
    ∃ inside keyStages computed items all,
      (Collection.mk docs).aggregate ((if last && g.isExpanded then Pipeline.sortStages o.sort
        else []) ++ e.filterStages o ++ scope) = .ok inside ∧
      Reads (Pipeline.groupKey g.selector g.interval level e.config.timezoneOffset).stages keyStages ∧
      runStages keyStages inside = .ok computed ∧ items.isSome = (last && g.isExpanded) ∧
      (∀ pushed ∈ items, Expression.ofJson ((Pipeline.selectProjection o.select true).getD
        Pipeline.currentDocument) = .ok pushed) ∧
      runStages (levelStages g.desc (!last) (Pipeline.keyField level) items) computed = .ok all ∧
      out.Sublist all := by
  obtain ⟨all, paging, hall, hpaging, hpaged⟩ := aggregate_append_eq_ok.mp h
  obtain ⟨stages, hreads, hpages⟩ := exists_reads_pagingStages skip take
  obtain rfl := hpaging.unique hreads
  obtain ⟨page, hpage, hsub⟩ := hpages all
  obtain rfl := Except.ok.inj (hpage.symm.trans hpaged)
  obtain ⟨inside, grouping, hinside, hgrouping, hrun⟩ := aggregate_append_eq_ok.mp hall
  obtain ⟨keyStages, items, hkeyReads, hsome, hitems, rfl⟩ := reads_groupingStages hgrouping
  obtain ⟨computed, hcomputed, hlevel⟩ := runStages_append_eq_ok.mp hrun
  exact ⟨inside, keyStages, computed, items, all, hinside, hkeyReads, hcomputed, hsome, hitems,
    hlevel, hsub⟩

/-- The pipeline of a level answers documents of groups, each for a key of the documents that come
    to it. -/
theorem level_of_aggregate {docs out : List Json} {g : GroupLevel} {level : Nat} {last : Bool}
    {skip take : UInt64} {scope : Pipeline}
    (h : (Collection.mk docs).aggregate
      (e.levelPipeline o g level last (Pipeline.pagingStages skip take) scope) = .ok out) :
    ∃ inside keyStages computed items,
      (Collection.mk docs).aggregate ((if last && g.isExpanded then Pipeline.sortStages o.sort
        else []) ++ e.filterStages o ++ scope) = .ok inside ∧
      Reads (Pipeline.groupKey g.selector g.interval level e.config.timezoneOffset).stages keyStages ∧
      runStages keyStages inside = .ok computed ∧ items.isSome = (last && g.isExpanded) ∧
      (∀ pushed ∈ items, Expression.ofJson ((Pipeline.selectProjection o.select true).getD
        Pipeline.currentDocument) = .ok pushed) ∧
      ∀ doc ∈ out, ∃ key, docsOf (Pipeline.keyField level) computed key ≠ [] ∧
        IsGroup (Pipeline.keyField level) computed (!last) items key doc := by
  obtain ⟨inside, keyStages, computed, items, all, hinside, hkeyReads, hcomputed, hsome, hitems,
    hlevel, hsub⟩ := levelStages_of_aggregate h
  obtain ⟨keys, hkeys, hgroups⟩ := run_levelStages hlevel
  refine ⟨inside, keyStages, computed, items, hinside, hkeyReads, hcomputed, hsome, hitems,
    fun doc hdoc => ?_⟩
  obtain ⟨key, hkey, hgroup⟩ := exists_of_mem_right hgroups (hsub.subset hdoc)
  exact ⟨key, hkeys.docsOf_ne_nil key hkey, hgroup⟩

/-! ## Groups that are fetched without rows -/

theorem itemsOf_setPath (doc : Json) : Group.itemsOf (doc.setPath "items" .null) = .absent := by
  cases doc with
  | object entries =>
    have hget := Json.resolve?_setPath_self hasNoPoint_items entries .null
    rw [resolve?_of_noPoint hasNoPoint_items] at hget
    rw [Group.itemsOf, hget]
  | _ => rfl

/-- Groups whose rows are not asked for are fetched without rows. -/
theorem items_of_fetched {docs : List Json} (hrunner : e.runner = .ofCollection ⟨docs⟩)
    {g : GroupLevel} {level : Nat} {last : Bool} (hrows : (last && g.isExpanded) = false)
    {skip take : UInt64} {scope : Pipeline} {found : List Group}
    (h : Step.Yields (e.fetchGroups level
      (e.levelPipeline o g level last (Pipeline.pagingStages skip take) scope)) found) :
    ∀ group ∈ found, group.items = .absent := by
  obtain ⟨out, hout, hread⟩ := Engine.fetchGroups_yields hrunner h
  obtain ⟨before, hbefore⟩ : ∃ before, e.levelPipeline o g level last
      (Pipeline.pagingStages skip take) scope =
        before ++ [Pipeline.addField "items" .null] ++ Pipeline.pagingStages skip take := by
    rw [Engine.levelPipeline, hrows]
    exact ⟨_, congrArg (· ++ Pipeline.pagingStages skip take) (List.append_assoc _ _ _).symm⟩
  rw [hbefore] at hout
  obtain ⟨all, paging, hall, hpaging, hpaged⟩ := aggregate_append_eq_ok.mp hout
  obtain ⟨_, hreads, hpages⟩ := exists_reads_pagingStages skip take
  obtain rfl := hpaging.unique hreads
  obtain ⟨_, hrun, hsub⟩ := hpages all
  obtain rfl := Except.ok.inj (hrun.symm.trans hpaged)
  obtain ⟨shown, last, -, hlast, hall⟩ := aggregate_append_eq_ok.mp hall
  have hnull : Expression.ofJson .null = .ok (.literal .null) := by simp [Expression.ofJson]
  obtain rfl := hlast.unique (reads_one (ofJson_addField "items" hnull))
  rw [Collection.runStages_one, Stage.run, mapError_eq_ok] at hall
  intro group hgroup
  obtain ⟨doc, hdoc, hof⟩ := exists_of_mem_right (mapM_eq_ok.mp hread) hgroup
  obtain ⟨before, -, hset⟩ := exists_of_mem_right (mapM_eq_ok.mp hall) (hsub.subset hdoc)
  obtain rfl := Except.ok.inj hset
  unfold Group.ofJson at hof
  split at hof
  · cases hof
  · obtain ⟨count, -, rfl⟩ := map_eq_ok.mp hof
    exact itemsOf_setPath before

end Engine

/-! ## Both configurations -/

namespace Engine

/-- The engine with collapsed groups read, or counted. -/
def materializing (e : Engine) (reads : Bool) : Engine :=
  { e with config := { e.config with materializeCollapsedGroups := reads } }

theorem summarizeGroup_materializing (e : Engine) (reads : Bool) (o : LoadOptions) :
    (e.materializing reads).summarizeGroup o = e.summarizeGroup o := rfl

theorem addGroupCount_materializing (e : Engine) (reads : Bool) (o : LoadOptions) :
    (e.materializing reads).addGroupCount o = e.addGroupCount o := rfl

theorem addTotals_materializing (e : Engine) (reads : Bool) (o : LoadOptions) :
    (e.materializing reads).addTotals o = e.addTotals o := rfl

end Engine

/-- No summary of a group is refused: none is asked for, or there is no ceiling. -/
def Unlimited (o : LoadOptions) (b : SummaryBudget) : Prop :=
  o.groupSummary = [] ∨ b.limit = none

section Levels

variable {e : Engine} {o : LoadOptions} {docs : List Json} {g : GroupLevel}
  {inner levels : List GroupLevel} {level : Nat}

/-- A group that has been given a summary is given the same one without its items. -/
theorem answers_summarizeGroup (hrunner : e.runner = .ofCollection ⟨docs⟩)
    {inside : Json → Pipeline} {group out : Group} (hnone : group.summary = none)
    (hsome : o.groupSummary ≠ [] → ∃ values, out.summary = some values)
    (h : Step.Yields (e.summarizeGroup o inside group) out) :
    Step.Answers (Unlimited o) (e.summarizeGroup o inside (group.collapse levels))
      (· = out.collapse levels) := by
  by_cases hsummary : o.groupSummary = []
  · rw [Engine.summarizeGroup, if_pos (by simp [hsummary])] at h ⊢
    obtain rfl := h.pure
    exact .pure rfl
  rcases Engine.summarizeGroup_cases h with rfl | ⟨values, rfl, hvalues⟩
  · obtain ⟨values, hvalues⟩ := hsome hsummary
    rw [hnone] at hvalues
    cases hvalues
  rw [hrunner] at hvalues
  obtain ⟨found, hfound, rfl⟩ := hvalues.summaryOf
  rw [Engine.summarizeGroup, if_neg (by simp [hsummary]), Engine.addSummary, Group.key_collapse,
    hrunner]
  refine (Step.Answers.acquireSummary fun b hb => hb).bind ?_
  rintro _ ⟨b, hb, rfl⟩
  have hgrants : b.grants = true := by
    rw [SummaryBudget.grants, hb.resolve_left hsummary]
  rw [if_pos hgrants]
  refine (Step.Answers.summarize hfound).bind ?_
  rintro _ rfl
  exact .pure (Group.collapse_withSummary levels group _).symm

/-- A group that can be filled by reading can be filled by counting, with the same number. -/
theorem answers_fillGroup (hrunner : e.runner = .ofCollection ⟨docs⟩) {narrowed : Pipeline}
    (hnarrowed : narrowed.LooksAtOne) {group full : Group}
    (hitems : inner ≠ [] → group.items = .absent)
    (hinner : inner ≠ [] → ∀ sub, full = group.withGroups sub →
      Step.Yields ((e.materializing true).queryGroups o inner (level + 1) [] narrowed) sub →
      Step.Answers (Unlimited o)
        ((e.materializing false).queryGroups o inner (level + 1) [] narrowed)
        (· = sub.map (Group.collapse inner)))
    (h : Step.Yields ((e.materializing true).fillGroup o g inner level narrowed group) full) :
    Step.Answers (Unlimited o) ((e.materializing false).fillGroup o g inner level narrowed group)
      (· = full.collapse (g :: inner)) := by
  cases inner with
  | nil =>
    rw [Engine.fillGroup_last h]
    exact .pure rfl
  | cons next rest =>
    obtain ⟨sub, hsub, rfl⟩ := Engine.fillGroup_open (List.cons_ne_nil next rest) rfl h
    have hopens : (e.materializing false).opens g = g.isExpanded := rfl
    rw [Engine.fillGroup, hopens]
    cases hexpanded : g.isExpanded with
    | true =>
      rw [if_pos rfl]
      refine (hinner (List.cons_ne_nil next rest) sub rfl hsub).bind ?_
      rintro _ rfl
      exact .pure (Group.collapse_of_expanded hexpanded group sub).symm
    | false =>
      obtain ⟨chosen, hchosen, hsize⟩ :=
        @exists_counted_of_yields (e.materializing true) o docs hrunner _ _ _ _ hnarrowed _ hsub
          true
      rw [if_neg Bool.false_ne_true]
      have hcount : Step.Answers (Unlimited o) (Step.count e.runner
          (e.countPipeline o next (level + 1) narrowed)) (· = UInt64.ofNat chosen.length) := by
        rw [hrunner]
        exact .count hchosen
      refine hcount.bind ?_
      rintro _ rfl
      rw [hsize]
      exact .pure (Group.collapse_of_collapsed hexpanded (hitems (List.cons_ne_nil next rest))
        sub).symm

/-- Where every group has been given a summary, all of them are given the same ones without their
    items. -/
theorem answers_summarizeGroups (hrunner : e.runner = .ofCollection ⟨docs⟩)
    (levels : List GroupLevel) {inside : Json → Pipeline} {filled groups : List Group}
    (hnone : ∀ full ∈ filled, full.summary = none)
    (hsome : o.groupSummary ≠ [] → ∀ out ∈ groups, ∃ values, out.summary = some values)
    (h : List.Forall₂ (fun full out => Step.Yields (e.summarizeGroup o inside full) out)
      filled groups) :
    Step.Answers (Unlimited o) ((filled.map (Group.collapse levels)).mapM
      (e.summarizeGroup o inside)) (· = groups.map (Group.collapse levels)) := by
  refine .mapM_eq (List.forall₂_map_left_iff.mpr (List.forall₂_map_right_iff.mpr ?_))
  refine forall₂_imp_of_mem_both h fun full hfull out hmem hout => ?_
  exact answers_summarizeGroup hrunner (hnone full hfull)
    (fun hsummary => hsome hsummary out hmem) hout

/-- The groups of a level, when collapsed groups are counted, are those that are read otherwise
    without the items of collapsed groups. -/
theorem answers_queryGroups (hrunner : e.runner = .ofCollection ⟨docs⟩) (hlevels : levels ≠ [])
    {skip take : UInt64} {scope : Pipeline} (hscope : scope.LooksAtOne) {groups : List Group}
    (hsome : o.groupSummary ≠ [] → ∀ group ∈ Group.visit groups,
      ∃ values, group.summary = some values)
    (h : Step.Yields ((e.materializing true).queryGroups o levels level
      (Pipeline.pagingStages skip take) scope) groups) :
    Step.Answers (Unlimited o) ((e.materializing false).queryGroups o levels level
      (Pipeline.pagingStages skip take) scope) (· = groups.map (Group.collapse levels)) := by
  induction levels generalizing level skip take scope groups with
  | nil => exact absurd rfl hlevels
  | cons g inner ih =>
    obtain ⟨found, filled, hfound, hfilled, hsummarized⟩ := Engine.queryGroups_yields h
    obtain ⟨out, hout, hread⟩ := Engine.fetchGroups_yields hrunner hfound
    have hbare := Engine.fetchGroups_bare hfound
    have hitems : inner ≠ [] → ∀ group ∈ found, group.items = .absent := by
      intro hinner
      rw [List.isEmpty_eq_false_iff.mpr hinner] at hfound
      exact items_of_fetched hrunner (Bool.false_and _) hfound
    have hinside : Group.insideEach filled = Group.insideEach groups :=
      (Group.insideEach_congr (hsummarized.imp fun _ _ h =>
        (Engine.summarizeGroup_yields h).1)).symm
    have hnarrowed : ∀ key, Pipeline.LooksAtOne (scope ++ e.narrowingStages g level key) :=
      fun key => hscope.append (looksAtOne_narrowingStages g level key)
    -- First the groups are filled, one after the other.
    have hfills : Step.Answers (Unlimited o) (found.mapM fun group =>
        (e.materializing false).fillGroup o g inner level
          (scope ++ e.narrowingStages g level group.key) group)
        (· = filled.map (Group.collapse (g :: inner))) := by
      refine .mapM_eq (List.forall₂_map_right_iff.mpr ?_)
      refine forall₂_imp_of_mem_both hfilled fun group hgroup full hmem hfull => ?_
      refine answers_fillGroup hrunner (hnarrowed _) (fun hinner => hitems hinner group hgroup)
        (fun hinner sub heq hsub => ?_) hfull
      rw [← pagingStages_none] at hsub ⊢
      refine ih hinner (hnarrowed _) (fun hsummary below hbelow => ?_) hsub
      refine hsome hsummary below (List.mem_append_left _ ?_)
      rw [← hinside, Group.insideEach_eq]
      exact List.mem_flatMap.mpr ⟨full, hmem, heq ▸ hbelow⟩
    rw [Engine.summarizeGroup_materializing] at hsummarized
    have hnone : ∀ full ∈ filled, full.summary = none := by
      intro full hmem
      obtain ⟨group, hgroup, hfull⟩ := exists_of_mem_right hfilled hmem
      rw [(Engine.fillGroup_yields hfull).summary_eq, (hbare group hgroup).1]
    -- Then they are summarized.
    have hsummaries := answers_summarizeGroups hrunner (g :: inner) hnone
      (fun hsummary out hmem => hsome hsummary out (List.mem_append_right _ hmem)) hsummarized
    rw [Engine.queryGroups_cons, Engine.summarizeGroup_materializing]
    refine (Engine.answers_fetchGroups hrunner level hout hread).bind ?_
    rintro _ rfl
    refine hfills.bind ?_
    rintro _ rfl
    exact hsummaries

/-- What is yielded by a count once is answered again, whatever the data beside it. -/
theorem answers_addGroupCount (hrunner : e.runner = .ofCollection ⟨docs⟩)
    {kept : SummaryBudget → Prop} {r r' : Response}
    (h : Step.Yields (e.addGroupCount o r) r') (data : ResponseData) :
    Step.Answers kept (e.addGroupCount o { r with data := data })
      (· = { r' with data := data }) := by
  unfold Engine.addGroupCount at h ⊢
  split at h
  · split_ifs at h ⊢
    · rw [hrunner] at h ⊢
      obtain ⟨n, hn, h⟩ := h.bind
      obtain ⟨chosen, hchosen, rfl⟩ := hn.count
      obtain rfl := h.pure
      refine (Step.Answers.count hchosen).bind ?_
      rintro _ rfl
      exact .pure rfl
    · obtain rfl := h.pure
      exact .pure rfl
  · obtain rfl := h.pure
    exact .pure rfl

/-- Totals that are yielded once are answered again, whatever the data beside them. -/
theorem answers_addTotals (hrunner : e.runner = .ofCollection ⟨docs⟩)
    {kept : SummaryBudget → Prop} {r r' : Response}
    (h : Step.Yields (e.addTotals o r) r') (data : ResponseData) :
    Step.Answers kept (e.addTotals o { r with data := data })
      (· = { r' with data := data }) := by
  unfold Engine.addTotals at h ⊢
  split_ifs at h ⊢
  · obtain rfl := h.pure
    exact .pure rfl
  rw [hrunner] at h ⊢
  obtain ⟨n, hn, h⟩ := h.bind
  obtain ⟨chosen, hchosen, rfl⟩ := hn.count
  refine (Step.Answers.count hchosen).bind ?_
  rintro _ rfl
  simp only at h ⊢
  split_ifs at h ⊢
  · obtain ⟨values, hvalues, h⟩ := h.bind
    obtain ⟨out, hout, rfl⟩ := hvalues.summaryOf
    obtain rfl := h.pure
    refine (Step.Answers.summarize hout).bind ?_
    rintro _ rfl
    exact .pure rfl
  · obtain rfl := h.pure
    exact .pure rfl

end Levels

/-- Reading collapsed groups and counting them agree.

    Both engines run on one collection and differ only in whether they read collapsed groups, and no
    summary of a group is refused. If the request succeeds when they are read, it succeeds when they
    are counted, from any session; and the response is the same but for the items of the collapsed
    groups, on every level but the last. -/
theorem collapsed_counts_agree {e : Engine} {o : LoadOptions} {docs : List Json}
    (hrunner : e.runner = .ofCollection ⟨docs⟩) (hgroup : o.group ≠ [])
    (hunlimited : o.groupSummary = [] ∨ e.config.summaryQueryLimit = 0) {s s' : Session}
    {r : Response} (h : (e.materializing true).query o s = (.ok r, s')) (t : Session) :
    ∃ groups t', r.data = .groups groups ∧ (e.materializing false).query o t =
      (.ok { r with data := .groups (groups.map (Group.collapse o.group)) }, t') := by
  have hsteps := Engine.steps_yields _ o h
  rw [Engine.steps_grouped _ o hgroup] at hsteps
  obtain ⟨groups, counted, hgroups, hcounted, htotals⟩ := Engine.queryGrouped_yields hsteps
  rw [Engine.addGroupCount_materializing] at hcounted
  rw [Engine.addTotals_materializing] at htotals
  have hdata : r.data = .groups groups := Engine.data_of_totals hcounted htotals
  have hsome : o.groupSummary ≠ [] → ∀ group ∈ Group.visit groups,
      ∃ values, group.summary = some values := fun hsummary =>
    summary_of_no_limit (e := e.materializing true) hgroup hsummary
      (hunlimited.resolve_left hsummary) h hdata
  have hanswers : Step.Answers (Unlimited o) ((e.materializing false).answerGroups o)
      (· = { r with data := .groups (groups.map (Group.collapse o.group)) }) := by
    refine (answers_queryGroups hrunner hgroup Pipeline.looksAtOne_nil hsome hgroups).bind ?_
    rintro _ rfl
    rw [Engine.addGroupCount_materializing, Engine.addTotals_materializing]
    refine (answers_addGroupCount hrunner hcounted _).bind ?_
    rintro _ rfl
    exact answers_addTotals hrunner htotals _
  have hbudget : Unlimited o { limit := (e.materializing false).config.summaryLimit } :=
    hunlimited.imp_right fun hlimit => if_pos hlimit
  obtain ⟨_, t', hquery, rfl⟩ := Engine.query_of_answers hgroup hbudget hanswers t
  exact ⟨groups, t', hdata, hquery⟩

theorem collapsed_counts_of_twoLevels :
    ((overTwoDocuments.materializing false).query twoLevels {}).1 =
      .ok { data := .groups [.mk (.ofUInt64 7) 1 .absent none] } := by
  have hsteps : Step.Succeeds ((overTwoDocuments.materializing true).steps twoLevels) _ :=
    queryGrouped_twoLevels
  obtain ⟨s', hread⟩ := Engine.query_of_succeeds _ twoLevels hsteps {}
  obtain ⟨groups, t', hgroups, hcounted⟩ :=
    collapsed_counts_agree (e := overTwoDocuments) rfl (by decide) (Or.inl rfl) hread {}
  cases hgroups
  rw [hcounted]
  rfl

end GridQuery
