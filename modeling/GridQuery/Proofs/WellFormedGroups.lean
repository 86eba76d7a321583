import Mathlib
import GridQuery.Proofs.BadAnswers
import GridQuery.Proofs.Collapsing
import GridQuery.Proofs.Succeeding

/-!
# The shape of groups

Over a collection, the documents that the grouping stages answer are those of groups: they have keys,
and their counts are natural numbers. What a group then holds shows its level, and a group counts
what it holds. Counts go through doubles, and so there may be no more documents than these count
exactly.

Results:
* `Collection.length_aggregate_le`: a pipeline answers no more documents than there are.
* `Question.faultIn_of_aggregate`: a collection answers what is asked.
* `Group.IsWellFormed`: what a group holds, by its level.
* `Engine.groups_wellFormed`: every group of a response is well formed.
-/

namespace GridQuery

open Binary64 (greatestExact)
open Collection (aggregate_eq_ok runStages runStages_append_eq_ok runStages_one)
open Pipeline (keyField)

/-! ## How many documents there are -/

theorem length_firstAppearances_le (l : List String) :
    (firstAppearances l).length ≤ l.length := by
  have hsub : firstAppearances l ⊆ l := fun _ hx => mem_firstAppearances.mp hx
  exact (List.subperm_of_subset (nodup_firstAppearances l) hsub).length_le

/-- No stage makes two documents of one. -/
theorem Stage.length_run_le {stage : Stage} {docs out : List Json} (h : stage.run docs = .ok out) :
    out.length ≤ docs.length := by
  cases stage with
  | keepMatching predicate => exact (matching_sublist (mapError_eq_ok.mp h)).length_le
  | addFields fields | project fields =>
    exact (mapM_eq_ok.mp (mapError_eq_ok.mp h)).length_eq.ge
  | group key accumulators =>
    obtain ⟨keyed, hkeyed, hgrouped⟩ := bind_eq_ok.mp (mapError_eq_ok.mp h)
    have htexts := (mapM_eq_ok.mp hgrouped).length_eq
    have hdocs := (mapM_eq_ok.mp hkeyed).length_eq
    have hfirst := length_firstAppearances_le (keyed.map fun pair => pair.1.keyText)
    rw [List.length_map] at hfirst
    omega
  | sort fields =>
    obtain rfl := Except.ok.inj h
    exact (List.length_mergeSort _).le
  | skip n =>
    obtain rfl := Except.ok.inj h
    exact (List.drop_sublist _ _).length_le
  | limit n =>
    obtain rfl := Except.ok.inj h
    exact (List.take_sublist _ _).length_le
  | count field =>
    obtain rfl := Except.ok.inj h
    cases docs with
    | nil => exact le_rfl
    | cons doc docs =>
      show 1 ≤ docs.length + 1
      omega

namespace Collection

theorem length_runStages_le {stages : List Stage} {docs out : List Json}
    (h : runStages stages docs = .ok out) : out.length ≤ docs.length := by
  induction stages generalizing docs with
  | nil =>
    obtain rfl := Except.ok.inj h
    exact le_rfl
  | cons stage stages ih =>
    obtain ⟨mid, hmid, hout⟩ := (runStages_append_eq_ok (a := [stage])).mp h
    rw [runStages_one] at hmid
    exact (ih hout).trans (Stage.length_run_le hmid)

/-- A pipeline answers no more documents than there are. -/
theorem length_aggregate_le {c : Collection} {p : Pipeline} {out : List Json}
    (h : c.aggregate p = .ok out) : out.length ≤ c.documents.length := by
  obtain ⟨stages, -, hrun⟩ := aggregate_eq_ok.mp h
  exact length_runStages_le hrun

end Collection

/-! ## What a collection answers -/

section Answers

variable {e : Engine} {o : LoadOptions} {docs out : List Json} {g : GroupLevel} {level : Nat}
  {last : Bool} {skip take : UInt64} {scope : Pipeline}

/-- A collection answers a question with the documents that it asks for. -/
theorem Question.faultIn_of_aggregate {q : Question}
    (h : (Collection.mk docs).aggregate (q.pipeline e o) = .ok out) : q.faultIn out = none := by
  -- A count is read of whatever has been chosen.
  have hcounted : ∀ p, (Collection.mk docs).aggregate (p ++ Pipeline.countStages) = .ok out →
      faultOf (Step.countOf out) = none := by
    intro p hp
    obtain ⟨chosen, -, hrun⟩ := aggregate_countStages.mp hp
    obtain ⟨counted, hcount, hread⟩ := countOf_count chosen
    obtain rfl := Except.ok.inj (hrun.symm.trans hcount)
    exact faultOf_eq_none.mpr ⟨_, hread⟩
  cases q with
  | rows | groupSummary path | totalSummary => rfl
  | groups path g last =>
    rw [pipeline_groups] at h
    obtain ⟨skip, take, hpage⟩ := (groups path g last).page_eq_pagingStages (o := o)
    rw [hpage] at h
    obtain ⟨_, _, _, _, -, -, -, -, -, hgroups⟩ := level_of_aggregate h
    refine faultOf_eq_none.mpr (exists_mapM_eq_ok fun doc hdoc => ?_)
    obtain ⟨key, -, hgroup⟩ := hgroups doc hdoc
    obtain ⟨group, hread, -⟩ := hgroup.exists_group
    exact ⟨group, hread⟩
  | innerCount path next => exact hcounted _ (pipeline_innerCount path next ▸ h)
  | groupCount first => exact hcounted _ (pipeline_groupCount first ▸ h)
  | totalCount => exact hcounted _ (pipeline_totalCount (e := e) (o := o) ▸ h)

/-- An exchange with a collection does not end a request for what has been answered. -/
theorem Exchange.failure?_ne_invalidResult (hrunner : e.runner = .ofCollection ⟨docs⟩)
    {earlier : List Pipeline} {history : List Exchange} {x : Exchange}
    (hx : x.Follows e o earlier history) (fault : ResultFault) :
    x.failure? ≠ some (.error (.invalidResult fault)) := by
  intro h
  have hanswer := hx.answer_ofCollection hrunner
  unfold Exchange.failure? at h
  split at h
  · next failure hfailure =>
    obtain rfl := Option.some.inj h
    rw [hanswer] at hfailure
    obtain ⟨problem, -, hproblem⟩ := mapError_eq_error.mp hfailure
    cases problem <;> cases hproblem
  · next out hout =>
    rw [hanswer] at hout
    have hfine : x.question.faultIn out = none :=
      Question.faultIn_of_aggregate (mapError_eq_ok.mp hout)
    rw [hfine] at h
    cases h

end Answers

/-! ## Well-formed groups -/

namespace Group

/-- A group of the first of some levels holds what it should. Rows are held by the groups of the last
    level, and groups by those of the others. Only a collapsed group may hold nothing: one of the
    last level, or any where the groups inside collapsed ones are not read. -/
def IsWellFormed (config : Config) : List GroupLevel → Group → Prop
  | [], _ => False
  | g :: inner, group =>
    match group.items with
    | .rows rows => inner = [] ∧ rows ≠ [] ∧ group.count.toNat = rows.length
    | .groups groups =>
      inner ≠ [] ∧ group.count.toNat = groups.length ∧
        ∀ child ∈ groups, IsWellFormed config inner child
    | .absent => g.isExpanded = false ∧ (inner = [] ∨ config.materializeCollapsedGroups = false)

/-- The form of a group lies in its items and its count. -/
theorem IsWellFormed.congr {config : Config} {levels : List GroupLevel} {a b : Group}
    (h : a.IsWellFormed config levels) (hitems : b.items = a.items) (hcount : b.count = a.count) :
    b.IsWellFormed config levels := by
  cases levels with
  | nil => exact h
  | cons g inner =>
    unfold IsWellFormed at h ⊢
    rw [hitems, hcount]
    exact h

end Group

section Levels

variable {e : Engine} {o : LoadOptions} {docs : List Json} {g : GroupLevel} {level : Nat}
  {skip take : UInt64} {scope : Pipeline} {found : List Group}

/-- What is fetched for a group of the last level: its rows if it is expanded, and how many they
    are. -/
theorem fetched_last (hrunner : e.runner = .ofCollection ⟨docs⟩)
    (hdocs : docs.length ≤ greatestExact) (hexpanded : g.isExpanded = true)
    (hfound : Step.Yields (e.fetchGroups level
      (e.levelPipeline o g level true (Pipeline.pagingStages skip take) scope)) found) :
    ∀ group ∈ found, ∃ rows, rows ≠ [] ∧ group.items = .rows rows ∧
      group.count.toNat = rows.length := by
  intro group hmem
  obtain ⟨out, hout, hread⟩ := Engine.fetchGroups_yields hrunner hfound
  obtain ⟨inside, keyStages, computed, items, hinside, -, hcomputed, hsome, -, hgroups⟩ :=
    level_of_aggregate hout
  have hlength : computed.length ≤ docs.length :=
    (Collection.length_runStages_le hcomputed).trans (Collection.length_aggregate_le hinside)
  obtain ⟨doc, hdoc, hof⟩ := exists_of_mem_right (mapM_eq_ok.mp hread) hmem
  obtain ⟨key, hne, hgroup⟩ := hgroups doc hdoc
  obtain ⟨pushed, rfl⟩ : ∃ pushed, items = some pushed := by
    rw [← Option.isSome_iff_exists, hsome, hexpanded]
    rfl
  obtain ⟨-, hcount, hitems⟩ := Group.ofJson_eq_ok hof hgroup
  obtain ⟨rows, hrows, heq⟩ := hitems pushed rfl
  have hrowsLength := (mapM_eq_ok.mp hrows).length_eq
  refine ⟨rows, ?_, heq, ?_⟩
  · rintro rfl
    exact hne (List.eq_nil_of_length_eq_zero hrowsLength)
  · have hmembers : (docsOf (keyField level) computed key).length ≤ greatestExact :=
      (List.length_filter_le _ _).trans (hlength.trans hdocs)
    rw [hcount rfl, toNat_documentCount hmembers, hrowsLength]

/-- No level has more groups than there are documents. -/
theorem length_fetched_le (hrunner : e.runner = .ofCollection ⟨docs⟩) {p : Pipeline}
    (hfound : Step.Yields (e.fetchGroups level p) found) : found.length ≤ docs.length := by
  obtain ⟨out, hout, hread⟩ := Engine.fetchGroups_yields hrunner hfound
  rw [← (mapM_eq_ok.mp hread).length_eq]
  exact Collection.length_aggregate_le hout

/-- A group of a level is well formed once it has been filled, if the groups inside it are. -/
theorem isWellFormed_filled (hrunner : e.runner = .ofCollection ⟨docs⟩)
    (hdocs : docs.length ≤ greatestExact) {inner : List GroupLevel}
    (hfound : Step.Yields (e.fetchGroups level
      (e.levelPipeline o g level inner.isEmpty (Pipeline.pagingStages skip take) scope)) found)
    {group full : Group} (hgroup : group ∈ found) {narrowed : Pipeline}
    (hinner : ∀ sub, Step.Yields (e.queryGroups o inner (level + 1) [] narrowed) sub →
      sub.length ≤ docs.length ∧ ∀ child ∈ sub, child.IsWellFormed e.config inner)
    (h : e.Filled o g level narrowed group inner full) :
    full.IsWellFormed e.config (g :: inner) := by
  cases h with
  | shown hexpanded =>
    obtain ⟨rows, hne, hrows, hnumber⟩ := fetched_last hrunner hdocs hexpanded hfound group hgroup
    rw [Group.mapRows, hrows]
    show [] = [] ∧ rows.map _ ≠ [] ∧ group.count.toNat = (rows.map _).length
    rw [List.length_map]
    exact ⟨rfl, fun hnil => hne (List.map_eq_nil_iff.mp hnil), hnumber⟩
  | kept hcollapsed =>
    have hclosed : (true && g.isExpanded) = false := by rw [hcollapsed, Bool.true_and]
    rw [Group.IsWellFormed, items_of_fetched hrunner hclosed hfound group hgroup]
    exact ⟨hcollapsed, Or.inl rfl⟩
  | @opened next rest sub _ hsub =>
    obtain ⟨hfew, hinside⟩ := hinner sub hsub
    show _ ∧ (UInt64.ofNat sub.length).toNat = sub.length ∧ _
    exact ⟨List.cons_ne_nil next rest, toNat_ofNat_exact (hfew.trans hdocs), hinside⟩
  | @closed _ _ n hclosed =>
    obtain ⟨hmaterializes, hexpanded⟩ := Bool.or_eq_false_iff.mp hclosed
    have habsent := items_of_fetched hrunner (Bool.false_and _) hfound group hgroup
    rw [Group.IsWellFormed, show (group.withCount n).items = .absent from habsent]
    exact ⟨hexpanded, Or.inr hmaterializes⟩

/-- The groups of a scope are well formed, and they are not more than there are documents. -/
theorem isWellFormed_queryGroups (hrunner : e.runner = .ofCollection ⟨docs⟩)
    (hdocs : docs.length ≤ greatestExact) {levels : List GroupLevel} {groups : List Group}
    (h : Step.Yields (e.queryGroups o levels level (Pipeline.pagingStages skip take) scope)
      groups) :
    groups.length ≤ docs.length ∧ ∀ group ∈ groups, group.IsWellFormed e.config levels := by
  induction levels generalizing level skip take scope groups with
  | nil => exact absurd h Engine.not_yields_nil
  | cons g inner ih =>
    obtain ⟨found, filled, hfound, hfilled, hsummarized⟩ := Engine.queryGroups_yields h
    constructor
    · rw [← hsummarized.length_eq, ← hfilled.length_eq]
      exact length_fetched_le hrunner hfound
    · intro group hgroup
      obtain ⟨fetched, hfetched, full, hfill, hitems, hcount⟩ :=
        Engine.mem_queryGroups hfilled hsummarized hgroup
      refine (isWellFormed_filled hrunner hdocs hfound hfetched (fun sub hsub => ?_) hfill).congr
        hitems hcount
      rw [← pagingStages_none] at hsub
      exact ih hsub

end Levels

/-! ## Requests -/

/-- A collection of no more documents than doubles count exactly never answers a grouped request
    with something that is not valid, and each group of a response is well formed. -/
theorem Engine.groups_wellFormed {e : Engine} {o : LoadOptions} {docs : List Json}
    (hrunner : e.runner = .ofCollection ⟨docs⟩) (hdocs : docs.length ≤ 2 ^ 53)
    (hgroup : o.group ≠ []) (s : Session) :
    (∀ problem, ((e.queryGrouped o).outcome s).1 = .error (.error problem) →
        problem.code ≠ "GRID_INVALID_RESULT") ∧
      ∀ r, ((e.queryGrouped o).outcome s).1 = .ok r →
        ∃ groups, r.data = .groups groups ∧
          ∀ group ∈ groups, group.IsWellFormed e.config o.group := by
  constructor
  · intro problem hfails hcode
    obtain ⟨fault, rfl⟩ : ∃ fault, problem = .invalidResult fault := by
      cases problem with
      | invalidResult fault => exact ⟨fault, rfl⟩
      | _ => simp [QueryError.code] at hcode
    have hopen : s.pipelines = s.pipelines ++ ([] : List Exchange).map (·.pipeline e o) :=
      (List.append_nil _).symm
    obtain ⟨trace, -, hfollows, hconcludes, -⟩ := asks_steps s [] hopen rfl
    rw [e.steps_grouped o hgroup, hfails] at hconcludes
    obtain ⟨before, last, rfl, -, hlast⟩ := hconcludes
    exact Exchange.failure?_ne_invalidResult hrunner (hfollows.split rfl) fault hlast
  · intro r hr
    obtain ⟨groups, counted, hgroups, hcounted, htotals⟩ :=
      Engine.queryGrouped_yields (e := e) (o := o) ⟨s, _, Prod.ext hr rfl⟩
    exact ⟨groups, Engine.data_of_totals hcounted htotals,
      (isWellFormed_queryGroups hrunner hdocs hgroups).2⟩

/-- Two levels over two documents: a group with the only group inside it, which has two rows. -/
theorem Engine.groups_wellFormed_twoLevels :
    ∃ r, ((overTwoDocuments.queryGrouped twoLevels).outcome {}).1 = .ok r ∧
      ∃ groups, r.data = .groups groups ∧
        ∀ group ∈ groups, group.IsWellFormed overTwoDocuments.config twoLevels.group := by
  obtain ⟨s', hgrouped⟩ := queryGrouped_twoLevels {}
  have hform := Engine.groups_wellFormed (e := overTwoDocuments) (o := twoLevels) rfl (by decide)
    (by simp [twoLevels]) {}
  exact ⟨_, by rw [hgrouped], hform.2 _ (by rw [hgrouped])⟩

end GridQuery
