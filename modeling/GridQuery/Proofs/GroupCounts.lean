import Mathlib
import GridQuery.Proofs.BudgetedGroups
import GridQuery.Proofs.GroupedRows
import GridQuery.Proofs.Totals

/-!
# Group counts add up

The groups of the last level count the documents of their keys, the total count those that the
filter keeps, and a count among group summaries those that a group is narrowed to. All of them count
the same documents.

Results:
* `conserves_queryGroups`: the counts below the groups of a scope add up to its documents, and so do
  their summaries.
* `group_counts_conserved`: the counts of the deepest groups add up to the total count.
-/

namespace GridQuery

open Collection (aggregate_eq_ok aggregate_of_reads runStages runStages_append_eq_ok)
open Binary64 (greatestExact)

/-- Where a count was asked for, the summary of a group is the count of its deepest groups. -/
def Tallies (o : LoadOptions) (group : Group) : Prop :=
  ∀ values, group.summary = some values →
    ∀ i : Nat, (yieldedKinds o.groupSummary)[i]? = some .count →
      values[i]? = some (.ofUInt64 (UInt64.ofNat group.countBelow))

section Levels

variable {e : Engine} {o : LoadOptions} {docs kept sorted : List Json}

/-- A count among the values of a summary is that of the documents in its scope. -/
theorem count_of_summarize (hrunner : e.runner = .ofCollection ⟨docs⟩)
    (hprepares : Prepares e o docs kept sorted) {level : Nat} {scope : Pipeline}
    {inside : List Json} (hscope : Narrows docs sorted level scope inside) (hinside : inside ≠ [])
    {values : List Json}
    (h : Step.Yields (Step.summarize e.runner o.groupSummary
      (e.filterStages o ++ scope ++ Pipeline.summaryStages o.groupSummary)) values) {i : Nat}
    (hi : (yieldedKinds o.groupSummary)[i]? = some .count) :
    values[i]? = some (.ofUInt64 (documentCount inside.length)) := by
  rw [hrunner] at h
  obtain ⟨chosen, stages, out, hchosen, hreads, hrun, rfl⟩ := h.summarize
  obtain ⟨filters, hfilters, hkept⟩ := hprepares.filters
  obtain ⟨scopeStages, hscopeReads, hlooks, hrunScope⟩ := hscope.run
  obtain ⟨inside', hinside', hperm⟩ :=
    (isLocal_runStages hlooks).perm hprepares.perm.symm hrunScope
  rw [aggregate_of_reads (hfilters.append hscopeReads)] at hchosen
  obtain rfl := Except.ok.inj
    (hchosen.symm.trans (runStages_append_eq_ok.mpr ⟨kept, hkept, hinside'⟩))
  rw [hperm.length_eq]
  refine count_of_summaryValues hreads (fun hnil => hinside ?_) hrun hi
  rw [hnil] at hperm
  exact hperm.eq_nil

end Levels

/-- The counts below groups add up to so many documents, and so do those of their summaries. -/
structure Conserves (o : LoadOptions) (groups : List Group) (n : Nat) : Prop where
  count : Group.countIn groups = n
  tallies : ∀ group ∈ Group.visit groups, Tallies o group

/-- What fills a group counts so many documents. -/
structure Holds (o : LoadOptions) (group out : Group) (n : Nat) : Prop where
  key_eq : out.key = group.key
  bare : out.summary = none
  count : out.countBelow = n
  tallies : ∀ inner ∈ out.inside, Tallies o inner

/-- A group counts its documents once it has been filled, if the groups inside it do. -/
theorem holds_filled {e : Engine} {o : LoadOptions} {g : GroupLevel} {inner : List GroupLevel}
    {level n : Nat} {narrowed : Pipeline} {group out : Group} (hbare : group.summary = none)
    (hgroups : group.groups? = none) (hcount : inner = [] → group.count = documentCount n)
    (hexact : n ≤ greatestExact) (hopen : inner ≠ [] → e.opens g = true)
    (hinner : inner ≠ [] → ∀ sub,
      Step.Yields (e.queryGroups o inner (level + 1) [] narrowed) sub → Conserves o sub n)
    (h : e.Filled o g level narrowed group inner out) : Holds o group out n := by
  have hown : inner = [] → group.count.toNat = n := fun hlast => by
    rw [hcount hlast, toNat_documentCount hexact]
  cases h with
  | shown =>
    have hnone := (Group.groups?_mapRows (fun row => e.shownRow (Pipeline.stripKeys row))
      group).trans hgroups
    refine ⟨Group.key_mapRows _ _, (Group.summary_mapRows _ _).trans hbare, ?_, ?_⟩
    · rw [Group.countBelow_of_groups? hnone, Group.count_mapRows, hown rfl]
    · rw [Group.inside_of_groups? hnone]
      exact List.forall_mem_nil _
  | kept =>
    refine ⟨rfl, hbare, ?_, ?_⟩
    · rw [Group.countBelow_of_groups? hgroups, hown rfl]
    · rw [Group.inside_of_groups? hgroups]
      exact List.forall_mem_nil _
  | opened _ hsub =>
    obtain ⟨hsum, htallies⟩ := hinner (List.cons_ne_nil _ _) _ hsub
    exact ⟨rfl, hbare, hsum, htallies⟩
  | closed hclosed =>
    rw [hopen (List.cons_ne_nil _ _)] at hclosed
    cases hclosed

/-- The summary of a group that has been filled counts its documents. -/
theorem tallies_summarized {e : Engine} {o : LoadOptions} {docs kept sorted part : List Json}
    (hrunner : e.runner = .ofCollection ⟨docs⟩) (hprepares : Prepares e o docs kept sorted)
    {level : Nat} {narrowed : Json → Pipeline} {group full out : Group}
    (hscope : Narrows docs sorted level (narrowed group.key) part) (hpart : part ≠ [])
    (hexact : part.length ≤ greatestExact) (hholds : Holds o group full part.length)
    (h : Step.Yields (e.summarizeGroup o narrowed full) out) :
    out.countBelow = part.length ∧ (∀ inner ∈ out.inside, Tallies o inner) ∧ Tallies o out := by
  obtain ⟨hitems, hcount, hsummary⟩ := Engine.summarizeGroup_yields h
  have hbelow : out.countBelow = part.length := by
    rw [Group.countBelow_congr hitems hcount, hholds.count]
  refine ⟨hbelow, ?_, fun values hvalues i hi => ?_⟩
  · rw [Group.inside_eq, hitems, ← Group.inside_eq]
    exact hholds.tallies
  · rcases hsummary with hsame | ⟨_, hsome, hsummarize⟩
    · rw [hsame, hholds.bare] at hvalues
      cases hvalues
    · obtain rfl := Option.some.inj (hsome.symm.trans hvalues)
      rw [hholds.key_eq] at hsummarize
      rw [count_of_summarize hrunner hprepares hscope hpart hsummarize hi, hbelow, documentCount,
        Nat.min_eq_left hexact]

/-- Groups that hold the documents of their keys conserve those of the scope. -/
theorem conserves_of_keys {o : LoadOptions} {found groups : List Group} {parts : Json → List Json}
    {n : Nat}
    (h : List.Forall₂ (fun group out => out.countBelow = (parts group.key).length ∧
      (∀ inner ∈ out.inside, Tallies o inner) ∧ Tallies o out) found groups)
    (hsum : (found.map fun group => (parts group.key).length).sum = n) :
    Conserves o groups n where
  count := by
    rw [Group.countIn_eq_sum, ← hsum]
    exact congrArg List.sum (map_eq_of_forall₂ (h.imp fun _ _ hout => hout.1))
  tallies group hgroup := by
    rcases List.mem_append.mp hgroup with hinside | hlevel
    · rw [Group.insideEach_eq] at hinside
      obtain ⟨out, hout, hinner⟩ := List.mem_flatMap.mp hinside
      obtain ⟨_, -, -, htallies, -⟩ := exists_of_mem_right h hout
      exact htallies group hinner
    · obtain ⟨_, -, -, -, htallies⟩ := exists_of_mem_right h hlevel
      exact htallies

/-- Every level is read down to the last one. -/
def ReadsGroups (config : Config) (levels : List GroupLevel) : Prop :=
  ∀ g ∈ levels.dropLast, (config.materializeCollapsedGroups || g.isExpanded) = true

theorem ReadsGroups.opens {e : Engine} {g : GroupLevel} {inner : List GroupLevel}
    (h : ReadsGroups e.config (g :: inner)) (hinner : inner ≠ []) : e.opens g = true := by
  cases inner with
  | nil => exact absurd rfl hinner
  | cons next rest => exact h g List.mem_cons_self

theorem ReadsGroups.inner {config : Config} {g : GroupLevel} {inner : List GroupLevel}
    (h : ReadsGroups config (g :: inner)) : ReadsGroups config inner := by
  cases inner with
  | nil => exact fun _ hg => absurd hg List.not_mem_nil
  | cons next rest => exact fun g' hg' => h g' (List.mem_cons_of_mem _ hg')

/-- The groups of a scope conserve its documents, as long as counting is exact. -/
theorem conserves_queryGroups {e : Engine} {o : LoadOptions} {docs kept sorted : List Json}
    (hrunner : e.runner = .ofCollection ⟨docs⟩) (hdocs : ∀ doc ∈ docs, IsPlain doc)
    (hprepares : Prepares e o docs kept sorted) {levels : List GroupLevel} (hlevels : levels ≠ [])
    (hreads : ReadsGroups e.config levels) (hfits : ∀ g ∈ levels, g.Fits docs) {level : Nat}
    {scope : Pipeline} {inside : List Json} (hscope : Narrows docs sorted level scope inside)
    (hexact : inside.length ≤ greatestExact) {groups : List Group}
    (h : Step.Yields (e.queryGroups o levels level [] scope) groups) :
    Conserves o groups inside.length := by
  induction levels generalizing level scope inside groups with
  | nil => exact absurd rfl hlevels
  | cons g inner ih =>
    obtain ⟨found, filled, hfound, hfilled, hsummarized⟩ := Engine.queryGroups_yields h
    obtain ⟨parts, hshares, hcounts⟩ := sharesOut_level (fun _ => Json.null) hrunner hdocs
      hprepares (fun _ _ _ => rfl) (hfits g List.mem_cons_self) hscope hfound
    have hpartExact : ∀ key ∈ found.map Group.key, (parts key).length ≤ greatestExact := by
      intro key hkey
      have hle := (hshares.sublist key hkey).length_le
      rw [List.length_map, List.length_map] at hle
      exact hle.trans hexact
    -- Each group is narrowed to the documents of its key, and holds them once it is filled.
    have hholds := forall₂_imp_of_mem hfilled fun group hgroup full hfill => by
      have hkey := List.mem_map_of_mem (f := Group.key) hgroup
      obtain ⟨hbare, hgroups⟩ := Engine.fetchGroups_bare hfound group hgroup
      exact And.intro hkey (holds_filled hbare hgroups
        (fun hlast => hcounts (List.isEmpty_iff.mpr hlast) group hgroup) (hpartExact _ hkey)
        hreads.opens (fun hinner _ hsub => ih hinner hreads.inner
          (fun g' hg' => hfits g' (List.mem_cons_of_mem _ hg')) (hscope.append hshares hkey)
          (hpartExact _ hkey) hsub) (Engine.fillGroup_yields hfill))
    have hsum : (found.map fun group => (parts group.key).length).sum = inside.length := by
      have hlength := hshares.perm.length_eq
      simpa [List.length_flatMap, Function.comp_def] using hlength
    refine conserves_of_keys (forall₂_trans ?_ hholds hsummarized) hsum
    rintro group full out ⟨hkey, hfull⟩ hout
    exact tallies_summarized hrunner hprepares (hscope.append hshares hkey)
      (hshares.inhabited _ hkey) (hpartExact _ hkey) hfull hout

/-! ## The whole request -/

/-- The total count is that of the documents that the filter keeps. -/
theorem totalCount_of_addTotals {e : Engine} {o : LoadOptions} {docs : List Json}
    (hrunner : e.runner = .ofCollection ⟨docs⟩) (hrequired : o.requireTotalCount = true)
    {r r' : Response} (h : Step.Yields (e.addTotals o r) r') :
    ∃ kept, (Collection.mk docs).aggregate (e.filterStages o) = .ok kept ∧
      r'.totalCount = some (UInt64.ofNat kept.length) := by
  have htotals : o.totalsRequired = true := by rw [LoadOptions.totalsRequired, hrequired]; rfl
  rw [Engine.addTotals, if_neg (by simp [htotals]), hrunner] at h
  obtain ⟨total, htotal, h⟩ := h.bind
  obtain ⟨kept, hkept, rfl⟩ := htotal.count
  refine ⟨kept, hkept, ?_⟩
  simp only at h
  split_ifs at h
  · obtain ⟨values, -, h⟩ := h.bind
    rw [h.pure]
  · rw [h.pure]

/-- The documents that the filter keeps, sorted or not. -/
theorem exists_prepares {e : Engine} {o : LoadOptions} {docs kept : List Json}
    (hdocs : ∀ doc ∈ docs, IsPlain doc)
    (hkept : (Collection.mk docs).aggregate (e.filterStages o) = .ok kept) :
    ∃ sorted, Prepares e o docs kept sorted := by
  obtain ⟨filters, hfilters, hrun⟩ := aggregate_eq_ok.mp hkept
  obtain ⟨sorts, hsorts⟩ := exists_reads_sortStages o.sort
  obtain ⟨arrange, harrange⟩ := arranges_sortStages hsorts
  exact ⟨arrange kept, prepares_of_run hdocs hfilters hrun hsorts (harrange.run kept)⟩

/-- The counts of a grouped request are conserved.

    The documents have no reserved names, the levels fit them and are read down to the last one,
    nothing is skipped, and there are not too many documents to be counted exactly. Then the counts
    of the deepest groups add up to the total count; and if the budget is without a ceiling, a count
    among the summaries of a group is what the deepest groups inside it count, or the group itself
    if it is one of them. -/
theorem group_counts_conserved {e : Engine} {o : LoadOptions} {docs : List Json}
    (hrunner : e.runner = .ofCollection ⟨docs⟩) (hdocs : ∀ doc ∈ docs, IsPlain doc)
    (hexact : docs.length < 2 ^ 53) (hgroup : o.group ≠ []) (hskip : o.skip = 0)
    (htake : o.take = 0) (hrequired : o.requireTotalCount = true)
    (hreads : ReadsGroups e.config o.group) (hfits : ∀ g ∈ o.group, g.Fits docs)
    {s s' : Session} {r : Response} (h : e.query o s = (.ok r, s')) :
    ∃ groups total, r.data = .groups groups ∧ r.totalCount = some total ∧
      Group.countIn groups = total.toNat ∧
      (e.config.summaryQueryLimit = 0 → ∀ group ∈ Group.visit groups, ∀ i : Nat,
        (yieldedKinds o.groupSummary)[i]? = some .count → ∃ values,
          group.summary = some values ∧
            values[i]? = some (.ofUInt64 (UInt64.ofNat group.countBelow))) := by
  have hsteps := Engine.steps_yields e o h
  rw [Engine.steps_grouped e o hgroup] at hsteps
  obtain ⟨groups, counted, hgroups, hcounted, htotals⟩ := Engine.queryGrouped_yields hsteps
  obtain ⟨kept, hkept, htotal⟩ := totalCount_of_addTotals hrunner hrequired htotals
  obtain ⟨sorted, hprepares⟩ := exists_prepares hdocs hkept
  have hlength : sorted.length = kept.length := hprepares.perm.length_eq.symm
  have hle : kept.length ≤ docs.length := hprepares.sublist.length_le
  have hbound : sorted.length ≤ greatestExact := by
    have : greatestExact = 2 ^ 53 := rfl
    omega
  rw [hskip, htake, pagingStages_none] at hgroups
  have hconserves := conserves_queryGroups hrunner hdocs hprepares hgroup hreads hfits
    hprepares.narrows hbound hgroups
  have hdata : r.data = .groups groups := Engine.data_of_totals hcounted htotals
  refine ⟨groups, _, hdata, htotal, ?_, fun hlimit group hmem i hi => ?_⟩
  · rw [hconserves.count, hlength, toNat_ofNat_exact (hlength ▸ hbound)]
  · have hsummary : o.groupSummary ≠ [] := by
      rintro hnil
      simp [hnil, yieldedKinds] at hi
    obtain ⟨values, hvalues⟩ := summary_of_no_limit hgroup hsummary hlimit h hdata group hmem
    exact ⟨values, hvalues, hconserves.tallies group hmem values hvalues i hi⟩

/-- The two levels over the two documents, with the total count. -/
def countedLevels : LoadOptions := { twoLevels with requireTotalCount := true }

theorem queryGrouped_countedLevels :
    Step.Succeeds (overTwoDocuments.queryGrouped countedLevels)
      { data := .groups [.mk (.ofUInt64 7) 1 (.groups [bucketOfTwo]) none],
        totalCount := some 2 } := by
  have hgroups : Step.Succeeds (overTwoDocuments.queryGroups countedLevels countedLevels.group 0
      [] []) [.mk (.ofUInt64 7) 1 (.groups [bucketOfTwo]) none] := queryGroups_twoLevels
  have hall : (Collection.mk twoDocuments).aggregate [] = .ok twoDocuments := rfl
  exact Engine.queryGrouped_succeeds hgroups (.pure _) ((Step.Succeeds.count hall).bind (.pure _))

theorem group_counts_of_twoLevels :
    ∃ (groups : List Group) (total : UInt64),
      (overTwoDocuments.query countedLevels {}).1 =
        .ok { data := .groups groups, totalCount := some total } ∧
      total = 2 ∧ Group.countIn groups = total.toNat := by
  have hsteps : Step.Succeeds (overTwoDocuments.steps countedLevels) _ :=
    queryGrouped_countedLevels
  obtain ⟨s', hquery⟩ := Engine.query_of_succeeds overTwoDocuments countedLevels hsteps {}
  have hplain : ∀ doc ∈ twoDocuments, IsPlain doc := by decide
  have hreads : ReadsGroups overTwoDocuments.config countedLevels.group := by
    simp [ReadsGroups, countedLevels, twoLevels, overTwoDocuments]
  obtain ⟨groups, total, hgroups, htotal, hcount, -⟩ := group_counts_conserved rfl hplain
    (by decide) (by decide) rfl rfl rfl hreads fits_twoLevels hquery
  cases hgroups
  cases htotal
  exact ⟨_, 2, by rw [hquery], rfl, hcount⟩

end GridQuery
