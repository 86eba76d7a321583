import Mathlib
import GridQuery.Proofs.FlatRows
import GridQuery.Proofs.GroupedRows

/-!
# Totals depend on search and filter only

The totals of a request come last, from pipelines of their own: one counts the documents that
search and filter keep, the other one summarizes them. Flat or grouped, sorted and paged in any way,
requests that search and filter alike have the same totals.

Results:
* `Engine.Totals`: the totals over a collection; `Engine.totals_of_query`: every request has them.
* `Engine.Totals.unique`: there are no others.
* `Engine.HasTotals`: what the totals tell about the documents that are kept.
* `Engine.totals_agree`: two requests that search and filter alike.
-/

namespace GridQuery

/-- The requests search and filter alike, and ask for the same totals. -/
structure LoadOptions.SameTotals (o o' : LoadOptions) : Prop where
  filter : o.filter = o'.filter
  searchFields : o.searchFields = o'.searchFields
  searchOperation : o.searchOperation = o'.searchOperation
  searchValue : o.searchValue = o'.searchValue
  totalSummary : o.totalSummary = o'.totalSummary
  requireTotalCount : o.requireTotalCount = o'.requireTotalCount

theorem LoadOptions.totalsRequired_iff {o : LoadOptions} :
    o.totalsRequired = true ↔ o.requireTotalCount = true ∨ o.totalSummary ≠ [] := by
  simp [totalsRequired]

namespace Engine

/-! ## The totals of a request -/

/-- The count and the summary in the response to a request over some documents. -/
inductive Totals (e : Engine) (o : LoadOptions) (docs : List Json) :
    Option UInt64 → Option (List Json) → Prop where
  | notRequired (h : o.totalsRequired = false) : Totals e o docs none none
  | counted {kept : List Json} (h : o.totalsRequired = true)
    (hkept : (Collection.mk docs).aggregate (e.filterStages o) = .ok kept)
    (hnone : ¬(0 < UInt64.ofNat kept.length ∧ o.totalSummary ≠ [])) :
    Totals e o docs (some (UInt64.ofNat kept.length)) none
  | summarized {kept out : List Json}
    (hkept : (Collection.mk docs).aggregate (e.filterStages o) = .ok kept)
    (hpos : 0 < UInt64.ofNat kept.length) (hsummary : o.totalSummary ≠ [])
    (hout : (Collection.mk docs).aggregate
      (e.filterStages o ++ Pipeline.summaryStages o.totalSummary) = .ok out) :
    Totals e o docs (some (UInt64.ofNat kept.length))
      (some (Pipeline.summaryValues o.totalSummary out.head?))

variable {e : Engine} {o o' : LoadOptions} {docs : List Json}

/-- Without totals so far, a response is given those of its request. -/
theorem totals_of_addTotals (hrunner : e.runner = .ofCollection ⟨docs⟩) {r r' : Response}
    (hcount : r.totalCount = none) (hsummary : r.summary = none)
    (h : Step.Yields (e.addTotals o r) r') : Totals e o docs r'.totalCount r'.summary := by
  unfold addTotals at h
  split_ifs at h with hrequired
  · obtain rfl := h.pure
    rw [hcount, hsummary]
    exact .notRequired (by simpa using hrequired)
  rw [hrunner] at h
  obtain ⟨total, htotal, h⟩ := h.bind
  obtain ⟨kept, hkept, rfl⟩ := htotal.count
  simp only at h
  split_ifs at h with hsummarized
  · obtain ⟨hpos, hne⟩ : 0 < UInt64.ofNat kept.length ∧ o.totalSummary ≠ [] := by
      simpa using hsummarized
    obtain ⟨values, hvalues, h⟩ := h.bind
    obtain ⟨out, hout, rfl⟩ := hvalues.summaryOf
    obtain rfl := h.pure
    exact .summarized hkept hpos hne hout
  · have hnone : ¬(0 < UInt64.ofNat kept.length ∧ o.totalSummary ≠ []) := by
      simpa using hsummarized
    obtain rfl := h.pure
    simp only [hsummary]
    exact .counted (by simpa using hrequired) hkept hnone

/-- A request that succeeds has its totals, whether it is flat or grouped. -/
theorem totals_of_query (hrunner : e.runner = .ofCollection ⟨docs⟩) {s s' : Session} {r : Response}
    (h : e.query o s = (.ok r, s')) : Totals e o docs r.totalCount r.summary := by
  have hsteps := steps_yields e o h
  unfold steps at hsteps
  split_ifs at hsteps
  · obtain ⟨groups, counted, -, hcounted, htotals⟩ := queryGrouped_yields hsteps
    have hbeside := addGroupCount_yields hcounted
    exact totals_of_addTotals hrunner (by rw [hbeside]) (by rw [hbeside]) htotals
  · obtain ⟨kept, rows, -, -, htotals⟩ := parts_of_queryRows hrunner hsteps
    exact totals_of_addTotals hrunner rfl rfl htotals

/-! ## Totals are determined -/

/-- A summary brings the count with it. -/
theorem Totals.required_of_some {n : UInt64} {values : Option (List Json)}
    (h : Totals e o docs (some n) values) : o.totalsRequired = true := by
  cases h with
  | counted h _ _ => exact h
  | summarized _ _ hsummary _ => exact LoadOptions.totalsRequired_iff.mpr (.inr hsummary)

/-- A collection answers the same each time, so a request has no other totals. -/
theorem Totals.unique {n n' : Option UInt64} {values values' : Option (List Json)}
    (h : Totals e o docs n values) (h' : Totals e o docs n' values') :
    n = n' ∧ values = values' := by
  cases h with
  | notRequired hnot =>
    cases h' with
    | notRequired _ => exact ⟨rfl, rfl⟩
    | counted hrequired _ _ => exact absurd hrequired (by simp [hnot])
    | summarized hkept hpos hne hout =>
      exact absurd (Totals.summarized hkept hpos hne hout).required_of_some (by simp [hnot])
  | counted hrequired hkept hnone =>
    cases h' with
    | notRequired hnot => exact absurd hrequired (by simp [hnot])
    | counted _ hkept' _ =>
      obtain rfl := Except.ok.inj (hkept.symm.trans hkept')
      exact ⟨rfl, rfl⟩
    | summarized hkept' hpos hne _ =>
      obtain rfl := Except.ok.inj (hkept.symm.trans hkept')
      exact absurd ⟨hpos, hne⟩ hnone
  | summarized hkept hpos hne hout =>
    cases h' with
    | notRequired hnot =>
      exact absurd (Totals.summarized hkept hpos hne hout).required_of_some (by simp [hnot])
    | counted _ hkept' hnone =>
      obtain rfl := Except.ok.inj (hkept.symm.trans hkept')
      exact absurd ⟨hpos, hne⟩ hnone
    | summarized hkept' _ _ hout' =>
      obtain rfl := Except.ok.inj (hkept.symm.trans hkept')
      obtain rfl := Except.ok.inj (hout.symm.trans hout')
      exact ⟨rfl, rfl⟩

/-- Nothing but search, filter and the totals that are asked for decides about the totals. -/
theorem Totals.congr (hsame : o.SameTotals o') {n : Option UInt64} {values : Option (List Json)}
    (h : Totals e o docs n values) : Totals e o' docs n values := by
  have hstages : e.filterStages o = e.filterStages o' := by
    simp only [filterStages, hsame.filter, hsame.searchFields, hsame.searchOperation,
      hsame.searchValue]
  have hrequired : o.totalsRequired = o'.totalsRequired := by
    simp only [LoadOptions.totalsRequired, hsame.requireTotalCount, hsame.totalSummary]
  have hsummary := hsame.totalSummary
  cases h with
  | notRequired h => exact .notRequired (hrequired ▸ h)
  | counted h hkept hnone =>
    exact .counted (hrequired ▸ h) (hstages ▸ hkept) (hsummary ▸ hnone)
  | summarized hkept hpos hne hout =>
    rw [hsummary]
    exact .summarized (hstages ▸ hkept) hpos (hsummary ▸ hne) (hstages ▸ hsummary ▸ hout)

/-! ## What totals tell -/

/-- What the count and the summary in a response tell about the documents that are kept. -/
structure HasTotals (e : Engine) (o : LoadOptions) (docs : List Json) (total : Option UInt64)
    (summary : Option (List Json)) : Prop where
  total_iff : total.isSome = true ↔ o.requireTotalCount = true ∨ o.totalSummary ≠ []
  summary_iff : summary.isSome = true ↔ o.totalSummary ≠ [] ∧ ∃ n, total = some n ∧ 0 < n
  /-- The count is that of the documents that search and filter keep. In the range of exact sums,
      the summary counts the same documents. -/
  counted : ∀ n, total = some n → ∃ kept,
    (Collection.mk docs).aggregate (e.filterStages o) = .ok kept ∧
      n = UInt64.ofNat kept.length ∧
      (kept.length ≤ Binary64.greatestExact → n.toNat = kept.length ∧
        ∀ values, summary = some values →
          ∀ i : Nat, (yieldedKinds o.totalSummary)[i]? = some .count →
            values[i]? = some (.ofUInt64 n))

/-- Where a count is summarized, it is that of the documents that are kept. -/
theorem count_of_totalSummary {kept out : List Json}
    (hkept : (Collection.mk docs).aggregate (e.filterStages o) = .ok kept) (hne : kept ≠ [])
    (hout : (Collection.mk docs).aggregate
      (e.filterStages o ++ Pipeline.summaryStages o.totalSummary) = .ok out)
    (hexact : kept.length ≤ Binary64.greatestExact) {i : Nat}
    (hi : (yieldedKinds o.totalSummary)[i]? = some .count) :
    (Pipeline.summaryValues o.totalSummary out.head?)[i]? =
      some (.ofUInt64 (UInt64.ofNat kept.length)) := by
  obtain ⟨chosen, stages, hchosen, hreads, hrun⟩ := aggregate_append_eq_ok.mp hout
  obtain rfl := Except.ok.inj (hkept.symm.trans hchosen)
  rw [count_of_summaryValues hreads hne hrun hi, documentCount, Nat.min_eq_left hexact]

theorem Totals.hasTotals {total : Option UInt64} {summary : Option (List Json)}
    (h : Totals e o docs total summary) : HasTotals e o docs total summary := by
  cases h with
  | notRequired hnot =>
    have hnone : ¬(o.requireTotalCount = true ∨ o.totalSummary ≠ []) := by
      rw [← LoadOptions.totalsRequired_iff, hnot]
      exact Bool.false_ne_true
    exact ⟨by simpa using hnone, by simp, fun n hn => by cases hn⟩
  | @counted kept hrequired hkept hnone =>
    refine ⟨by simpa using LoadOptions.totalsRequired_iff.mp hrequired, ?_, ?_⟩
    · simpa [and_comm] using hnone
    · rintro _ ⟨⟩
      exact ⟨kept, hkept, rfl, fun hexact => ⟨toNat_ofNat_exact hexact, fun values hvalues => by
        cases hvalues⟩⟩
  | @summarized kept out hkept hpos hsummary hout =>
    refine ⟨by simp [hsummary], by simp [hsummary, hpos], ?_⟩
    rintro _ ⟨⟩
    have hne : kept ≠ [] := by
      rintro rfl
      exact absurd hpos (by decide)
    refine ⟨kept, hkept, rfl, fun hexact => ⟨toNat_ofNat_exact hexact, ?_⟩⟩
    rintro _ ⟨⟩ i hi
    exact count_of_totalSummary hkept hne hout hexact hi

/-- Requests that search and filter alike have the same totals, however they group, sort, select and
    page, and whichever sessions they go on from. -/
theorem totals_agree (hrunner : e.runner = .ofCollection ⟨docs⟩) (hsame : o.SameTotals o')
    {s s' t t' : Session} {r r' : Response} (h : e.query o s = (.ok r, s'))
    (h' : e.query o' t = (.ok r', t')) :
    r.totalCount = r'.totalCount ∧ r.summary = r'.summary ∧
      HasTotals e o docs r.totalCount r.summary := by
  have htotals := totals_of_query hrunner h
  obtain ⟨hcount, hsummary⟩ := (htotals.congr hsame).unique (totals_of_query hrunner h')
  exact ⟨hcount, hsummary, htotals.hasTotals⟩

end Engine

/-- The two levels over the two documents, with a count of all documents beside the total count. -/
def summarizedLevels : LoadOptions := { twoLevels with totalSummary := [⟨"", .count⟩] }

/-- The second of the rows, with the same totals. -/
def summarizedRows : LoadOptions := { summarizedLevels with group := [], skip := 1 }

theorem addTotals_twoDocuments :
    ∃ values, ∀ data, Step.Succeeds (overTwoDocuments.addTotals summarizedLevels { data := data })
      { data := data, totalCount := some 2, summary := some values } := by
  have hall : (Collection.mk twoDocuments).aggregate [] = .ok twoDocuments := rfl
  obtain ⟨stages, hreads, hruns⟩ :=
    @exists_reads_summaryStages summarizedLevels.totalSummary (by decide)
  obtain ⟨out, hrun⟩ := hruns twoDocuments
  have hout : (Collection.mk twoDocuments).aggregate
      (Pipeline.summaryStages summarizedLevels.totalSummary) = .ok out :=
    aggregate_append_eq_ok.mpr ⟨twoDocuments, stages, hall, hreads, hrun⟩
  have hvalues : Step.Succeeds (Step.summarize (.ofCollection ⟨twoDocuments⟩)
      summarizedLevels.totalSummary (Pipeline.summaryStages summarizedLevels.totalSummary))
      (Pipeline.summaryValues summarizedLevels.totalSummary out.head?) :=
    (Step.Succeeds.change _).bind ((Step.Succeeds.execute hout).bind (.pure _))
  exact ⟨_, fun data => (Step.Succeeds.count hall).bind (hvalues.bind (.pure _))⟩

theorem totals_agree_twoDocuments :
    ∃ r r', (overTwoDocuments.query summarizedLevels {}).1 = .ok r ∧
      (overTwoDocuments.query summarizedRows {}).1 = .ok r' ∧
      r.totalCount = some 2 ∧ r.summary = r'.summary ∧
      ∃ values, r.summary = some values ∧ values[0]? = some (.ofUInt64 2) := by
  obtain ⟨values, htotals⟩ := addTotals_twoDocuments
  have hgroups : Step.Succeeds (overTwoDocuments.queryGroups summarizedLevels
      summarizedLevels.group 0 [] []) [.mk (.ofUInt64 7) 1 (.groups [bucketOfTwo]) none] :=
    queryGroups_twoLevels
  have hgrouped : Step.Succeeds (overTwoDocuments.steps summarizedLevels) _ :=
    Engine.queryGrouped_succeeds hgroups (.pure _) (htotals _)
  have hrows : (Collection.mk twoDocuments).aggregate
      (overTwoDocuments.rowsPipeline summarizedRows) = .ok (twoDocuments.drop 1) := rfl
  have hflat : Step.Succeeds (overTwoDocuments.steps summarizedRows) _ :=
    (Step.Succeeds.pure _).bind ((Step.Succeeds.execute hrows).bind (htotals _))
  obtain ⟨s', hquery⟩ := Engine.query_of_succeeds overTwoDocuments summarizedLevels hgrouped {}
  obtain ⟨t', hquery'⟩ := Engine.query_of_succeeds overTwoDocuments summarizedRows hflat {}
  have hsame : summarizedLevels.SameTotals summarizedRows := ⟨rfl, rfl, rfl, rfl, rfl, rfl⟩
  obtain ⟨-, hsummary, hhas⟩ := Engine.totals_agree rfl hsame hquery hquery'
  obtain ⟨kept, hkept, -, hexact⟩ := hhas.counted 2 rfl
  obtain rfl : twoDocuments = kept := Except.ok.inj hkept
  obtain ⟨-, hcounts⟩ := hexact (by decide)
  exact ⟨_, _, by rw [hquery], by rw [hquery'], rfl, hsummary, values, rfl,
    hcounts values rfl 0 rfl⟩

end GridQuery
