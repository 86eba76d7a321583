import Mathlib
import GridQuery.Proofs.Levels
import GridQuery.Proofs.Summaries

/-!
# Counts and summaries over a collection

Pipelines that count or summarize start with stages that choose the documents. Over a collection, a
count is the number of the chosen documents, and a summary is taken over them.

Results:
* `aggregate_append_eq_ok`: a pipeline in two parts.
* `Step.Yields.count`, `Step.Succeeds.count`: a count is that of the documents chosen.
* `Step.Yields.count_of_summarize`: so is a count among the values of a summary.
-/

namespace GridQuery

open Collection (aggregate_eq_ok runStages runStages_append_eq_ok runStages_one)

/-- What the stages of a second part make of the documents that a first part has chosen. -/
theorem aggregate_append_eq_ok {c : Collection} {p q : Pipeline} {out : List Json} :
    c.aggregate (p ++ q) = .ok out ↔
      ∃ chosen stages, c.aggregate p = .ok chosen ∧ Reads q stages ∧
        runStages stages chosen = .ok out := by
  simp only [aggregate_eq_ok]
  constructor
  · rintro ⟨_, hreads, hrun⟩
    obtain ⟨a, b, ha, hb, rfl⟩ := reads_append.mp hreads
    obtain ⟨chosen, hchosen, hout⟩ := runStages_append_eq_ok.mp hrun
    exact ⟨chosen, b, ⟨a, ha, hchosen⟩, hb, hout⟩
  · rintro ⟨chosen, b, ⟨a, ha, hchosen⟩, hb, hout⟩
    exact ⟨a ++ b, ha.append hb, runStages_append_eq_ok.mpr ⟨chosen, hchosen, hout⟩⟩

/-! ## Counts -/

theorem reads_countStages : Reads Pipeline.countStages [.count "count"] := by
  refine reads_one ?_
  simp [Stage.ofJson, Stage.ofEntry, Json.single]

theorem aggregate_countStages {c : Collection} {p : Pipeline} {out : List Json} :
    c.aggregate (p ++ Pipeline.countStages) = .ok out ↔
      ∃ chosen, c.aggregate p = .ok chosen ∧ (Stage.count "count").run chosen = .ok out := by
  rw [aggregate_append_eq_ok]
  constructor
  · rintro ⟨chosen, stages, hchosen, hreads, hrun⟩
    obtain rfl := hreads.unique reads_countStages
    exact ⟨chosen, hchosen, by rwa [runStages_one] at hrun⟩
  · rintro ⟨chosen, hchosen, hrun⟩
    exact ⟨chosen, _, hchosen, reads_countStages, by rwa [runStages_one]⟩

/-- The number in the document that a count answers; without documents there is none, and it is
    zero. -/
theorem countOf_count (docs : List Json) :
    ∃ out, (Stage.count "count").run docs = .ok out ∧
      Step.countOf out = .ok (UInt64.ofNat docs.length) := by
  refine ⟨_, rfl, ?_⟩
  cases docs with
  | nil => rfl
  | cons doc rest =>
    simp [Step.countOf, Json.get?, Json.single, Json.object?, Entries.get?, Json.uint64?_ofUInt64]

namespace Step

variable {docs chosen : List Json} {p : Pipeline}

/-- A count is that of the documents chosen. -/
theorem Yields.count {n : UInt64}
    (h : Yields (Step.count (.ofCollection ⟨docs⟩) (p ++ Pipeline.countStages)) n) :
    ∃ chosen, (Collection.mk docs).aggregate p = .ok chosen ∧
      n = UInt64.ofNat chosen.length := by
  obtain ⟨_, -, h⟩ := h.bind
  obtain ⟨out, hout, h⟩ := h.bind
  obtain ⟨chosen, hchosen, hrun⟩ := aggregate_countStages.mp hout.execute
  obtain ⟨_, hcount, hread⟩ := countOf_count chosen
  obtain rfl := Except.ok.inj (hrun.symm.trans hcount)
  exact ⟨chosen, hchosen, Except.ok.inj (h.checked.symm.trans hread)⟩

theorem Succeeds.count (h : (Collection.mk docs).aggregate p = .ok chosen) :
    Succeeds (Step.count (.ofCollection ⟨docs⟩) (p ++ Pipeline.countStages))
      (UInt64.ofNat chosen.length) := by
  obtain ⟨out, hcount, hread⟩ := countOf_count chosen
  exact (Succeeds.change _).bind
    ((Succeeds.execute (aggregate_countStages.mpr ⟨chosen, h, hcount⟩)).bind (.checked hread))

/-! ## Summaries -/

/-- Over a collection, the values of a summary are read from what the pipeline answers. -/
theorem Yields.summaryOf {summaries : List Summary} {values : List Json}
    (h : Yields (Step.summarize (.ofCollection ⟨docs⟩) summaries p) values) :
    ∃ out, (Collection.mk docs).aggregate p = .ok out ∧
      values = Pipeline.summaryValues summaries out.head? := by
  obtain ⟨_, -, h⟩ := h.bind
  obtain ⟨out, hout, h⟩ := h.bind
  exact ⟨out, hout.execute, h.pure⟩

/-- A summary is taken over the documents chosen. -/
theorem Yields.summarize {summaries : List Summary} {values : List Json}
    (h : Yields (Step.summarize (.ofCollection ⟨docs⟩) summaries
      (p ++ Pipeline.summaryStages summaries)) values) :
    ∃ chosen stages out, (Collection.mk docs).aggregate p = .ok chosen ∧
      Reads (Pipeline.summaryStages summaries) stages ∧ runStages stages chosen = .ok out ∧
      values = Pipeline.summaryValues summaries out.head? := by
  obtain ⟨out, hout, hvalues⟩ := h.summaryOf
  obtain ⟨chosen, stages, hchosen, hreads, hrun⟩ := aggregate_append_eq_ok.mp hout
  exact ⟨chosen, stages, out, hchosen, hreads, hrun, hvalues⟩

end Step

end GridQuery
