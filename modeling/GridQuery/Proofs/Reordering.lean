import Mathlib
import GridQuery.Proofs.Filtering
import GridQuery.Proofs.Sorting

/-!
# Sorting before or after a filter

A store can use an index if documents are sorted before they are filtered. The order in which they
come out is the same either way, because a sort is stable and a filter leaves the documents that
stay as they were. Whether a document has an answer does not depend on where it stands, so that both
ways fail together, though not always with the same error.

Results:
* `Arranges.run_swap`: stages that keep documents can go before or behind a sort.
* `sameOutcome_sort_filter`: a sort and a filter have the same outcome in both orders.
-/

namespace GridQuery

open Collection (runStages runStages_append_eq_ok)
open Pipeline (filterStages sortStages)

/-! ## Stages in both orders -/

/-- Documents that are arranged before others of them go are the ones that are left, arranged. -/
theorem Arranges.run_swap {sorts filters : List Stage} {arrange : List Json → List Json}
    (harrange : Arranges sorts arrange) (hkeeps : Keeps filters) {docs out : List Json}
    (hdocs : ∀ doc ∈ docs, IsPlain doc) :
    runStages (sorts ++ filters) docs = .ok out ↔ runStages (filters ++ sorts) docs = .ok out := by
  obtain ⟨keeps, hfilter⟩ := hkeeps.run_eq_filter
  have hlocal := isLocal_runStages hkeeps.looksAtOne
  have hperm := harrange.perm docs
  have hplain : ∀ doc ∈ arrange docs, IsPlain doc := fun doc hdoc =>
    hdocs doc (hperm.mem_iff.mp hdoc)
  simp only [runStages_append_eq_ok, harrange.run, Except.ok.injEq]
  constructor
  · rintro ⟨_, rfl, hout⟩
    obtain ⟨kept, hkept, -⟩ := hlocal.perm hperm hout
    refine ⟨kept, hkept, ?_⟩
    rw [hfilter docs hdocs kept hkept, hfilter _ hplain out hout, harrange.filter]
  · rintro ⟨kept, hkept, rfl⟩
    obtain ⟨out, hout, -⟩ := hlocal.perm hperm.symm hkept
    refine ⟨_, rfl, ?_⟩
    rw [hout, hfilter docs hdocs kept hkept, hfilter _ hplain out hout, harrange.filter]

/-! ## Sort and filter -/

/-- Two runs give the same documents in the same order, or both of them fail. -/
def SameOutcome (a b : Except Fault (List Json)) : Prop :=
  (∃ out, a = .ok out ∧ b = .ok out) ∨ ((∃ e, a = .error e) ∧ ∃ e, b = .error e)

theorem sameOutcome_iff {a b : Except Fault (List Json)} :
    SameOutcome a b ↔ ∀ out, a = .ok out ↔ b = .ok out := by
  constructor
  · rintro (⟨_, rfl, rfl⟩ | ⟨⟨_, rfl⟩, _, rfl⟩)
    · exact fun _ => Iff.rfl
    · simp
  · intro h
    cases a with
    | ok out => exact Or.inl ⟨out, rfl, (h out).mp rfl⟩
    | error e =>
      cases b with
      | ok out => cases (h out).mpr rfl
      | error e' => exact Or.inr ⟨⟨e, rfl⟩, e', rfl⟩

/-- Sorting documents before they are filtered comes to the same as sorting those that are left. -/
theorem sameOutcome_sort_filter {docs : List Json} (hdocs : ∀ doc ∈ docs, IsPlain doc)
    (sort : List SortField) (filter : Json) (offset : Int64) :
    SameOutcome ((Collection.mk docs).aggregate (sortStages sort ++ filterStages filter offset))
      ((Collection.mk docs).aggregate (filterStages filter offset ++ sortStages sort)) := by
  obtain ⟨sorts, hsorts⟩ := exists_reads_sortStages sort
  obtain ⟨filters, hfilters, hkeeps⟩ := keeps_filterStages filter offset
  obtain ⟨arrange, harrange⟩ := arranges_sortStages hsorts
  rw [Collection.aggregate_of_reads (hsorts.append hfilters),
    Collection.aggregate_of_reads (hfilters.append hsorts), sameOutcome_iff]
  exact fun out => harrange.run_swap hkeeps hdocs

/-- Two documents of one year and an older one. -/
def sentDocuments : List Json :=
  [.object [("name", .string "c"), ("sent", .object [("$date", .string "2024-05-06T07:08:09Z")])],
    .object [("name", .string "a"), ("sent", .object [("$date", .string "2020-01-01T00:00:00Z")])],
    .object [("name", .string "b"), ("sent", .object [("$date", .string "2024-05-07T07:08:09Z")])]]

/-- Asks for the documents of that year. -/
def sentInYear : Json := .array [.string "sent.year", .string "=", Pipeline.constant 2024]

theorem sameOutcome_sentInYear :
    (∀ doc ∈ sentDocuments, IsPlain doc) ∧
      SameOutcome
        ((Collection.mk sentDocuments).aggregate
          (sortStages [⟨"name", false⟩] ++ filterStages sentInYear 0))
        ((Collection.mk sentDocuments).aggregate
          (filterStages sentInYear 0 ++ sortStages [⟨"name", false⟩])) := by
  have hdocs : ∀ doc ∈ sentDocuments, IsPlain doc := by decide
  exact ⟨hdocs, sameOutcome_sort_filter hdocs [⟨"name", false⟩] sentInYear 0⟩

end GridQuery
