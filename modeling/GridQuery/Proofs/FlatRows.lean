import Mathlib
import GridQuery.Proofs.Collapsing

/-!
# The rows of a flat request

A flat request can be read plainly: filter the documents, sort them, take a page, select fields. The
pipeline for it leaves out the stages of what is not asked for, and its sort and its projection say
the same in other words.

Pages of one size are pieces of one list, since the filter and the sort do not depend on the page.

Results:
* `IsStableSort`, `sortOrder`: what it is to sort by a list of fields.
* `run_sortStages`: the stages of a sort do this.
* `flatten_pages`: pages of one size, one after the other, are the list up to their end.
* `flat_rows`: the rows of a flat request, and its pages.
-/

namespace GridQuery

open Collection (aggregate_of_reads runStages runStages_one)
open Std (OrientedCmp TransCmp)

/-! ## Stable sorts -/

section StableSorts

variable {α : Type}

/-- A list put into an order; elements that the order does not tell apart stay as they come. -/
structure IsStableSort (order : α → α → Ordering) (l sorted : List α) : Prop where
  perm : sorted.Perm l
  ordered : sorted.Pairwise fun a b => order a b ≠ .gt
  stable : ∀ a, sorted.filter (fun b => order a b = .eq) = l.filter fun b => order a b = .eq

/-- An order that tells nothing apart leaves a list as it is. -/
theorem isStableSort_self (l : List α) : IsStableSort (fun _ _ => .eq) l l where
  perm := .refl l
  ordered := List.pairwise_of_forall (fun _ _ => nofun)
  stable _ := rfl

/-- A merge sort by fields is a stable sort. -/
theorem isStableSort_mergeSort (fields : List (String × Bool)) (docs : List Json) :
    IsStableSort (compareBy fields) docs (docs.mergeSort (inOrderBy fields)) where
  perm := List.mergeSort_perm docs _
  ordered :=
    (List.pairwise_mergeSort (inOrderBy_trans fields) (inOrderBy_total fields) docs).imp
      fun h => of_decide_eq_true h
  stable a := by
    rw [filter_mergeSort (inOrderBy_trans fields) (inOrderBy_total fields)]
    refine List.mergeSort_of_pairwise (List.pairwise_of_forall_mem_list fun b hb c hc => ?_)
    -- What ties with the same document ties with each other.
    have hb : compareBy fields a b = .eq := by simpa using (List.mem_filter.mp hb).2
    have hc : compareBy fields a c = .eq := by simpa using (List.mem_filter.mp hc).2
    have hbc : compareBy fields b c = .eq := TransCmp.eq_trans (OrientedCmp.eq_symm hb) hc
    rw [inOrderBy, hbc]
    rfl

end StableSorts

/-- The order of a list of fields: by the first that tells documents apart, where a missing value
    counts as null, and the other way round for a descending field. -/
def sortOrder : List SortField → Json → Json → Ordering
  | [] => fun _ _ => .eq
  | field :: rest => compareLex (compareField field.selector field.desc) (sortOrder rest)

theorem compareBy_eq_sortOrder (sort : List SortField) :
    compareBy (sort.map fun field => (field.selector, field.desc)) = sortOrder sort := by
  induction sort with
  | nil => rfl
  | cons field rest ih =>
    rw [sortOrder, ← ih]
    rfl

/-- Where no field is repeated, the stages of a sort sort by the order of the fields. -/
theorem run_sortStages {sort : List SortField} (h : (sort.map (·.selector)).Nodup) :
    ∃ stages, ∃ arrange : List Json → List Json, Reads (Pipeline.sortStages sort) stages ∧
      (∀ docs, runStages stages docs = .ok (arrange docs)) ∧
      ∀ docs, IsStableSort (sortOrder sort) docs (arrange docs) := by
  unfold Pipeline.sortStages
  split_ifs with hempty
  · rw [List.isEmpty_iff.mp hempty]
    exact ⟨[], id, reads_nil, fun docs => rfl, isStableSort_self⟩
  · have hkeys : (Entries.keys
        (sort.map fun s => (s.selector, Pipeline.direction s.desc))).Nodup := by
      rwa [Entries.keys, List.map_map]
    have hfields : Stage.readEntries "$sort" (Stage.descending? "$sort")
        (.object (sort.map fun s => (s.selector, Pipeline.direction s.desc))) =
          .ok (sort.map fun s => (s.selector, s.desc)) := by
      rw [Stage.readEntries, List.mapM_map]
      refine mapM_total fun s _ => ?_
      simp only [Function.comp_apply, descending_direction]
      rfl
    refine ⟨[.sort (sort.map fun s => (s.selector, s.desc))], _, reads_one ?_,
      fun docs => runStages_one _ _, fun docs => ?_⟩
    · rw [Entries.ofList_of_nodup hkeys]
      simp only [Json.single, Stage.ofJson, Stage.ofEntry, hfields]
      rfl
    · rw [← compareBy_eq_sortOrder]
      exact isStableSort_mergeSort _ docs

/-! ## Pages -/

section Pages

variable {α : Type}

/-- The start of a page, as long as it is a word. -/
theorem pageOf_of_lt {n : UInt64} (hn : n ≠ 0) {i : Nat} (hi : i * n.toNat < 2 ^ 64)
    (l : List α) :
    pageOf (UInt64.ofNat (i * n.toNat)) n l = (l.drop (i * n.toNat)).take n.toNat := by
  rw [pageOf, if_neg hn, UInt64.toNat_ofNat_of_lt' hi]

/-- Pages of one size, one after the other, are the list up to their end. -/
theorem flatten_pages (n : Nat) (l : List α) (count : Nat) :
    ((List.range count).map fun i => (l.drop (i * n)).take n).flatten = l.take (count * n) := by
  induction count with
  | zero => simp
  | succ count ih =>
    rw [List.range_succ, List.map_append, List.flatten_append, ih, Nat.succ_mul, List.take_add]
    simp

end Pages

/-! ## Rows -/

section Rows

variable {e : Engine} {o : LoadOptions} {docs kept : List Json}

/-- The row of a document in a flat response. -/
def Engine.flatRow (e : Engine) (o : LoadOptions) (doc : Json) : Json :=
  e.shownRow (rowOf o.select doc)

/-- What the pipeline of a flat request answers, by the documents that its filter keeps. -/
theorem aggregate_rowsPipeline (hsort : (o.sort.map (·.selector)).Nodup)
    (hselect : ∀ name ∈ o.select, startsWithDollar name = false)
    (hkept : (Collection.mk docs).aggregate (e.filterStages o) = .ok kept) :
    ∃ sorted, IsStableSort (sortOrder o.sort) kept sorted ∧ ∀ skip take,
      (Collection.mk docs).aggregate (e.rowsPipeline { o with skip := skip, take := take }) =
        .ok ((pageOf skip take sorted).map (rowOf o.select)) := by
  obtain ⟨sorts, arrange, hsorts, hrunSorts, hstable⟩ := run_sortStages hsort
  obtain ⟨selects, hselects, hrunSelects⟩ := run_selectStages hselect
  refine ⟨arrange kept, hstable kept, fun skip take => ?_⟩
  obtain ⟨pages, hpages, hrunPages⟩ := run_pagingStages skip take
  refine aggregate_append_eq_ok.mpr ⟨_, selects, ?_, hselects, hrunSelects _⟩
  refine aggregate_append_eq_ok.mpr ⟨_, pages, ?_, hpages, hrunPages _⟩
  exact aggregate_append_eq_ok.mpr ⟨kept, sorts, hkept, hsorts, hrunSorts kept⟩

/-- The documents that the filter keeps come in the order in which they are stored. -/
theorem sublist_of_filterStages (hdocs : ∀ doc ∈ docs, IsPlain doc)
    (hkept : (Collection.mk docs).aggregate (e.filterStages o) = .ok kept) :
    kept.Sublist docs := by
  obtain ⟨stages, hreads, hkeeps⟩ := keeps_requestStages e o
  obtain ⟨keeps, hfilter⟩ := hkeeps.run_eq_filter
  rw [aggregate_of_reads hreads] at hkept
  rw [hfilter docs hdocs kept hkept]
  exact List.filter_sublist

/-- A flat request that succeeds has run its filter, its pipeline and its totals. -/
theorem parts_of_queryRows (hrunner : e.runner = .ofCollection ⟨docs⟩) {r : Response}
    (h : Step.Yields (e.queryRows o) r) : ∃ kept rows,
      (Collection.mk docs).aggregate (e.filterStages o) = .ok kept ∧
      (Collection.mk docs).aggregate (e.rowsPipeline o) = .ok rows ∧
      Step.Yields (e.addTotals o { data := .rows (rows.map e.shownRow) }) r := by
  obtain ⟨_, -, h⟩ := h.bind
  obtain ⟨rows, hrows, htotals⟩ := h.bind
  rw [hrunner] at hrows
  have hall := hrows.execute
  obtain ⟨_, _, hpaged, -, -⟩ := aggregate_append_eq_ok.mp hall
  obtain ⟨_, _, hsorted, -, -⟩ := aggregate_append_eq_ok.mp hpaged
  obtain ⟨kept, _, hkept, -, -⟩ := aggregate_append_eq_ok.mp hsorted
  exact ⟨kept, rows, hkept, hall, htotals⟩

/-- From any session, the flat request succeeds with these rows. -/
def Engine.AnswersRows (e : Engine) (o : LoadOptions) (rows : List Json) : Prop :=
  ∀ t, ∃ r t', (e.queryRows o).outcome t = (.ok r, t') ∧ r.data = .rows rows

/-- Where the totals have been answered once, any page of rows is answered. -/
theorem answersRows_page (hrunner : e.runner = .ofCollection ⟨docs⟩) {data : ResponseData}
    {r : Response} (htotals : Step.Yields (e.addTotals o { data := data }) r) {skip take : UInt64}
    {rows : List Json} (hrows : (Collection.mk docs).aggregate
      (e.rowsPipeline { o with skip := skip, take := take }) = .ok rows) :
    e.AnswersRows { o with skip := skip, take := take } (rows.map e.shownRow) := by
  let o' : LoadOptions := { o with skip := skip, take := take }
  have hreport : Step.Answers (fun _ => True) (Engine.reportFilter o') fun _ => True := fun s _ =>
    ⟨(), (Engine.outcome_reportFilter o' s).imp fun _ hs => ⟨hs, trivial, trivial⟩⟩
  have hanswers : Step.Answers (fun _ => True) (e.queryRows o')
      (· = { r with data := .rows (rows.map e.shownRow) }) := by
    unfold Engine.queryRows
    refine hreport.bind fun _ _ => ?_
    rw [hrunner]
    refine (Step.Answers.execute hrows).bind ?_
    rintro _ rfl
    exact answers_addTotals (o := o') hrunner htotals _
  intro t
  obtain ⟨r', t', hstep, rfl, -⟩ := hanswers t trivial
  exact ⟨_, t', hstep, rfl⟩

end Rows

/-- The rows of a flat request are those of its page of the sorted documents.

    The documents have no reserved names, no field is sorted by twice, and no operators are
    selected. Then the filter keeps documents as they are stored, and the rows are those of a page
    of them, stably sorted. From any session, the request succeeds without a page, too, and with any
    page of one size that starts within a word; one after the other, such pages are the rows up to
    their end, and all rows if they reach it. -/
theorem flat_rows {e : Engine} {o : LoadOptions} {docs : List Json}
    (hrunner : e.runner = .ofCollection ⟨docs⟩) (hdocs : ∀ doc ∈ docs, IsPlain doc)
    (hsort : (o.sort.map (·.selector)).Nodup)
    (hselect : ∀ name ∈ o.select, startsWithDollar name = false) {s s' : Session} {r : Response}
    (h : (e.queryRows o).outcome s = (.ok r, s')) :
    ∃ kept sorted, (Collection.mk docs).aggregate (e.filterStages o) = .ok kept ∧
      kept.Sublist docs ∧ IsStableSort (sortOrder o.sort) kept sorted ∧
      r.data = .rows ((pageOf o.skip o.take sorted).map (e.flatRow o)) ∧
      e.AnswersRows { o with skip := 0, take := 0 } (sorted.map (e.flatRow o)) ∧
      ∀ (n : UInt64) (count : Nat), 0 < n → (∀ i < count, i * n.toNat < 2 ^ 64) →
        ∃ pages : List (List Json),
          List.Forall₂ (fun i rows => e.AnswersRows
            { o with skip := UInt64.ofNat (i * n.toNat), take := n } rows)
            (List.range count) pages ∧
          pages.flatten = (sorted.map (e.flatRow o)).take (count * n.toNat) ∧
          (sorted.length ≤ count * n.toNat → pages.flatten = sorted.map (e.flatRow o)) := by
  obtain ⟨kept, rows, hkept, hrows, htotals⟩ := parts_of_queryRows hrunner ⟨s, s', h⟩
  obtain ⟨sorted, hsorted, hpaged⟩ := aggregate_rowsPipeline hsort hselect hkept
  have hshown : ∀ l : List Json, (l.map (rowOf o.select)).map e.shownRow = l.map (e.flatRow o) :=
    fun l => List.map_map
  have hanswers : ∀ skip take, e.AnswersRows { o with skip := skip, take := take }
      ((pageOf skip take sorted).map (e.flatRow o)) := fun skip take =>
    hshown _ ▸ answersRows_page hrunner htotals (hpaged skip take)
  refine ⟨kept, sorted, hkept, sublist_of_filterStages hdocs hkept, hsorted, ?_, ?_, ?_⟩
  · have hpage := hpaged o.skip o.take
    rw [Engine.data_of_addTotals htotals, ← hshown, ← Except.ok.inj (hrows.symm.trans hpage)]
  · exact hanswers 0 0
  · intro n count hn hword
    have hne : n ≠ 0 := (UInt64.pos_iff_ne_zero).mp hn
    have hpages := flatten_pages n.toNat (sorted.map (e.flatRow o)) count
    refine ⟨_, ?_, hpages, fun hreach => ?_⟩
    swap
    · rw [hpages, List.take_of_length_le (by rwa [List.length_map])]
    refine List.forall₂_map_right_iff.mpr (List.forall₂_same.mpr fun i hi => ?_)
    have hstart := hword i (List.mem_range.mp hi)
    have hpage := hanswers (UInt64.ofNat (i * n.toNat)) n
    rw [pageOf_of_lt hne hstart] at hpage
    rwa [← List.map_drop, ← List.map_take]

/-- Two documents share the lesser value of `a`. -/
def threeDocuments : List Json :=
  [.object [("a", .ofUInt64 1), ("b", .ofUInt64 1)],
    .object [("a", .ofUInt64 2), ("b", .ofUInt64 2)],
    .object [("a", .ofUInt64 1), ("b", .ofUInt64 3)]]

/-- The second row by descending `a`. -/
def secondRow : LoadOptions where
  sort := [⟨"a", true⟩]
  select := ["b"]
  skip := 1
  take := 1

def overThreeDocuments : Engine where
  runner := .ofCollection ⟨threeDocuments⟩

theorem flat_rows_of_threeDocuments :
    ∃ r sorted, ((overThreeDocuments.queryRows secondRow).outcome {}).1 = .ok r ∧
      IsStableSort (sortOrder secondRow.sort) threeDocuments sorted ∧
      r.data = .rows ((pageOf 1 1 sorted).map (overThreeDocuments.flatRow secondRow)) ∧
      ∃ first second, overThreeDocuments.AnswersRows { secondRow with skip := 0, take := 2 } first ∧
        overThreeDocuments.AnswersRows { secondRow with skip := 2, take := 2 } second ∧
        first ++ second = sorted.map (overThreeDocuments.flatRow secondRow) := by
  have hrunner : overThreeDocuments.runner = .ofCollection ⟨threeDocuments⟩ := rfl
  have hsort : (secondRow.sort.map (·.selector)).Nodup := by decide
  have hselect : ∀ name ∈ secondRow.select, startsWithDollar name = false := by
    decide
  have hkept : (Collection.mk threeDocuments).aggregate
      (overThreeDocuments.filterStages secondRow) = .ok threeDocuments := rfl
  have htotals : Step.Yields (overThreeDocuments.addTotals secondRow { data := .rows [] })
      { data := .rows [] } := ⟨{}, {}, rfl⟩
  obtain ⟨sorted, -, hrows⟩ := aggregate_rowsPipeline hsort hselect hkept
  obtain ⟨r, s', hstep, -⟩ := answersRows_page hrunner htotals (hrows 1 1) {}
  obtain ⟨kept, sorted, hkept', -, hsorted, hdata, -, hpages⟩ :=
    flat_rows hrunner (by decide) hsort hselect hstep
  obtain rfl := Except.ok.inj (hkept.symm.trans hkept')
  obtain ⟨pages, hanswers, -, hall⟩ := hpages 2 2 (by decide) (by decide)
  have hreach : sorted.length ≤ 2 * (2 : UInt64).toNat := by
    rw [hsorted.perm.length_eq]
    decide
  match pages, hanswers with
  | [first, second], .cons hfirst (.cons hsecond .nil) =>
    refine ⟨r, sorted, congrArg Prod.fst hstep, hsorted, hdata, first, second, hfirst, hsecond, ?_⟩
    simpa using hall hreach

end GridQuery
