import Mathlib
import GridQuery.Pipeline.Basic
import GridQuery.Proofs.Counting
import GridQuery.Proofs.Order
import GridQuery.Proofs.Fields
import GridQuery.Proofs.Running

/-!
# Sorting and paging

A sort goes by fields in turn and keeps the order of documents that none of the fields tells apart.
That is why it does not matter whether documents are sorted before some of them go, or after. Paging
takes documents from the sorted list as they are.

Results:
* `compareBy_trans`: the order by fields is a total preorder.
* `filter_mergeSort`: sorting and filtering commute.
* `arranges_sortStages`: the stages of a sort arrange any documents, and commute with filtering.
* `run_pagingStages`: the stages of paging take a page of any documents.
-/

namespace GridQuery

open Collection (runStages runStages_append_eq_ok runStages_one)
open Std (OrientedCmp TransCmp)

/-! ## The order by fields -/

/-- The order by one field, in one direction. -/
def compareField (field : String) (desc : Bool) (a b : Json) : Ordering :=
  let order := ((a.resolve? field).getD .null).compare ((b.resolve? field).getD .null)
  if desc then order.swap else order

instance compareField_trans (field : String) (desc : Bool) :
    TransCmp (compareField field desc) := by
  have hfield : TransCmp fun a b : Json =>
      ((a.resolve? field).getD .null).compare ((b.resolve? field).getD .null) :=
    { eq_swap := OrientedCmp.eq_swap
      isLE_trans := TransCmp.isLE_trans }
  cases desc with
  | false => exact hfield
  | true =>
    have hswap : compareField field true = fun a b : Json =>
        ((b.resolve? field).getD .null).compare ((a.resolve? field).getD .null) := by
      funext a b
      exact OrientedCmp.eq_swap.symm
    rw [hswap]
    exact TransCmp.opposite

/-- The order by fields is a total preorder. -/
instance compareBy_trans (fields : List (String × Bool)) : TransCmp (compareBy fields) := by
  induction fields with
  | nil => exact { eq_swap := rfl, isLE_trans := fun _ _ => rfl }
  | cons field rest ih =>
    have hlex : compareBy (field :: rest) =
        compareLex (compareField field.1 field.2) (compareBy rest) := rfl
    rw [hlex]
    infer_instance

/-- No document after the other one in the order by fields. -/
def inOrderBy (fields : List (String × Bool)) (a b : Json) : Bool := compareBy fields a b ≠ .gt

theorem inOrderBy_eq (fields : List (String × Bool)) (a b : Json) :
    inOrderBy fields a b = (compareBy fields a b).isLE := by
  rw [inOrderBy]
  cases compareBy fields a b <;> rfl

theorem inOrderBy_trans (fields : List (String × Bool)) (a b c : Json)
    (hab : inOrderBy fields a b = true) (hbc : inOrderBy fields b c = true) :
    inOrderBy fields a c = true := by
  rw [inOrderBy_eq] at hab hbc ⊢
  exact TransCmp.isLE_trans hab hbc

theorem inOrderBy_total (fields : List (String × Bool)) (a b : Json) :
    (inOrderBy fields a b || inOrderBy fields b a) = true := by
  have hswap : compareBy fields b a = (compareBy fields a b).swap := OrientedCmp.eq_swap
  rw [inOrderBy_eq, inOrderBy_eq, hswap]
  cases compareBy fields a b <;> rfl

/-! ## Sorting and filtering -/

section Stability

variable {α : Type} {le : α → α → Bool}

/-- Where a list is split by a test that its first part fails and its second part passes, the parts
    are known. -/
theorem append_inj_of_test (test : α → Bool) {a b c d : List α} (h : a ++ b = c ++ d)
    (ha : ∀ x ∈ a, test x = false) (hb : ∀ x ∈ b, test x = true) (hc : ∀ x ∈ c, test x = false)
    (hd : ∀ x ∈ d, test x = true) : a = c ∧ b = d := by
  have hpass := congrArg (List.filter test) h
  have hfail := congrArg (List.filter fun x => !test x) h
  have none_pass : ∀ {l : List α}, (∀ x ∈ l, test x = false) → l.filter test = [] := by
    intro l hl
    exact List.filter_eq_nil_iff.mpr fun x hx => by simp [hl x hx]
  have none_fail : ∀ {l : List α}, (∀ x ∈ l, test x = true) →
      l.filter (fun x => !test x) = [] := by
    intro l hl
    exact List.filter_eq_nil_iff.mpr fun x hx => by simp [hl x hx]
  have all_fail : ∀ {l : List α}, (∀ x ∈ l, test x = false) →
      l.filter (fun x => !test x) = l := by
    intro l hl
    exact List.filter_eq_self.mpr fun x hx => by simp [hl x hx]
  rw [List.filter_append, List.filter_append, none_pass ha, none_pass hc,
    List.filter_eq_self.mpr hb, List.filter_eq_self.mpr hd] at hpass
  rw [List.filter_append, List.filter_append, none_fail hb, none_fail hd, all_fail ha,
    all_fail hc] at hfail
  exact ⟨by simpa using hfail, by simpa using hpass⟩

/-- Behind an element that is sorted there is nothing that it comes after. -/
theorem le_of_mergeSort_eq (htrans : ∀ a b c, le a b = true → le b c = true → le a c = true)
    (htotal : ∀ a b, (le a b || le b a) = true) {l before after : List α} {x : α}
    (h : l.mergeSort le = before ++ x :: after) : ∀ y ∈ after, le x y = true := by
  have hpairwise := List.pairwise_mergeSort htrans htotal l
  rw [h] at hpairwise
  exact (List.pairwise_cons.mp (List.pairwise_append.mp hpairwise).2.1).1

/-- A stable sort keeps the elements that stay in the order in which it puts them without the
    others. -/
theorem filter_mergeSort (htrans : ∀ a b c, le a b = true → le b c = true → le a c = true)
    (htotal : ∀ a b, (le a b || le b a) = true) (p : α → Bool) (l : List α) :
    (l.mergeSort le).filter p = (l.filter p).mergeSort le := by
  induction l with
  | nil => simp
  | cons x l ih =>
    obtain ⟨before, after, hsorted, hrest, hbefore⟩ := List.mergeSort_cons htrans htotal x l
    have hafter := le_of_mergeSort_eq htrans htotal hsorted
    rw [hrest, List.filter_append] at ih
    rw [hsorted, List.filter_append]
    by_cases hx : p x = true
    · rw [List.filter_cons_of_pos hx, List.filter_cons_of_pos hx]
      obtain ⟨before', after', hsorted', hrest', hbefore'⟩ :=
        List.mergeSort_cons htrans htotal x (l.filter p)
      have hafter' := le_of_mergeSort_eq htrans htotal hsorted'
      -- In both lists `x` comes behind what is less than it and before the rest.
      obtain ⟨h₁, h₂⟩ := append_inj_of_test (le x) (ih.trans hrest')
        (fun y hy => by simpa using hbefore y (List.mem_of_mem_filter hy))
        (fun y hy => hafter y (List.mem_of_mem_filter hy))
        (fun y hy => by simpa using hbefore' y hy) hafter'
      rw [hsorted', h₁, h₂]
    · rw [List.filter_cons_of_neg hx, List.filter_cons_of_neg hx, ih]

end Stability

/-! ## The stages of a sort -/

/-- The stages put any documents into an order of their own, from which documents may be left out
    before or after. -/
structure Arranges (stages : List Stage) (arrange : List Json → List Json) : Prop where
  run : ∀ docs, runStages stages docs = .ok (arrange docs)
  perm : ∀ docs, (arrange docs).Perm docs
  filter : ∀ (p : Json → Bool) docs, (arrange docs).filter p = arrange (docs.filter p)

theorem arranges_nil : Arranges [] id where
  run _ := rfl
  perm := .refl
  filter _ _ := rfl

theorem arranges_sort (fields : List (String × Bool)) :
    Arranges [.sort fields] fun docs => docs.mergeSort (inOrderBy fields) where
  run docs := by
    rw [runStages_one]
    rfl
  perm docs := List.mergeSort_perm docs _
  filter p docs := filter_mergeSort (inOrderBy_trans fields) (inOrderBy_total fields) p docs

/-- Without the sort before them, stages that look at one document at a time give the same
    documents in another order. -/
theorem Arranges.run_without {sorts stages : List Stage} {arrange : List Json → List Json}
    (h : Arranges sorts arrange) (hlooks : ∀ stage ∈ stages, stage.LooksAtOne)
    {docs out : List Json} (hrun : runStages (sorts ++ stages) docs = .ok out) :
    ∃ out', runStages stages docs = .ok out' ∧ out.Perm out' := by
  obtain ⟨arranged, harranged, hrun⟩ := runStages_append_eq_ok.mp hrun
  rw [h.run] at harranged
  obtain rfl := Except.ok.inj harranged
  exact (isLocal_runStages hlooks).perm (h.perm docs) hrun

/-- The stages of a sort arrange documents, whatever they are read as. -/
theorem arranges_sortStages {sort : List SortField} {stages : List Stage}
    (h : Reads (Pipeline.sortStages sort) stages) : ∃ arrange, Arranges stages arrange := by
  unfold Pipeline.sortStages at h
  split_ifs at h
  · obtain rfl := h.unique reads_nil
    exact ⟨_, arranges_nil⟩
  · obtain ⟨stage, rest, hstage, hrest, rfl⟩ := mapM_cons_eq_ok.mp h
    obtain rfl := Reads.unique hrest reads_nil
    simp only [Json.single, Stage.ofJson, Stage.ofEntry] at hstage
    obtain ⟨fields, -, rfl⟩ := map_eq_ok.mp hstage
    exact ⟨_, arranges_sort fields⟩

theorem int64_constant (n : Int64) : (Pipeline.constant n).int64? = some n := by
  have h₁ := n.toInt_lt
  simp only [Pipeline.constant, Json.ofInt64, Json.int64?, Number.ofInt64, Number.toInt64?]
  rw [if_pos (by omega), Int64.ofInt_toInt]

theorem descending_direction (desc : Bool) :
    Stage.descending? "$sort" (Pipeline.direction desc) = .ok desc := by
  rw [Stage.descending?, Pipeline.direction, int64_constant]
  cases desc <;> rfl

/-- A sort is always read. -/
theorem exists_reads_sortStages (sort : List SortField) :
    ∃ stages, Reads (Pipeline.sortStages sort) stages := by
  unfold Pipeline.sortStages
  split_ifs
  · exact ⟨[], reads_nil⟩
  · obtain ⟨-, hmem, -⟩ := Entries.ofList_spec
      (sort.map fun s => (s.selector, Pipeline.direction s.desc))
    obtain ⟨fields, hfields⟩ : ∃ fields, Stage.readEntries "$sort" (Stage.descending? "$sort")
        (.object (Entries.ofList (sort.map fun s => (s.selector, Pipeline.direction s.desc)))) =
          .ok fields := by
      refine exists_mapM_eq_ok fun entry hentry => ?_
      obtain ⟨s, -, rfl⟩ := List.mem_map.mp (hmem entry hentry)
      exact ⟨(s.selector, s.desc), bind_eq_ok.mpr ⟨s.desc, descending_direction s.desc, rfl⟩⟩
    refine ⟨[.sort fields], reads_one ?_⟩
    simp only [Json.single, Stage.ofJson, Stage.ofEntry, hfields]
    rfl

/-! ## The stages of paging -/

theorem readCount_ofUInt64 (name : String) (n : UInt64) :
    Stage.readCount name (.ofUInt64 n) = .ok n.toNat := by
  rw [Stage.readCount, Json.uint64?_ofUInt64]

/-- What is left of a list behind the ones that are skipped: the first of them, or all of them where
    none are to be taken. -/
def pageOf {α : Type} (skip take : UInt64) (l : List α) : List α :=
  if take = 0 then l.drop skip.toNat else (l.drop skip.toNat).take take.toNat

theorem pageOf_sublist {α : Type} (skip take : UInt64) (l : List α) :
    (pageOf skip take l).Sublist l := by
  unfold pageOf
  split_ifs
  · exact List.drop_sublist _ _
  · exact (List.take_sublist _ _).trans (List.drop_sublist _ _)

example : pageOf 1 2 [1, 2, 3, 4] = [2, 3] ∧ pageOf 1 0 [1, 2, 3, 4] = [2, 3, 4] := by decide

/-- The stages of paging take a page of any documents. -/
theorem run_pagingStages (skip take : UInt64) :
    ∃ stages, Reads (Pipeline.pagingStages skip take) stages ∧
      ∀ docs, runStages stages docs = .ok (pageOf skip take docs) := by
  have hskip : ∃ stages, Reads (if 0 < skip then [.single "$skip" (.ofUInt64 skip)] else [])
      stages ∧ ∀ docs, runStages stages docs = .ok (docs.drop skip.toNat) := by
    split_ifs with hzero
    · refine ⟨[.skip skip.toNat], reads_one ?_, fun docs => runStages_one _ _⟩
      simp [Stage.ofJson, Stage.ofEntry, Json.single, readCount_ofUInt64, Except.map]
    · obtain rfl := UInt64.le_zero_iff.mp (UInt64.not_lt.mp hzero)
      exact ⟨[], reads_nil, fun docs => rfl⟩
  have htake : ∃ stages, Reads (if 0 < take then [.single "$limit" (.ofUInt64 take)] else [])
      stages ∧ ∀ docs, runStages stages docs =
        .ok (if take = 0 then docs else docs.take take.toNat) := by
    split_ifs with hzero hnone hnone
    · rw [hnone] at hzero
      exact absurd hzero (lt_irrefl 0)
    · refine ⟨[.limit take.toNat], reads_one ?_, fun docs => runStages_one _ _⟩
      simp [Stage.ofJson, Stage.ofEntry, Json.single, readCount_ofUInt64, Except.map]
    · exact ⟨[], reads_nil, fun docs => rfl⟩
    · exact absurd (UInt64.le_zero_iff.mp (UInt64.not_lt.mp hzero)) hnone
  obtain ⟨a, ha, hrunA⟩ := hskip
  obtain ⟨b, hb, hrunB⟩ := htake
  refine ⟨a ++ b, ha.append hb, fun docs => ?_⟩
  exact runStages_append_eq_ok.mpr ⟨_, hrunA docs, hrunB _⟩

/-- The stages of paging always run, and leave out documents only. -/
theorem exists_reads_pagingStages (skip take : UInt64) :
    ∃ stages, Reads (Pipeline.pagingStages skip take) stages ∧
      ∀ docs, ∃ out, runStages stages docs = .ok out ∧ out.Sublist docs := by
  obtain ⟨stages, hreads, hrun⟩ := run_pagingStages skip take
  exact ⟨stages, hreads, fun docs => ⟨_, hrun docs, pageOf_sublist skip take docs⟩⟩

end GridQuery
