import Mathlib
import GridQuery.Proofs.Gathering
import GridQuery.Proofs.Order
import GridQuery.Proofs.Summaries

/-!
# One reduction for all summaries

The requested summaries share one group of all documents, in which accumulators are found by their
names. Each summary has there what it would have on its own: its name is that of no other
accumulator, and what an accumulator keeps while it goes through the documents is what the summary
asks of all of them.

Results:
* `best_iff`: the least and the greatest of values are the first that no other one precedes.
* `Summary.Says`: what a summary says of documents.
* `says_iff`: what it says is what its accumulator makes of them.
* `summaries_share_reduction`: the values read from the reduction are what the summaries say.
-/

namespace GridQuery

open Collection (aggregate_of_reads runStages runStages_one)
open Std (OrientedCmp TransCmp)

/-! ## The first of the best -/

/-- The best of values in the wanted sense: the first of those other than null that precedes all
    others, if there is one. Nothing else precedes it, and it precedes all that stands in front. -/
inductive Best (wanted : Ordering) (values : List Json) : Option Json → Prop
  | nothing : (∀ v ∈ values, v = .null) → Best wanted values none
  | first (before : List Json) (best : Json) (after : List Json) :
      values = before ++ best :: after → best ≠ .null →
      (∀ v ∈ before, v ≠ .null → best.compare v = wanted) →
      (∀ v ∈ after, v ≠ .null → v.compare best ≠ wanted) → Best wanted values (some best)

section Best

variable {wanted : Ordering}

/-- What precedes a value also precedes all that the value is not preceded by. -/
theorem precedes_trans (hwanted : wanted ≠ .eq) {a b c : Json} (hab : a.compare b = wanted)
    (hcb : c.compare b ≠ wanted) : a.compare c = wanted := by
  cases wanted with
  | eq => exact absurd rfl hwanted
  | lt =>
    have hbc : (b.compare c).isLE = true := by
      rw [Ordering.isLE_iff_ne_gt]
      intro hgt
      exact hcb (OrientedCmp.gt_iff_lt.mp hgt)
    exact TransCmp.lt_of_lt_of_isLE hab hbc
  | gt =>
    have hbc : (b.compare c).isGE = true := by
      rw [Ordering.isGE_iff_ne_lt]
      intro hlt
      exact hcb (OrientedCmp.gt_iff_lt.mpr hlt)
    exact TransCmp.gt_of_gt_of_isGE hab hbc

/-- Of two values, not both precede the other. -/
theorem precedes_asymm (hwanted : wanted ≠ .eq) {a b : Json} (h : a.compare b = wanted) :
    b.compare a ≠ wanted := by
  cases wanted with
  | eq => exact absurd rfl hwanted
  | lt => exact OrientedCmp.not_lt_of_lt h
  | gt => exact OrientedCmp.not_gt_of_gt h

theorem betterOf_null (best : Option Json) : betterOf wanted best .null = best := rfl

theorem betterOf_none {v : Json} (h : v ≠ .null) : betterOf wanted none v = some v := by
  cases v with
  | null => exact absurd rfl h
  | _ => rfl

theorem betterOf_some {v : Json} (h : v ≠ .null) (b : Json) :
    betterOf wanted (some b) v = if v.compare b = wanted then some v else some b := by
  cases v with
  | null => exact absurd rfl h
  | _ => rfl

/-- One more value. -/
theorem Best.append (hwanted : wanted ≠ .eq) {values : List Json} {best : Option Json}
    (h : Best wanted values best) (v : Json) :
    Best wanted (values ++ [v]) (betterOf wanted best v) := by
  by_cases hnull : v = .null
  · -- A null leaves things as they are.
    subst hnull
    rw [betterOf_null]
    cases h with
    | nothing hnulls =>
      refine .nothing fun w hw => ?_
      rcases List.mem_append.mp hw with hw | hw
      · exact hnulls w hw
      · exact List.mem_singleton.mp hw
    | first before best after heq hbest hbefore hafter =>
      refine .first before best (after ++ [.null]) (by simp [heq]) hbest hbefore fun w hw hne => ?_
      rcases List.mem_append.mp hw with hw | hw
      · exact hafter w hw hne
      · exact absurd (List.mem_singleton.mp hw) hne
  cases h with
  | nothing hnulls =>
    rw [betterOf_none hnull]
    exact .first values v [] rfl hnull (fun w hw hne => absurd (hnulls w hw) hne) (by simp)
  | first before best after heq hbest hbefore hafter =>
    rw [betterOf_some hnull]
    split_ifs with hbetter
    · -- The new value precedes the best one and with it all the others.
      refine .first values v [] rfl hnull (fun w hw hne => ?_) (by simp)
      refine precedes_trans hwanted hbetter ?_
      rw [heq] at hw
      rcases List.mem_append.mp hw with hw | hw
      · exact precedes_asymm hwanted (hbefore w hw hne)
      · rcases List.mem_cons.mp hw with rfl | hw
        · intro hself
          exact precedes_asymm hwanted hself hself
        · exact hafter w hw hne
    · refine .first before best (after ++ [v]) (by simp [heq]) hbest hbefore fun w hw hne => ?_
      rcases List.mem_append.mp hw with hw | hw
      · exact hafter w hw hne
      · rw [List.mem_singleton.mp hw]
        exact hbetter

/-- Going through the values from the left finds the best of them. -/
theorem best_foldl (hwanted : wanted ≠ .eq) (values : List Json) :
    Best wanted values (values.foldl (betterOf wanted) none) := by
  induction values using List.reverseRecOn with
  | nil => exact .nothing (by simp)
  | append_singleton values v ih =>
    rw [List.foldl_append]
    exact ih.append hwanted v

theorem foldl_betterOf_of_best {best : Json} {values : List Json}
    (h : ∀ v ∈ values, v ≠ .null → v.compare best ≠ wanted) :
    values.foldl (betterOf wanted) (some best) = some best := by
  induction values with
  | nil => rfl
  | cons v values ih =>
    have hstays : betterOf wanted (some best) v = some best := by
      by_cases hnull : v = .null
      · rw [hnull, betterOf_null]
      · rw [betterOf_some hnull, if_neg (h v List.mem_cons_self hnull)]
    rw [List.foldl_cons, hstays]
    exact ih fun w hw => h w (List.mem_cons_of_mem v hw)

/-- The best of values is one value, the one that is found from the left. -/
theorem best_iff (hwanted : wanted ≠ .eq) {values : List Json} {best : Option Json} :
    Best wanted values best ↔ values.foldl (betterOf wanted) none = best := by
  constructor
  · intro h
    cases h with
    | nothing hnulls =>
      have hfound := best_foldl hwanted values
      generalize values.foldl (betterOf wanted) none = found at hfound ⊢
      cases hfound with
      | nothing => rfl
      | first before best after heq hbest =>
        have hmem : best ∈ values := by simp [heq]
        exact absurd (hnulls best hmem) hbest
    | first before best after heq hbest hbefore hafter =>
      have hreached : betterOf wanted (before.foldl (betterOf wanted) none) best = some best := by
        have hfound := best_foldl hwanted before
        generalize before.foldl (betterOf wanted) none = found at hfound ⊢
        cases hfound with
        | nothing => exact betterOf_none hbest
        | first _ found _ hsplit hfound =>
          have hmem : found ∈ before := by simp [hsplit]
          rw [betterOf_some hbest, if_pos (hbefore found hmem hfound)]
      rw [heq, List.foldl_append, List.foldl_cons, hreached]
      exact foldl_betterOf_of_best hafter
  · rintro rfl
    exact best_foldl hwanted values

end Best

/-! ## What a summary says -/

/-- The values that documents have in a field, null where there is none. -/
def valuesIn (field : String) (docs : List Json) : List Json := docs.map (valueAt field)

/-- The numbers that documents have in a field. -/
def numbersIn (field : String) (docs : List Json) : List Binary64 := numbersOf (valuesIn field docs)

/-- What a summary says of documents, computed for itself. Sums and means are taken in binary64 from
    the left, and so are counts, which are exact up to `2 ^ 53`. -/
inductive Summary.Says (docs : List Json) : Summary → Json → Prop
  | sum (field : String) : Says docs ⟨field, .sum⟩ (.ofBinary64 (sumNumbers (numbersIn field docs)))
  | avg (field : String) : numbersIn field docs ≠ [] →
      Says docs ⟨field, .avg⟩ (.ofBinary64
        ((sumNumbers (numbersIn field docs)).div (.ofInt (numbersIn field docs).length)))
  | noAvg (field : String) : numbersIn field docs = [] → Says docs ⟨field, .avg⟩ .null
  | min (field : String) {least : Option Json} :
      Best .lt (valuesIn field docs) least → Says docs ⟨field, .min⟩ (least.getD .null)
  | max (field : String) {greatest : Option Json} :
      Best .gt (valuesIn field docs) greatest → Says docs ⟨field, .max⟩ (greatest.getD .null)
  | count (field : String) {n : UInt64} : n.toNat = min docs.length Binary64.greatestExact →
      Says docs ⟨field, .count⟩ (.ofUInt64 n)

/-- An accumulator over a field takes the values that documents have there. -/
theorem over_field (kind : AccumulatorKind) (field : String) (docs : List Json) :
    (Accumulator.mk kind (.field field)).over docs = .ok (kind.of (valuesIn field docs)) := by
  have hvalues : (docs.mapM fun doc => (Expression.field field).eval doc) =
      .ok (valuesIn field docs) := mapM_total fun doc _ => by simp only [Expression.eval]; rfl
  rw [Accumulator.over]
  simp only [hvalues]
  rfl

theorem toNat_documentCount_eq (n : Nat) :
    (documentCount n).toNat = min n Binary64.greatestExact :=
  toNat_ofNat_exact (Nat.min_le_right _ _)

section Kinds

variable {docs : List Json} {field : String} {v : Json}

theorem says_count_iff :
    Summary.Says docs ⟨field, .count⟩ v ↔ v = .ofUInt64 (documentCount docs.length) := by
  constructor
  · rintro ⟨⟩
    next n hn =>
    rw [UInt64.toNat_inj.mp (hn.trans (toNat_documentCount_eq docs.length).symm)]
  · rintro rfl
    exact .count field (toNat_documentCount_eq docs.length)

theorem says_sum_iff :
    Summary.Says docs ⟨field, .sum⟩ v ↔ v = AccumulatorKind.sum.of (valuesIn field docs) := by
  constructor
  · rintro ⟨⟩
    rfl
  · rintro rfl
    exact .sum field

theorem says_avg_iff :
    Summary.Says docs ⟨field, .avg⟩ v ↔ v = AccumulatorKind.avg.of (valuesIn field docs) := by
  rw [AccumulatorKind.of]
  simp only [List.isEmpty_iff]
  constructor
  · intro hsays
    cases hsays with
    | avg _ hsome => exact (if_neg hsome).symm
    | noAvg _ hnone => exact (if_pos hnone).symm
  · rintro rfl
    by_cases hnone : numbersIn field docs = []
    · exact if_pos hnone ▸ .noAvg field hnone
    · exact if_neg hnone ▸ .avg field hnone

theorem says_min_iff :
    Summary.Says docs ⟨field, .min⟩ v ↔ v = AccumulatorKind.min.of (valuesIn field docs) := by
  constructor
  · rintro ⟨⟩
    next least hleast =>
    rw [← (best_iff (by decide)).mp hleast]
    rfl
  · rintro rfl
    exact .min field (best_foldl (by decide) _)

theorem says_max_iff :
    Summary.Says docs ⟨field, .max⟩ v ↔ v = AccumulatorKind.max.of (valuesIn field docs) := by
  constructor
  · rintro ⟨⟩
    next greatest hgreatest =>
    rw [← (best_iff (by decide)).mp hgreatest]
    rfl
  · rintro rfl
    exact .max field (best_foldl (by decide) _)

end Kinds

/-- What a summary says of documents is what its accumulator makes of them. -/
theorem says_iff {docs : List Json} {s : Summary} {name : String} {content : Json}
    {a : Accumulator} {value : Json}
    (hfield : s.readsField = true → startsWithDollar s.selector = false)
    (hentry : s.entry? = some (name, content)) (ha : Accumulator.ofJson name content = .ok a)
    (hover : a.over docs = .ok value) (v : Json) : s.Says docs v ↔ v = value := by
  have hcontent := (entry?_eq_some.mp hentry).2
  obtain ⟨field, kind⟩ := s
  -- A summary of a field has an accumulator of its kind over the field.
  have hvalue : ∀ kind' : AccumulatorKind, (Summary.mk field kind).readsField = true →
      some (Json.single kind'.operator (Pipeline.reference field)) = some content →
        value = kind'.of (valuesIn field docs) := by
    intro kind' hreads hsame
    have hread := ofJson_accumulator kind' name (Expression.ofJson_reference (hfield hreads))
    rw [Option.some.inj hsame, ha] at hread
    rw [Except.ok.inj hread, over_field] at hover
    exact (Except.ok.inj hover).symm
  cases kind with
  | other => cases hcontent
  | count =>
    have hread := ofJson_accumulator .sum name ofJson_one
    rw [AccumulatorKind.operator, show Json.single "$sum" _ = content from Option.some.inj hcontent,
      ha] at hread
    rw [Except.ok.inj hread, over_sum_of_ones] at hover
    rw [says_count_iff, Except.ok.inj hover]
  | sum => rw [says_sum_iff, hvalue .sum rfl hcontent]
  | avg => rw [says_avg_iff, hvalue .avg rfl hcontent]
  | min => rw [says_min_iff, hvalue .min rfl hcontent]
  | max => rw [says_max_iff, hvalue .max rfl hcontent]

/-! ## What the reduction has -/

/-- What the values of a request show for a summary: what it says of the documents, and null where
    there are none. -/
def Summary.Shows (docs : List Json) (s : Summary) (v : Json) : Prop :=
  if docs = [] then v = .null else s.Says docs v

/-- No documents are no group, whatever is summarized. -/
theorem nil_of_no_documents {summaries : List Summary} (hne : summaries ≠ []) {stages : List Stage}
    {out : List Json} (hreads : Reads (Pipeline.summaryStages summaries) stages)
    (hrun : runStages stages [] = .ok out) : out = [] := by
  obtain ⟨accumulators, rfl, -⟩ := reads_summaryStages hne hreads
  rw [runStages_one, Stage.run, mapError_eq_ok] at hrun
  exact (Except.ok.inj hrun).symm

/-- The values read from the one reduction are, one for each summary that yields a value and in the
    order of the request, what each summary shows for itself. -/
theorem summaries_share_reduction {summaries : List Summary}
    (h : ∀ s ∈ summaries, s.readsField = true → startsWithDollar s.selector = false)
    (docs : List Json) :
    ∃ out, (Collection.mk docs).aggregate (Pipeline.summaryStages summaries) = .ok out ∧
      List.Forall₂ (fun s value => ∀ v, s.Shows docs v ↔ v = value) (yielding summaries)
        (Pipeline.summaryValues summaries out.head?) := by
  obtain ⟨stages, hreads, hruns⟩ := exists_reads_summaryStages h
  obtain ⟨out, hrun⟩ := hruns docs
  refine ⟨out, (aggregate_of_reads hreads).trans hrun, ?_⟩
  by_cases hdocs : docs = []
  · subst hdocs
    rw [Pipeline.summaryValues, List.forall₂_map_right_iff]
    refine forall₂_imp_of_mem (accumulatorNames_forall₂ summaries) fun s hs name hname v => ?_
    have hmem := (List.mem_filter.mp hs).1
    rw [Summary.Shows, if_pos rfl, nil_of_no_documents (List.ne_nil_of_mem hmem) hreads hrun]
    rfl
  · refine forall₂_imp_of_mem (summaryValues_over hreads hdocs hrun) ?_
    rintro s hs value ⟨name, content, a, hentry, ha, hover⟩ v
    have hmem := (List.mem_filter.mp hs).1
    rw [Summary.Shows, if_neg hdocs]
    exact says_iff (h s hmem) hentry ha hover v

/-- Seven summaries, in which a field is summed twice, one yields nothing and a count has a name
    that no field has. -/
def mixedSummaries : List Summary :=
  [⟨"a.b", .sum⟩, ⟨"c", .other⟩, ⟨"a.b", .min⟩, ⟨"$c", .count⟩, ⟨"c", .avg⟩, ⟨"a.b", .sum⟩,
    ⟨"c", .max⟩]

/-- Three documents, of which one has a number in the second field. -/
def mixedDocuments : List Json :=
  [.object [("a", .single "b" (.ofUInt64 3)), ("c", .string "x")],
    .object [("a", .single "b" (.ofInt64 (-4)))],
    .object [("a", .single "b" (.ofUInt64 6)), ("c", .ofUInt64 2)]]

/-- What the six summaries show that yield a value. -/
def mixedValues : List Json :=
  [.ofUInt64 5, .ofInt64 (-4), .ofUInt64 3, .ofUInt64 2, .ofUInt64 5, .string "x"]

theorem shows_mixedValues :
    List.Forall₂ (Summary.Shows mixedDocuments) (yielding mixedSummaries) mixedValues := by
  have hshows : ∀ {s : Summary} {v : Json}, s.Says mixedDocuments v → s.Shows mixedDocuments v :=
    fun h => (if_neg (List.cons_ne_nil _ _)).mpr h
  refine .cons (hshows (says_sum_iff.mpr ?_)) <| .cons (hshows (says_min_iff.mpr ?_)) <|
    .cons (hshows (says_count_iff.mpr ?_)) <| .cons (hshows (says_avg_iff.mpr ?_)) <|
    .cons (hshows (says_sum_iff.mpr ?_)) <| .cons (hshows (says_max_iff.mpr ?_)) .nil
  all_goals decide +kernel

/-- Values are what they are known to be if they are the only ones to do so. -/
theorem eq_of_forall₂_iff {α β : Type} {r : α → β → Prop} {as : List α} {bs cs : List β}
    (h : List.Forall₂ (fun a b => ∀ c, r a c ↔ c = b) as bs) (h' : List.Forall₂ r as cs) :
    bs = cs := by
  induction h generalizing cs with
  | nil =>
    cases h'
    rfl
  | cons hb _ ih =>
    cases h' with
    | cons hc hrest => rw [(hb _).mp hc, ih hrest]

theorem summaries_share_reduction_mixed :
    (∀ s ∈ mixedSummaries, s.readsField = true → startsWithDollar s.selector = false) ∧
      ∃ out, (Collection.mk mixedDocuments).aggregate (Pipeline.summaryStages mixedSummaries) =
          .ok out ∧
        List.Forall₂ (fun s value => ∀ v, s.Shows mixedDocuments v ↔ v = value)
          (yielding mixedSummaries) mixedValues ∧
        Pipeline.summaryValues mixedSummaries out.head? = mixedValues := by
  have hfields : ∀ s ∈ mixedSummaries, s.readsField = true →
      startsWithDollar s.selector = false := by decide
  obtain ⟨out, hout, hvalues⟩ := summaries_share_reduction hfields mixedDocuments
  have hmixed := eq_of_forall₂_iff hvalues shows_mixedValues
  exact ⟨hfields, out, hout, hmixed ▸ hvalues, hmixed⟩

end GridQuery
