import Mathlib
import GridQuery.Proofs.Records
import GridQuery.Request.Options

/-!
# The fields of a request and of its parts

A request and its sort fields, group levels and summaries are records. No two fields of a record set
the same part of it, and null under a field that may be left out leaves the record as it starts.

Results:
* `SortField.regular`, `GroupLevel.regular`, `Summary.regular`, `LoadOptions.regular`: what these
  records keep of an object depends neither on the order of its entries nor on nulls.
* `optional_of_mem_fields`: every part of a request may be left out.
-/

namespace GridQuery

open Decoder (RecordField Regular commute_of_set)

/-! ## Parts of a request -/

namespace SortField

/-- The fields of a sort field, in their order. -/
def fields : List (RecordField SortField) :=
  [ .mandatory "selector" .string fun v s => { s with selector := v },
    .optional "desc" (.orDefault false .bool) fun v s => { s with desc := v } ]

theorem decoder_eq_record : decoder = .record "SortInfo" fields ⟨"", false⟩ := rfl

theorem regular : Regular fields ⟨"", false⟩ where
  names := by decide
  commute := by
    simp only [fields, List.pairwise_cons, List.forall_mem_cons, List.Pairwise.nil]
    repeat' apply And.intro
    all_goals first | exact commute_of_set fun _ _ _ => rfl | simp
  absent := by
    simp only [fields, List.forall_mem_cons]
    refine ⟨fun hreq => ?_, fun _ => ⟨_, rfl, rfl⟩, by simp⟩
    cases hreq

end SortField

namespace GroupLevel

/-- The fields of a group level, in their order. -/
def fields : List (RecordField GroupLevel) :=
  [ .mandatory "selector" .string fun v s => { s with selector := v },
    .optional "desc" (.orDefault false .bool) fun v s => { s with desc := v },
    .optional "isExpanded" (.orDefault false .bool) fun v s => { s with isExpanded := v },
    .optional "groupInterval" (.nullable GroupInterval.decoder)
      fun v s => { s with interval := v } ]

theorem decoder_eq_record : decoder = .record "GroupInfo" fields ⟨"", false, false, none⟩ := rfl

theorem regular : Regular fields ⟨"", false, false, none⟩ where
  names := by decide
  commute := by
    simp only [fields, List.pairwise_cons, List.forall_mem_cons, List.Pairwise.nil]
    repeat' apply And.intro
    all_goals first | exact commute_of_set fun _ _ _ => rfl | simp
  absent := by
    simp only [fields, List.forall_mem_cons]
    refine ⟨fun hreq => ?_, fun _ => ⟨_, rfl, rfl⟩, fun _ => ⟨_, rfl, rfl⟩,
      fun _ => ⟨_, rfl, rfl⟩, by simp⟩
    cases hreq

end GroupLevel

namespace Summary

/-- The fields of a summary, in their order. -/
def fields : List (RecordField Summary) :=
  [ .optional "selector" (.orDefault "" .string) fun v s => { s with selector := v },
    .mandatory "summaryType" SummaryKind.decoder fun v s => { s with kind := v } ]

theorem decoder_eq_record : decoder = .record "SummaryInfo" fields ⟨"", .other⟩ := rfl

theorem regular : Regular fields ⟨"", .other⟩ where
  names := by decide
  commute := by
    simp only [fields, List.pairwise_cons, List.forall_mem_cons, List.Pairwise.nil]
    repeat' apply And.intro
    all_goals first | exact commute_of_set fun _ _ _ => rfl | simp
  absent := by
    simp only [fields, List.forall_mem_cons]
    refine ⟨fun _ => ⟨_, rfl, rfl⟩, fun hreq => ?_, by simp⟩
    cases hreq

end Summary

/-! ## Requests -/

namespace LoadOptions

theorem optional_of_mem_fields : ∀ field ∈ fields, field.required = false := by
  simp [fields, RecordField.optional]

theorem regular : Regular fields {} where
  names := by decide
  commute := by
    simp only [fields, List.pairwise_cons, List.forall_mem_cons, List.Pairwise.nil]
    repeat' apply And.intro
    all_goals first | exact commute_of_set fun _ _ _ => rfl | simp
  absent := by
    simp only [fields, List.forall_mem_cons]
    repeat' apply And.intro
    all_goals first | exact fun _ => ⟨_, rfl, rfl⟩ | simp

end LoadOptions

end GridQuery
