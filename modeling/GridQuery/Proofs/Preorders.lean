import Mathlib
import GridQuery.Proofs.FlatRows

/-!
# Comparisons that a sort can rely on

A stable sort needs a comparison that holds any two things against each other: a thing is level with
itself, the comparison the other way round gives the outcome the other way round, and what is not
after passes on. The order of values is such a comparison, and so is the order of documents by
fields, whatever the fields and their directions.

Results:
* `IsTotalPreorder.of_transCmp`: the classes of the library say the same.
* `Stage.run_sort`: a sort stage is a stable sort by its fields.
* `compare_isTotalPreorder`: the order of values, equality and the order by fields.
-/

namespace GridQuery

open Std (OrientedCmp ReflCmp TransCmp)

/-- A comparison that is total and transitive; what is level may differ. -/
structure IsTotalPreorder {α : Type} (order : α → α → Ordering) : Prop where
  self : ∀ a, order a a = .eq
  swap : ∀ a b, order b a = (order a b).swap
  trans : ∀ a b c, order a b ≠ .gt → order b c ≠ .gt → order a c ≠ .gt

namespace IsTotalPreorder

variable {α : Type} {order : α → α → Ordering}

theorem of_transCmp [TransCmp order] : IsTotalPreorder order where
  self _ := ReflCmp.compare_self
  swap _ _ := OrientedCmp.eq_swap
  trans _ _ _ hab hbc :=
    Ordering.isLE_iff_ne_gt.mp (TransCmp.isLE_trans (Ordering.isLE_iff_ne_gt.mpr hab)
      (Ordering.isLE_iff_ne_gt.mpr hbc))

/-- Being level is an equivalence. -/
theorem equivalence (h : IsTotalPreorder order) : Equivalence fun a b => order a b = .eq where
  refl := h.self
  symm {a b} hab := by
    rw [h.swap a b, hab]
    rfl
  trans {a b c} hab hbc := by
    -- Neither way round does the third come after the first.
    have hac := h.trans a b c (by simp [hab]) (by simp [hbc])
    have hca := h.trans c b a (by simp [h.swap b c, hbc]) (by simp [h.swap a b, hab])
    rw [h.swap a c] at hca
    cases hcmp : order a c with
    | lt => rw [hcmp] at hca; exact absurd rfl hca
    | eq => rfl
    | gt => exact absurd hcmp hac

end IsTotalPreorder

/-- A sort stage sorts by its fields and leaves documents that they do not tell apart as they
    come. -/
theorem Stage.run_sort (fields : List (String × Bool)) (docs : List Json) :
    ∃ sorted, (Stage.sort fields).run docs = .ok sorted ∧
      IsStableSort (compareBy fields) docs sorted :=
  ⟨_, rfl, isStableSort_mergeSort fields docs⟩

/-- The order of all values is a total preorder, so that equality is an equivalence, and the order of
    documents by fields is one too, by which a sort stage is a stable sort. -/
theorem compare_isTotalPreorder :
    IsTotalPreorder Json.compare ∧
      Equivalence (fun a b : Json => a.isEqualTo b = true) ∧
      ∀ fields : List (String × Bool), IsTotalPreorder (compareBy fields) ∧
        ∀ docs, ∃ sorted, (Stage.sort fields).run docs = .ok sorted ∧
          IsStableSort (compareBy fields) docs sorted := by
  have hvalues : IsTotalPreorder Json.compare := .of_transCmp
  refine ⟨hvalues, ?_, fun fields => ⟨.of_transCmp, Stage.run_sort fields⟩⟩
  simpa only [Json.isEqualTo_iff] using hvalues.equivalence

end GridQuery
