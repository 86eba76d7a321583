import Mathlib
import GridQuery.Collection.Condition
import GridQuery.Proofs.KeyText

/-!
# Conditions on one field

A predicate of one clause asks for the value of one field. A condition that is no row of operators
asks whether the value equals it.

Results:
* `satisfies_single`: a predicate of one field is a condition on its value.
* `equalsOperand_scalar`: nulls, booleans, numbers and strings match if they have one key text.
-/

namespace GridQuery

theorem satisfies_single {field : String} (h : startsWithDollar field = false) (doc key : Json) :
    doc.satisfies (.single field key) = meets (doc.resolve? field) key := by
  have hand : field ≠ "$and" := by rintro rfl; cases h
  have hor : field ≠ "$or" := by rintro rfl; cases h
  have hnor : field ≠ "$nor" := by rintro rfl; cases h
  simp only [Json.single, Json.satisfies, Json.satisfiesClauses, if_neg hand, if_neg hor,
    if_neg hnor, h, Bool.false_eq_true, if_false]
  cases meets (doc.resolve? field) key with
  | error e => rfl
  | ok holds => cases holds <;> rfl

theorem operators_of_isScalar {key : Json} (h : key.isScalar = true) : operators? key = none := by
  cases key <;> first | rfl | cases h

theorem meets_of_no_operators {key : Json} (h : operators? key = none) (value : Option Json) :
    meets value key = .ok (equalsOperand value key) := by
  rw [meets, h]

theorem isEqualTo_null (key : Json) : Json.null.isEqualTo key = key.isNull := by
  rw [Bool.eq_iff_iff, Json.isEqualTo_iff]
  by_cases hrank : Json.null.rank = key.rank
  · cases Json.alike_of_rank_eq hrank with
    | dates hx _ => cases hx
    | nulls => simp [Json.isNull]
  · rw [Json.compare_of_rank_ne hrank, Nat.compare_eq_eq]
    refine ⟨fun h => absurd h hrank, fun h => ?_⟩
    cases key <;> first | exact absurd rfl hrank | cases h

theorem equalsOperand_of_not_array {value : Json} (h : value.isArray = false) (key : Json) :
    equalsOperand (some value) key = value.isEqualTo key := by
  unfold equalsOperand
  split
  · next heq => cases heq
  · next items heq =>
    cases heq
    cases h
  · next heq => rw [Option.some.inj heq]

/-- Of nulls, booleans, numbers and strings, those of one text match. -/
theorem equalsOperand_scalar {value : Option Json} {key : Json}
    (hvalue : (value.getD .null).isScalar = true) (hkey : key.isScalar = true) :
    equalsOperand value key = decide ((value.getD .null).keyText = key.keyText) := by
  rw [Bool.eq_iff_iff, decide_eq_true_eq, Json.keyText_scalar_iff hvalue hkey]
  cases value with
  | none =>
    rw [Option.getD_none, isEqualTo_null]
    rfl
  | some v =>
    have harray : v.isArray = false := by
      cases v <;> first | rfl | cases hvalue
    rw [equalsOperand_of_not_array harray, Option.getD_some]

end GridQuery
