import Mathlib
import GridQuery.Collection.Stage
import GridQuery.Proofs.Integers

/-!
# Counting by sums

A group counts its documents by a sum of ones. The sum is taken in binary64, where it goes up by one
as long as it is exact and then stays where it is.

Results:
* `sumNumbers_ones`: the sum of so many ones.
* `count_of_ones`: such a sum as a value is a 64-bit integer, however many ones there are.
-/

namespace GridQuery

namespace Binary64

/-- An integer in the exact range keeps its value. -/
theorem ofInt_natCast {n : Nat} (h : n ≤ greatestExact) :
    ofInt n = .finite ⟨false, n * one, fits_mul_one h⟩ := by
  have hround : roundUnits (n * one) 1 = n * one := by
    have hexact := roundUnits_of_fits (fits_mul_one h) Nat.one_pos
    rwa [Nat.mul_one] at hexact
  have habs : ((n : Int) * (one : Nat)).natAbs = n * one := by
    rw [Int.natAbs_mul, Int.natAbs_natCast, Int.natAbs_natCast]
  have hsign : decide (((n : Int) * (one : Nat)) < 0) = false := by
    rw [decide_eq_false_iff_not, not_lt]
    positivity
  simp only [ofInt, ofUnits, ofQuotient, habs, hsign, hround]
  rw [dif_pos (fits_mul_one h)]

/-- Beyond the exact range one more is nothing more: the tie goes to the even number. -/
theorem ofInt_beyond : ofInt (greatestExact + 1 : Nat) = ofInt greatestExact := by
  decide +kernel

/-- One more, as far as it is exact. -/
theorem add_one {n : Nat} (h : n ≤ greatestExact) :
    (ofInt n).add (ofInt 1) = ofInt (min (n + 1) greatestExact : Nat) := by
  have hone : ofInt 1 = .finite ⟨false, 1 * one, fits_mul_one (by decide)⟩ :=
    ofInt_natCast (n := 1) (by decide)
  have hpos := one_pos
  have hsum : (ofInt n).add (ofInt 1) = ofInt (n + 1 : Nat) := by
    rw [ofInt_natCast h, hone, add, Finite.value, Finite.value]
    simp only [Bool.false_eq_true, if_false]
    rw [if_neg (by positivity), ofInt]
    congr 1
    push_cast
    ring
  rw [hsum]
  rcases Nat.lt_or_eq_of_le h with hlt | rfl
  · rw [Nat.min_eq_left hlt]
  · rw [Nat.min_eq_right (Nat.le_succ _)]
    exact ofInt_beyond

end Binary64

open Binary64 (greatestExact)

/-- A 64-bit integer is read back from its value. -/
theorem Json.uint64?_ofUInt64 (n : UInt64) : (Json.ofUInt64 n).uint64? = some n := by
  simp [Json.ofUInt64, Json.uint64?, Number.ofUInt64, Number.toUInt64?]

theorem sumNumbers_ones (n : Nat) :
    sumNumbers (List.replicate n (.ofInt 1)) = .ofInt (min n greatestExact : Nat) := by
  induction n with
  | zero => decide +kernel
  | succ n ih =>
    rw [List.replicate_succ', sumNumbers, List.foldl_append]
    rw [sumNumbers] at ih
    rw [ih, List.foldl_cons, List.foldl_nil, Binary64.add_one (Nat.min_le_right _ _)]
    congr 2
    omega

/-- The count of so many documents, as a sum gives it. -/
def documentCount (n : Nat) : UInt64 := UInt64.ofNat (min n greatestExact)

theorem toNat_ofNat_exact {n : Nat} (h : n ≤ greatestExact) : (UInt64.ofNat n).toNat = n :=
  UInt64.toNat_ofNat_of_lt' (h.trans_lt (by decide))

theorem toNat_documentCount {n : Nat} (h : n ≤ greatestExact) : (documentCount n).toNat = n := by
  rw [documentCount, Nat.min_eq_left h, toNat_ofNat_exact h]

/-- A natural number in the exact range is a 64-bit integer as a value. -/
theorem ofBinary64_ofInt {n : Nat} (h : n ≤ greatestExact) :
    Json.ofBinary64 (.ofInt n) = .ofUInt64 (UInt64.ofNat n) := by
  have hexact : (n : Int).natAbs ≤ greatestExact := by rwa [Int.natAbs_natCast]
  rw [Json.ofBinary64_isInteger (Binary64.isInteger_ofInt hexact) hexact]
  simp only [Json.ofInt64, Json.ofUInt64, Number.ofInt64, Number.ofUInt64,
    toInt_ofInt_exact hexact, toNat_ofNat_exact h]

/-- The sum of ones as a value. -/
theorem count_of_ones (n : Nat) :
    AccumulatorKind.sum.of (List.replicate n (.ofInt64 1)) = .ofUInt64 (documentCount n) := by
  have hnumbers : numbersOf (List.replicate n (.ofInt64 1)) =
      List.replicate n (Binary64.ofInt 1) := by
    rw [numbersOf, List.filterMap_replicate]
    rfl
  rw [AccumulatorKind.of, hnumbers, sumNumbers_ones, ofBinary64_ofInt (Nat.min_le_right _ _),
    documentCount]

end GridQuery
