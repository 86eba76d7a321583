import Mathlib
import GridQuery.Proofs.KeyText

/-!
# Exact integers

Integers up to `2 ^ 53` are binary64 numbers, so their differences and remainders are exact, and as
values they are 64-bit integers again.

Results:
* `IsInteger.sub`, `IsInteger.rem`: arithmetic of integers is exact.
* `Json.ofBinary64_isInteger`: an integer that comes out of arithmetic is a 64-bit integer.
-/

namespace GridQuery

namespace Binary64

/-- The greatest integer up to which all integers are binary64 numbers. -/
def greatestExact : Nat := 2 ^ 53

theorem one_pos : 0 < one := by
  rw [one_eq]
  positivity

theorem fits_mul_one {n : Nat} (h : n ≤ greatestExact) : Fits (n * one) := by
  rw [one_eq]
  exact fits_mul_pow h (by rw [places_eq]; norm_num)

/-- The number is an integer; zero may have either sign. -/
def IsInteger (f : Binary64) (n : Int) : Prop := ∃ x, f = .finite x ∧ x.value = n * one

theorem Finite.value_negate (x : Finite) : x.negate.value = -x.value := by
  obtain ⟨neg, units, fits⟩ := x
  cases neg with
  | true => exact (Int.neg_neg _).symm
  | false => rfl

theorem Finite.units_of_value {x : Finite} {n : Int} (h : x.value = n * one) :
    x.units = n.natAbs * one := by
  rw [← x.natAbs_value, h, Int.natAbs_mul, Int.natAbs_natCast]

theorem Finite.neg_of_value {x : Finite} {n : Int} (h : x.value = n * one) (hn : n ≠ 0) :
    x.neg = decide (n < 0) := by
  have hpos : (0 : Int) < one := by exact_mod_cast one_pos
  have hunits : (0 : Int) ≤ x.units := Int.natCast_nonneg _
  rw [value] at h
  by_cases hneg : n < 0
  · have hvalue : n * (one : Int) < 0 := Int.mul_neg_of_neg_of_pos hneg hpos
    rw [decide_eq_true hneg]
    by_contra hsign
    rw [if_neg hsign] at h
    omega
  · have hvalue : 0 < n * (one : Int) := Int.mul_pos (by omega) hpos
    rw [decide_eq_false hneg, ← Bool.not_eq_true]
    intro hsign
    rw [if_pos hsign] at h
    omega

/-- A count of ones under a sign. -/
theorem isInteger_ofQuotient {m : Nat} (h : m ≤ greatestExact) (neg : Bool) :
    (ofQuotient neg (m * one) 1).IsInteger (if neg then -(m : Int) else m) := by
  have hround : roundUnits (m * one) 1 = m * one := by
    have hexact := roundUnits_of_fits (fits_mul_one h) Nat.one_pos
    rwa [Nat.mul_one] at hexact
  rw [ofQuotient, dif_pos (by rw [hround]; exact fits_mul_one h)]
  refine ⟨_, rfl, ?_⟩
  rw [Finite.value]
  simp only [hround]
  cases neg with
  | true =>
    rw [if_pos rfl, if_pos rfl, Int.neg_mul]
    push_cast
    rfl
  | false =>
    rw [if_neg Bool.false_ne_true, if_neg Bool.false_ne_true]
    push_cast
    rfl

/-- An integer is rounded to itself. -/
theorem isInteger_ofInt {n : Int} (h : n.natAbs ≤ greatestExact) : (ofInt n).IsInteger n := by
  have hpos : (0 : Int) < one := by exact_mod_cast one_pos
  have hsign : decide (n * (one : Int) < 0) = decide (n < 0) := by
    rw [decide_eq_decide]
    exact ⟨fun h => neg_of_mul_neg_left h hpos.le, fun h => Int.mul_neg_of_neg_of_pos h hpos⟩
  have hinteger := isInteger_ofQuotient h (decide (n < 0))
  have hvalue : (if decide (n < 0) then -(n.natAbs : Int) else n.natAbs) = n := by
    split_ifs with hneg <;> rw [decide_eq_true_iff] at hneg <;> omega
  rw [ofInt, ofUnits, Int.natAbs_mul, Int.natAbs_natCast, hsign]
  rwa [hvalue] at hinteger

/-- A number that is an integer other than zero is no zero. -/
theorem IsInteger.isZero {f : Binary64} {n : Int} (h : f.IsInteger n) (hn : n ≠ 0) :
    f.isZero = false := by
  obtain ⟨x, rfl, hx⟩ := h
  have hunits : 0 < x.units := by
    rw [Finite.units_of_value hx]
    exact Nat.mul_pos (Int.natAbs_pos.mpr hn) one_pos
  rw [Binary64.isZero, Finite.isZero, beq_eq_false_iff_ne]
  omega

/-- Differences of integers are exact. -/
theorem IsInteger.sub {f g : Binary64} {a b : Int} (hf : f.IsInteger a) (hg : g.IsInteger b)
    (h : (a - b).natAbs ≤ greatestExact) : (f.sub g).IsInteger (a - b) := by
  obtain ⟨x, rfl, hx⟩ := hf
  obtain ⟨y, rfl, hy⟩ := hg
  have hsum : x.value + y.negate.value = (a - b) * one := by
    rw [Finite.value_negate, hx, hy, Int.sub_mul, Int.sub_eq_add_neg]
  rw [Binary64.sub, negate, add, hsum]
  split_ifs with hzero
  · refine ⟨_, rfl, hzero ▸ ?_⟩
    cases (x.neg && y.negate.neg) <;> rfl
  · exact isInteger_ofInt h

/-- The remainder is that of the division toward zero. -/
theorem IsInteger.rem {f g : Binary64} {a b : Int} (hf : f.IsInteger a) (hg : g.IsInteger b)
    (hb : b ≠ 0) (h : b.natAbs ≤ greatestExact) : (f.rem g).IsInteger (a.tmod b) := by
  obtain ⟨x, rfl, hx⟩ := hf
  obtain ⟨y, rfl, hy⟩ := hg
  have hnonzero : y.isZero = false := IsInteger.isZero ⟨y, rfl, hy⟩ hb
  have hless : a.natAbs % b.natAbs ≤ greatestExact :=
    (Nat.mod_lt _ (Int.natAbs_pos.mpr hb)).le.trans h
  have hinteger := isInteger_ofQuotient hless x.neg
  have hvalue : (if x.neg then -((a.natAbs % b.natAbs : Nat) : Int)
      else (a.natAbs % b.natAbs : Nat)) = a.tmod b := by
    by_cases ha : a = 0
    · subst ha
      simp
    · rw [Finite.neg_of_value hx ha, ← Int.natAbs_tmod]
      split_ifs with hneg <;> rw [decide_eq_true_iff] at hneg
      · have hsign := Int.tmod_nonneg b (show 0 ≤ -a by omega)
        rw [Int.neg_tmod] at hsign
        omega
      · have hsign := Int.tmod_nonneg b (show 0 ≤ a by omega)
        omega
  simp only [Binary64.rem, hnonzero, Bool.false_eq_true, if_false]
  rw [Finite.units_of_value hx, Finite.units_of_value hy, Nat.mul_mod_mul_right]
  exact hvalue ▸ hinteger

end Binary64

open Binary64 (IsInteger greatestExact isInteger_ofInt)

/-- A 64-bit integer in the exact range. -/
theorem toInt_ofInt_exact {n : Int} (h : n.natAbs ≤ greatestExact) : (Int64.ofInt n).toInt = n := by
  have hbound : n.natAbs ≤ 2 ^ 53 := h
  exact Int64.toInt_ofInt_of_le (by omega) (by omega)

namespace Binary64

theorem IsInteger.truncate {x : Finite} {n : Int} (h : x.value = n * one) : x.truncate = n := by
  rw [Finite.truncate, h]
  exact Int.mul_tdiv_cancel _ (by exact_mod_cast one_pos.ne')

/-- An integer in the exact range as a 64-bit integer. -/
theorem IsInteger.toInt64 {f : Binary64} {n : Int} (hf : f.IsInteger n)
    (h : n.natAbs ≤ greatestExact) : f.toInt64 = Int64.ofInt n := by
  obtain ⟨x, rfl, hx⟩ := hf
  have hbound : n.natAbs ≤ 2 ^ 53 := h
  rw [Binary64.toInt64, IsInteger.truncate hx, Int64.toInt_minValue, Int64.toInt_maxValue,
    if_neg (by omega), if_neg (by omega)]

end Binary64

/-- An integer in the exact range is a 64-bit integer as a value. -/
theorem Json.ofBinary64_isInteger {f : Binary64} {n : Int} (hf : f.IsInteger n)
    (h : n.natAbs ≤ greatestExact) : Json.ofBinary64 f = .ofInt64 (Int64.ofInt n) := by
  have hword := hf.toInt64 h
  obtain ⟨x, rfl, hx⟩ := hf
  have hbound : n.natAbs ≤ 2 ^ 53 := h
  have htruncate := IsInteger.truncate hx
  have hintegral : x.isIntegral = true := by
    rw [Binary64.Finite.isIntegral, Binary64.Finite.units_of_value hx, Nat.mul_mod_left]
    rfl
  rw [Json.ofBinary64_word ⟨hintegral, by omega, by omega⟩, hword]

/-- A JSON number is an integer if it is one as binary64. -/
theorem Number.isInteger_of_units {n : Number} {v : Int} (h : n.units = v * Binary64.one) :
    n.toBinary64.IsInteger v := by
  obtain ⟨x, hx⟩ := n.toBinary64_finite
  exact ⟨x, hx, Number.units_eq hx ▸ h⟩

/-- A JSON integer in the exact range as a number of units. -/
theorem Number.units_int {n : Int} (h : InWordRange n) (hexact : n.natAbs ≤ greatestExact) :
    (Number.int n h).units = n * Binary64.one := by
  obtain ⟨x, hx, hvalue⟩ := isInteger_ofInt hexact
  rw [Number.units_eq (n := .int n h) hx, hvalue]

end GridQuery
