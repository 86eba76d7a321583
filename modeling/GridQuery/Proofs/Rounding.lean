import Mathlib
import GridQuery.Json.Basic

/-!
# Rounding to representable counts

What rounding a quotient of units gives, and why no integer of 64 bits is lost beyond the finite
numbers.

Results:
* `roundUnits_scale`: the rounded count depends on the fraction only, not on how it is written.
* `roundUnits_of_fits`: a representable count is kept.
* `fits_roundUnits`: below the largest finite number, the rounded count is representable.
* `Number.toBinary64_finite`: every JSON number is a finite binary64 number.
-/

namespace GridQuery.Binary64

/-! ## Counts with few digits -/

theorem pow_eq (e : Nat) : Nat.pow 2 e = 2 ^ e := rfl

theorem one_eq : one = 2 ^ places := pow_eq places

theorem places_eq : places = 1074 := by
  unfold places
  rfl

theorem log2_lt_of_lt {n k : Nat} (hn : n ≠ 0) (h : n < 2 ^ k) : n.log2 < k :=
  (Nat.log2_lt hn).mpr h

theorem log2_sub_le {d e : Nat} (hd : d < 2 ^ 53) : (d * 2 ^ e).log2 - 52 ≤ e := by
  rcases Nat.eq_zero_or_pos d with rfl | hpos
  · simp
  · have hne : d * 2 ^ e ≠ 0 := by positivity
    have hlt : d * 2 ^ e < 2 ^ (53 + e) := by
      rw [pow_add]
      exact Nat.mul_lt_mul_of_pos_right hd (by positivity)
    have := log2_lt_of_lt hne hlt
    omega

/-- At most 53 binary digits followed by zeros, and not too many of them. -/
theorem fits_mul_pow {d e : Nat} (hd : d ≤ 2 ^ 53) (he : 53 + e < 2098) : Fits (d * 2 ^ e) := by
  unfold Fits
  rw [pow_eq]
  have hbound : d * 2 ^ e < 2 ^ 2098 := by
    calc d * 2 ^ e ≤ 2 ^ 53 * 2 ^ e := Nat.mul_le_mul_right _ hd
      _ = 2 ^ (53 + e) := (pow_add _ _ _).symm
      _ < 2 ^ 2098 := pow_lt_pow_right₀ (by norm_num) he
  constructor
  · rcases Nat.eq_zero_or_pos (d * 2 ^ e) with hz | hpos
    · rw [hz]; decide
    · exact log2_lt_of_lt (by omega) hbound
  · apply Nat.mod_eq_zero_of_dvd
    rcases Nat.lt_or_eq_of_le hd with hlt | rfl
    · exact (Nat.pow_dvd_pow 2 (log2_sub_le hlt)).trans (Nat.dvd_mul_left _ _)
    · rw [← pow_add, Nat.log2_two_pow]
      exact Nat.pow_dvd_pow 2 (by omega)

/-! ## The rounded count -/

/-- Rounding keeps at most 53 digits. -/
theorem roundUnits_eq_mul (num den : Nat) :
    ∃ d, d ≤ 2 ^ 53 ∧ roundUnits num den = d * 2 ^ ((num / den).log2 - 52) := by
  have hq : num / (den * 2 ^ ((num / den).log2 - 52)) < 2 ^ 53 := by
    rw [← Nat.div_div_eq_div_mul]
    generalize num / den = q
    rw [Nat.div_lt_iff_lt_mul (by positivity)]
    calc q < 2 ^ (q.log2 + 1) := Nat.lt_log2_self
      _ ≤ 2 ^ (53 + (q.log2 - 52)) := Nat.pow_le_pow_right (by norm_num) (by omega)
      _ = 2 ^ 53 * 2 ^ (q.log2 - 52) := pow_add _ _ _
  unfold roundUnits
  simp only [pow_eq]
  split_ifs with h
  · exact ⟨_, hq, rfl⟩
  · exact ⟨_, hq.le, rfl⟩

theorem fits_roundUnits {num den : Nat} (h : num / den < 2 ^ 2097) :
    Fits (roundUnits num den) := by
  obtain ⟨d, hd, e⟩ := roundUnits_eq_mul num den
  rw [e]
  apply fits_mul_pow hd
  rcases Nat.eq_zero_or_pos (num / den) with hz | hpos
  · rw [hz]; decide
  · have := log2_lt_of_lt (by omega) h
    omega

theorem roundUnits_of_fits {units : Nat} (h : Fits units) {k : Nat} (hk : 0 < k) :
    roundUnits (units * k) k = units := by
  have hdiv : 2 ^ (units.log2 - 52) ∣ units := Nat.dvd_of_mod_eq_zero h.2
  unfold roundUnits
  simp only [pow_eq, Nat.mul_div_cancel _ hk]
  generalize 2 ^ (units.log2 - 52) = step at hdiv
  obtain ⟨d, rfl⟩ := hdiv
  rcases Nat.eq_zero_or_pos step with rfl | hstep
  · simp
  · have hprod : 0 < k * step := by positivity
    have hrest : step * d * k % (k * step) = 0 := by
      rw [show step * d * k = k * step * d by ring, Nat.mul_mod_right]
    have hdigits : step * d * k / (k * step) = d := by
      rw [show step * d * k = k * step * d by ring, Nat.mul_div_cancel_left _ hprod]
    rw [hrest, hdigits, if_neg (by omega), Nat.mul_comm]

/-- A fraction may be expanded. -/
theorem roundUnits_expand (num den : Nat) {k : Nat} (hk : 0 < k) :
    roundUnits (num * k) (den * k) = roundUnits num den := by
  unfold roundUnits
  simp only [pow_eq, Nat.mul_div_mul_right _ _ hk]
  generalize 2 ^ ((num / den).log2 - 52) = step
  rw [show den * k * step = den * step * k by ring, Nat.mul_div_mul_right _ _ hk,
    Nat.mul_mod_mul_right]
  have hlt : den * step * k < 2 * (num % (den * step) * k) ↔
      den * step < 2 * (num % (den * step)) := by
    rw [← Nat.mul_assoc, Nat.mul_lt_mul_right hk]
  have heq : 2 * (num % (den * step) * k) = den * step * k ↔
      2 * (num % (den * step)) = den * step := by
    rw [← Nat.mul_assoc, Nat.mul_left_inj (by omega)]
  simp only [hlt, heq]

theorem roundUnits_scale {num den num' den' : Nat} (hden : 0 < den) (hden' : 0 < den')
    (h : num * den' = num' * den) : roundUnits num den = roundUnits num' den' := by
  rw [← roundUnits_expand num den hden', h, Nat.mul_comm den den',
    roundUnits_expand num' den' hden]

end Binary64

/-! ## JSON numbers -/

theorem Binary64.ofInt_finite {n : Int} (h : InWordRange n) :
    ∃ x, Binary64.ofInt n = .finite x := by
  have hsmall : (n * (Binary64.one : Nat)).natAbs / 1 < 2 ^ 2097 := by
    rw [Nat.div_one, Int.natAbs_mul, Int.natAbs_natCast]
    have hn : n.natAbs ≤ 2 ^ 64 := by
      have := h.1
      have := h.2
      omega
    rw [Binary64.one_eq]
    calc n.natAbs * 2 ^ Binary64.places ≤ 2 ^ 64 * 2 ^ Binary64.places :=
          Nat.mul_le_mul_right _ hn
      _ = 2 ^ (64 + Binary64.places) := (pow_add _ _ _).symm
      _ < 2 ^ 2097 := pow_lt_pow_right₀ (by norm_num) (by rw [Binary64.places_eq]; omega)
  have hfits := Binary64.fits_roundUnits hsmall
  simp only [Binary64.ofInt, Binary64.ofUnits, Binary64.ofQuotient]
  rw [dif_pos hfits]
  exact ⟨_, rfl⟩

/-- No JSON number is infinite or without value as binary64. -/
theorem Number.toBinary64_finite (n : Number) : ∃ x, n.toBinary64 = .finite x := by
  cases n with
  | int n h => exact Binary64.ofInt_finite h
  | float x => exact ⟨x, rfl⟩

end GridQuery
