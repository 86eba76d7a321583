import Mathlib
import GridQuery.Proofs.Integers

/-!
# Rounding gives the nearest number

Of all finite numbers, rounding takes the one that is nearest to a count of units, and of two
equally near ones the one whose last digit is even. So rounding keeps order, but may take two
counts to one number.

Results:
* `roundsTo_of_ofUnits`: what rounding gives is the nearest number.
* `RoundsTo.value_le`: a smaller count is not rounded to a greater number.
* `RoundsTo.value_unique`: there is one nearest number, up to the sign of zero.
-/

namespace GridQuery.Binary64

/-- The number to which a count of units is rounded: no other is nearer, and where another is as
    near, this one is a multiple of twice the gap between them, so that its last digit is even. -/
structure RoundsTo (count : Int) (x : Finite) : Prop where
  closest : ∀ y : Finite, |x.value - count| ≤ |y.value - count|
  even : ∀ y : Finite, y.value ≠ x.value → |y.value - count| = |x.value - count| →
    2 * (y.value - x.value) ∣ x.value

namespace RoundsTo

variable {m n : Int} {x y : Finite}

/-- Rounding keeps order. -/
theorem value_le (h : m < n) (hx : RoundsTo m x) (hy : RoundsTo n y) : x.value ≤ y.value := by
  have hfirst := hx.closest y
  have hsecond := hy.closest x
  by_contra hless
  -- The middle of the two numbers would be at most `m` and at least `n`.
  rcases abs_cases (x.value - m) with ⟨hxm, _⟩ | ⟨hxm, _⟩ <;>
    rcases abs_cases (y.value - m) with ⟨hym, _⟩ | ⟨hym, _⟩ <;>
    rcases abs_cases (x.value - n) with ⟨hxn, _⟩ | ⟨hxn, _⟩ <;>
    rcases abs_cases (y.value - n) with ⟨hyn, _⟩ | ⟨hyn, _⟩ <;>
    omega

/-- Two numbers cannot both be multiples of twice the gap between them. -/
theorem value_unique (hx : RoundsTo n x) (hy : RoundsTo n y) : x.value = y.value := by
  by_contra hne
  have heq : |y.value - n| = |x.value - n| := le_antisymm (hy.closest x) (hx.closest y)
  have hxgap := hx.even y (Ne.symm hne) heq
  have hygap := hy.even x hne heq.symm
  obtain ⟨j, hj⟩ := hxgap
  obtain ⟨k, hk⟩ := hygap
  have hgap : (y.value - x.value) * (2 * (j + k) + 1) = 0 := by linear_combination hk - hj
  rcases Int.mul_eq_zero.mp hgap with hzero | hodd <;> omega

/-- Rounding is the same on both sides of zero. -/
theorem negate (h : RoundsTo n x) : RoundsTo (-n) x.negate := by
  have hmirror : ∀ y : Finite, |y.value - -n| = |y.negate.value - n| := by
    intro y
    rw [Finite.value_negate, ← abs_neg]
    congr 1
    omega
  have hself : |x.negate.value - -n| = |x.value - n| := by
    rw [hmirror, Finite.value_negate, Finite.value_negate, Int.neg_neg]
  refine ⟨fun y => ?_, fun y hne heq => ?_⟩
  · rw [hself, hmirror]
    exact h.closest y.negate
  · rw [Finite.value_negate] at hne ⊢
    rw [hself, hmirror] at heq
    have hgap := h.even y.negate (by rw [Finite.value_negate]; omega) heq
    rw [Finite.value_negate] at hgap
    rw [Int.dvd_neg, show 2 * (y.value - -x.value) = -(2 * (-y.value - x.value)) by ring,
      Int.neg_dvd]
    exact hgap

end RoundsTo

/-! ## Between two neighbours -/

/-- The gap between the numbers around a count of units. -/
def gap (count : Nat) : Nat := 2 ^ (count.log2 - 52)

theorem gap_pos (count : Nat) : 0 < gap count := by
  unfold gap
  positivity

theorem roundUnits_one (count : Nat) :
    roundUnits count 1 =
      (if gap count < 2 * (count % gap count) ∨
          (2 * (count % gap count) = gap count ∧ count / gap count % 2 = 1) then
        count / gap count + 1 else count / gap count) * gap count := by
  unfold roundUnits gap
  simp only [pow_eq, Nat.div_one, Nat.one_mul]
  split_ifs <;> rfl

/-- The neighbours have one binary digit before the last 52. -/
theorem two_pow_log2_le (count : Nat) (h : count ≠ 0) :
    2 ^ count.log2 ≤ count / gap count * gap count := by
  have hself : 2 ^ count.log2 ≤ count := Nat.log2_self_le h
  have hdvd : gap count ∣ 2 ^ count.log2 := Nat.pow_dvd_pow 2 (Nat.sub_le _ _)
  calc 2 ^ count.log2 = 2 ^ count.log2 / gap count * gap count := (Nat.div_mul_cancel hdvd).symm
    _ ≤ count / gap count * gap count := Nat.mul_le_mul_right _ (Nat.div_le_div_right hself)

/-- No number lies between the neighbours of a count. -/
theorem not_between {count k : Nat} (hk : Fits k) (hlow : count / gap count * gap count < k) :
    count / gap count * gap count + gap count ≤ k := by
  rcases Nat.eq_zero_or_pos count with rfl | hpos
  · have hgap : gap 0 = 1 := rfl
    rw [hgap] at hlow ⊢
    omega
  by_contra hless
  have hfirst := two_pow_log2_le count (by omega)
  have hlog : k.log2 = count.log2 := by
    refine (Nat.log2_eq_iff (by omega)).mpr ⟨by omega, ?_⟩
    -- The upper neighbour is at most the next power of two.
    have hnext : count / gap count * gap count + gap count ≤ 2 ^ (count.log2 + 1) := by
      have hdvd : gap count ∣ 2 ^ (count.log2 + 1) :=
        Nat.pow_dvd_pow 2 ((Nat.sub_le _ _).trans (Nat.le_succ _))
      obtain ⟨d, hd⟩ := hdvd
      have hbelow : count / gap count < d := by
        rw [Nat.div_lt_iff_lt_mul (gap_pos count), Nat.mul_comm, ← hd]
        exact Nat.lt_log2_self
      calc count / gap count * gap count + gap count = (count / gap count + 1) * gap count := by
            ring
        _ ≤ d * gap count := Nat.mul_le_mul_right _ hbelow
        _ = 2 ^ (count.log2 + 1) := by rw [Nat.mul_comm, ← hd]
    omega
  have hdvd : gap count ∣ k := by
    have hzero := hk.2
    rw [hlog, pow_eq] at hzero
    exact Nat.dvd_of_mod_eq_zero hzero
  obtain ⟨d, rfl⟩ := hdvd
  have hlow' : count / gap count < d := by
    rw [Nat.mul_comm (gap count)] at hlow
    exact Nat.lt_of_mul_lt_mul_right hlow
  have hle : (count / gap count + 1) * gap count ≤ d * gap count := Nat.mul_le_mul_right _ hlow'
  rw [Nat.add_mul, Nat.one_mul, Nat.mul_comm d] at hle
  omega

/-- A finite number is not between the neighbours of a count. -/
theorem Finite.le_or_le (y : Finite) (count : Nat) :
    y.value ≤ (count / gap count * gap count : Nat) ∨
      (count / gap count * gap count + gap count : Nat) ≤ y.value := by
  have hunits : y.value ≤ y.units := by
    rw [← y.natAbs_value]
    exact Int.le_natAbs
  rcases Nat.lt_or_ge (count / gap count * gap count) y.units with hlow | hle
  · cases hneg : y.neg with
    | true =>
      left
      rw [Finite.value, hneg, if_pos rfl]
      omega
    | false =>
      right
      rw [Finite.value, hneg, if_neg Bool.false_ne_true]
      exact_mod_cast not_between y.fits hlow
  · left
    omega

/-- The nearer neighbour is taken, and in the middle the even one. -/
theorem roundUnits_cases (count : Nat) :
    (roundUnits count 1 = count / gap count * gap count ∧ 2 * (count % gap count) ≤ gap count ∧
        (2 * (count % gap count) = gap count → 2 ∣ count / gap count)) ∨
      (roundUnits count 1 = count / gap count * gap count + gap count ∧
        gap count ≤ 2 * (count % gap count) ∧
        (2 * (count % gap count) = gap count → 2 ∣ count / gap count + 1)) := by
  rw [roundUnits_one]
  split_ifs with h
  · exact .inr ⟨by ring, by omega, by omega⟩
  · exact .inl ⟨rfl, by omega, by omega⟩

/-- A count without a sign is rounded to the nearest number. -/
theorem roundsTo_natCast {count : Nat} (h : Fits (roundUnits count 1)) :
    RoundsTo count ⟨false, roundUnits count 1, h⟩ := by
  have hvalue : (⟨false, roundUnits count 1, h⟩ : Finite).value = roundUnits count 1 := rfl
  have hcount : count / gap count * gap count + count % gap count = count := Nat.div_add_mod' _ _
  have hrest := Nat.mod_lt count (gap_pos count)
  have hround := roundUnits_cases count
  constructor
  · intro y
    rw [hvalue]
    have hy := y.le_or_le count
    generalize count / gap count * gap count = low at hcount hround hy
    rcases abs_cases ((roundUnits count 1 : Int) - count) with ⟨hr, _⟩ | ⟨hr, _⟩ <;>
      rcases abs_cases (y.value - count) with ⟨hd, _⟩ | ⟨hd, _⟩ <;>
      omega
  · intro y hne htie
    rw [hvalue] at hne htie ⊢
    have hy := y.le_or_le count
    -- A tie is one with the other neighbour, so the count is in the middle.
    rcases hround with ⟨hdown, hhalf, heven⟩ | ⟨hup, hhalf, heven⟩
    · have hother : y.value = (count / gap count * gap count + gap count : Nat) ∧
          2 * (count % gap count) = gap count := by
        generalize count / gap count * gap count = low at hcount hdown hy ⊢
        rcases abs_cases ((roundUnits count 1 : Int) - count) with ⟨hr, _⟩ | ⟨hr, _⟩ <;>
          rcases abs_cases (y.value - count) with ⟨hd, _⟩ | ⟨hd, _⟩ <;>
          omega
      obtain ⟨c, hc⟩ := heven hother.2
      rw [hother.1, hdown, hc]
      exact ⟨c, by push_cast; ring⟩
    · have hother : y.value = (count / gap count * gap count : Nat) ∧
          2 * (count % gap count) = gap count := by
        generalize count / gap count * gap count = low at hcount hup hy ⊢
        rcases abs_cases ((roundUnits count 1 : Int) - count) with ⟨hr, _⟩ | ⟨hr, _⟩ <;>
          rcases abs_cases (y.value - count) with ⟨hd, _⟩ | ⟨hd, _⟩ <;>
          omega
      obtain ⟨c, hc⟩ := heven hother.2
      have hnext : count / gap count * gap count + gap count = 2 * c * gap count := by
        rw [← hc]
        ring
      rw [hother.1, hup, hnext]
      refine ⟨-c, ?_⟩
      have hnext' : ((count / gap count * gap count : Nat) : Int) + gap count =
          2 * c * gap count := by exact_mod_cast hnext
      push_cast at hnext' ⊢
      linear_combination (2 * (c : Int)) * hnext'

/-- Rounding gives the nearest number. -/
theorem roundsTo_of_ofUnits {count : Int} {x : Finite} (h : ofUnits count = .finite x) :
    RoundsTo count x := by
  unfold ofUnits ofQuotient at h
  split_ifs at h with hfits
  obtain rfl := Binary64.finite.inj h
  have hround := roundsTo_natCast hfits
  by_cases hneg : count < 0
  · have hcount : count = -(count.natAbs : Int) := by omega
    have hmirror := hround.negate
    rw [← hcount] at hmirror
    simpa [Finite.negate, hneg] using hmirror
  · have hcount : count = (count.natAbs : Int) := by omega
    rw [← hcount] at hround
    simpa [hneg] using hround

end GridQuery.Binary64
