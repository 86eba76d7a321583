import Mathlib
import GridQuery.Value.Order
import GridQuery.Proofs.JsonText
import GridQuery.Proofs.Order

/-!
# Texts of group keys

Values fall into one group if their key texts agree. Texts and the order of values say the same
about numbers, and nearly the same about everything else.

Results:
* `Json.keyText_number_iff`: numbers have one key text exactly if they are equal as binary64.
* `Json.keyText_eq_iff`: dates share a text within a millisecond, other values only if they are
  written alike.
* `Json.keyText_scalar_iff`: for nulls, booleans, numbers and strings, one text means equality.
-/

namespace GridQuery

open Binary64 (Finite Fits one places one_eq)

/-! ## Outcomes of arithmetic as values -/

namespace Binary64

theorem Finite.natAbs_value (x : Finite) : x.value.natAbs = x.units := by
  unfold Finite.value
  cases x.neg <;> simp

/-- A number without a fractional part is its integral part. -/
theorem Finite.value_of_isIntegral {x : Finite} (h : x.isIntegral = true) :
    x.value = x.truncate * one := by
  have hdvd : (one : Int) ∣ x.value := by
    rw [Int.natCast_dvd, x.natAbs_value]
    exact Nat.dvd_of_mod_eq_zero (by simpa [Finite.isIntegral] using h)
  rw [Finite.truncate, Int.tdiv_mul_cancel hdvd]

theorem Finite.isIntegral_congr {x y : Finite} (h : x.value = y.value) :
    x.isIntegral = y.isIntegral := by
  rw [Finite.isIntegral, Finite.isIntegral, ← x.natAbs_value, ← y.natAbs_value, h]

theorem Finite.truncate_congr {x y : Finite} (h : x.value = y.value) :
    x.truncate = y.truncate := by
  rw [Finite.truncate, Finite.truncate, h]

/-- Numbers of one value are the same number, if it is not zero. -/
theorem Finite.eq_of_value_eq {x y : Finite} (h : x.value = y.value) (hzero : x.value ≠ 0) :
    x = y := by
  have hunits : x.units = y.units := by
    rw [← x.natAbs_value, ← y.natAbs_value, h]
  obtain ⟨nx, ux, _⟩ := x
  obtain ⟨ny, uy, _⟩ := y
  simp only [Finite.value] at h hzero hunits
  subst hunits
  cases nx <;> cases ny <;> simp_all

/-- The greatest integer of 64 bits has too many binary digits for a finite number. -/
theorem Finite.truncate_ne_maxValue {x : Finite} (h : x.isIntegral = true) :
    x.truncate ≠ 2 ^ 63 - 1 := by
  intro htruncate
  have hunits : x.units = (2 ^ 63 - 1) * 2 ^ places := by
    have hvalue := x.value_of_isIntegral h
    rw [htruncate, one_eq] at hvalue
    rw [← x.natAbs_value, hvalue, Int.natAbs_mul, Int.natAbs_natCast]
    rfl
  have hlog : x.units.log2 = 62 + places := by
    have hpos : 0 < 2 ^ places := by positivity
    have hlow : 2 ^ (62 + places) ≤ (2 ^ 63 - 1) * 2 ^ places := by
      rw [Nat.pow_add]
      exact Nat.mul_le_mul_right _ (by norm_num)
    have hhigh : (2 ^ 63 - 1) * 2 ^ places < 2 ^ (62 + places + 1) := by
      rw [show 62 + places + 1 = 63 + places by omega, Nat.pow_add]
      exact Nat.mul_lt_mul_of_pos_right (by norm_num) hpos
    rw [hunits]
    exact (Nat.log2_eq_iff (by positivity)).mpr ⟨hlow, hhigh⟩
  have hfits := x.fits.2
  rw [hlog, hunits, show 62 + places - 52 = 10 + places by omega, pow_eq, Nat.pow_add] at hfits
  have hdvd : 2 ^ 10 ∣ 2 ^ 63 - 1 :=
    Nat.dvd_of_mul_dvd_mul_right (by positivity) (Nat.dvd_of_mod_eq_zero hfits)
  exact absurd hdvd (by decide)

/-- The integral parts for which an outcome becomes an integer. -/
def Finite.IsWord (x : Finite) : Prop :=
  x.isIntegral ∧ -0x8000000000000000 ≤ x.truncate ∧ x.truncate ≤ 0x8000000000000000

/-- The integer of an outcome, as far as 64 bits go, tells its integral part. -/
theorem Finite.truncate_eq_of_toInt64_eq {x y : Finite} (hx : x.IsWord) (hy : y.IsWord)
    (h : toInt64 (.finite x) = toInt64 (.finite y)) : x.truncate = y.truncate := by
  have hread : ∀ {z : Finite}, z.IsWord →
      (toInt64 (.finite z)).toInt = if z.truncate = 2 ^ 63 then 2 ^ 63 - 1 else z.truncate := by
    intro z hz
    obtain ⟨-, hlow, hhigh⟩ := hz
    simp only [toInt64, Int64.toInt_minValue, Int64.toInt_maxValue]
    rw [if_neg (by omega)]
    split_ifs with h₁ h₂ h₂
    · exact Int64.toInt_maxValue
    · omega
    · omega
    · exact Int64.toInt_ofInt_of_le (by omega) (by omega)
  have hx' := Finite.truncate_ne_maxValue hx.1
  have hy' := Finite.truncate_ne_maxValue hy.1
  have hread' := congrArg Int64.toInt h
  rw [hread hx, hread hy] at hread'
  split_ifs at hread' <;> omega

end Binary64

namespace Json

theorem ofInt64_inj {m n : Int64} : ofInt64 m = ofInt64 n ↔ m = n := by
  simp [ofInt64, Number.ofInt64, Int64.toInt_inj]

theorem ofBinary64_word {x : Finite} (h : x.IsWord) :
    ofBinary64 (.finite x) = ofInt64 (Binary64.toInt64 (.finite x)) := by
  rw [ofBinary64]
  exact if_pos h

theorem ofBinary64_float {x : Finite} (h : ¬x.IsWord) :
    ofBinary64 (.finite x) = number (.float x) := by
  rw [ofBinary64]
  exact if_neg h

/-- Outcomes become one value exactly if they are equal; the sign of zero is lost. -/
theorem ofBinary64_inj {x y : Finite} :
    ofBinary64 (.finite x) = ofBinary64 (.finite y) ↔ x.value = y.value := by
  constructor
  · intro h
    by_cases hx : x.IsWord <;> by_cases hy : y.IsWord
    · rw [ofBinary64_word hx, ofBinary64_word hy] at h
      have hinj := ofInt64_inj.mp h
      rw [Finite.value_of_isIntegral hx.1, Finite.value_of_isIntegral hy.1,
        Finite.truncate_eq_of_toInt64_eq hx hy hinj]
    · rw [ofBinary64_word hx, ofBinary64_float hy] at h
      simp [ofInt64, Number.ofInt64] at h
    · rw [ofBinary64_float hx, ofBinary64_word hy] at h
      simp [ofInt64, Number.ofInt64] at h
    · rw [ofBinary64_float hx, ofBinary64_float hy] at h
      rw [Number.float.inj (number.inj h)]
  · intro h
    have hword : x.IsWord ↔ y.IsWord := by
      rw [Finite.IsWord, Finite.IsWord, Finite.isIntegral_congr h, Finite.truncate_congr h]
    by_cases hx : x.IsWord
    · rw [ofBinary64_word hx, ofBinary64_word (hword.mp hx), Binary64.toInt64, Binary64.toInt64,
        Finite.truncate_congr h]
    · rw [ofBinary64_float hx, ofBinary64_float (fun hy => hx (hword.mpr hy))]
      have hzero : x.value ≠ 0 := by
        intro hzero
        have htruncate : x.truncate = 0 := by rw [Finite.truncate, hzero, Int.zero_tdiv]
        have hunits : x.units = 0 := by rw [← x.natAbs_value, hzero, Int.natAbs_zero]
        exact hx ⟨by simp [Finite.isIntegral, hunits], by omega, by omega⟩
      rw [Finite.eq_of_value_eq h hzero]

/-! ## What is written for a key -/

/-- The value that is written for a key that is no date. -/
def written : Json → Json
  | number n => ofBinary64 n.toBinary64
  | other => other

theorem keyText_written {v : Json} (h : v.instant? = none) : v.keyText = v.written.text := by
  unfold keyText
  rw [h]
  cases v <;> rfl

theorem keyText_date {v : Json} {x : Instant} (h : v.instant? = some x) :
    v.keyText = "date:" ++ toString x.millis := by
  unfold keyText
  rw [h]

/-- No value starts as the text of a date does. -/
theorem keyText_date_ne {v w : Json} {x : Instant} (hv : v.instant? = some x)
    (hw : w.instant? = none) : v.keyText ≠ w.keyText := by
  intro h
  rw [keyText_date hv, keyText_written hw, text] at h
  obtain ⟨c, rest, htext, -, hstart⟩ := w.written.compact_cons
  have hchars := congrArg String.toList h
  rw [htext, String.toList_ofList, String.toList_append] at hchars
  have hhead : 'd' = c := (List.cons.inj hchars).1
  rw [← hhead] at hstart
  cases hstart

theorem written_number (n : Number) :
    ∃ x, n.toBinary64 = .finite x ∧ x.value = n.units ∧
      (number n).written = ofBinary64 (.finite x) := by
  obtain ⟨x, hx⟩ := n.toBinary64_finite
  refine ⟨x, hx, (Number.units_eq hx).symm, ?_⟩
  rw [written, hx]

theorem written_number_inj {a b : Number} :
    (number a).written = (number b).written ↔ a.units = b.units := by
  obtain ⟨x, -, hx, ha⟩ := written_number a
  obtain ⟨y, -, hy, hb⟩ := written_number b
  rw [ha, hb, ofBinary64_inj, hx, hy]

/-- A finite outcome is written as a number. -/
theorem ofBinary64_finite (x : Finite) : ∃ n, ofBinary64 (.finite x) = number n := by
  by_cases hx : x.IsWord
  · exact ⟨_, ofBinary64_word hx⟩
  · exact ⟨_, ofBinary64_float hx⟩

/-- Two values are written alike if they are numbers of one value, or the same value. -/
theorem written_eq_iff {a b : Json} :
    a.written = b.written ↔
      (∃ m n, a = number m ∧ b = number n ∧ m.units = n.units) ∨ a = b := by
  constructor
  · intro h
    cases a with
    | number m =>
      cases b with
      | number n => exact Or.inl ⟨m, n, rfl, rfl, written_number_inj.mp h⟩
      | _ =>
        obtain ⟨x, -, -, hm⟩ := written_number m
        obtain ⟨n, hn⟩ := ofBinary64_finite x
        rw [hm, hn] at h
        cases h
    | _ =>
      cases b with
      | number n =>
        obtain ⟨x, -, -, hn⟩ := written_number n
        obtain ⟨m, hm⟩ := ofBinary64_finite x
        rw [hn, hm] at h
        cases h
      | _ => exact Or.inr h
  · rintro (⟨m, n, rfl, rfl, h⟩ | rfl)
    · exact written_number_inj.mpr h
    · rfl

/-! ## One text -/

/-- Numbers have one key text exactly if they are equal as binary64. -/
theorem keyText_number_iff {a b : Number} :
    (number a).keyText = (number b).keyText ↔ a.units = b.units := by
  rw [keyText_written rfl, keyText_written rfl, text_injective.eq_iff, written_number_inj]

/-- Dates have one key text within a millisecond, and two other values if they are written alike. -/
theorem keyText_eq_iff {a b : Json} :
    a.keyText = b.keyText ↔
      match a.instant?, b.instant? with
      | some x, some y => x.millis = y.millis
      | none, none => (∃ m n, a = number m ∧ b = number n ∧ m.units = n.units) ∨ a = b
      | _, _ => False := by
  cases ha : a.instant? with
  | some x =>
    cases hb : b.instant? with
    | some y =>
      simp [keyText_date ha, keyText_date hb, String.append_right_inj, Int.toString_eq_repr,
        Int.repr_inj]
    | none => simpa using keyText_date_ne ha hb
  | none =>
    cases hb : b.instant? with
    | some y => simpa using (keyText_date_ne hb ha).symm
    | none => simp only [keyText_written ha, keyText_written hb, text_injective.eq_iff,
        written_eq_iff]

/-- Values of one key text are equal, unless they are dates. -/
theorem isEqualTo_of_keyText {a b : Json} (ha : a.instant? = none) (h : a.keyText = b.keyText) :
    a.isEqualTo b = true := by
  rw [keyText_eq_iff, ha] at h
  cases hb : b.instant? with
  | some y => simp [hb] at h
  | none =>
    simp only [hb] at h
    rcases h with ⟨m, n, rfl, rfl, hunits⟩ | rfl
    · rw [isEqualTo_iff, compare_numbers, compareNumbers_eq, hunits]
      exact Std.ReflCmp.compare_self
    · exact isEqualTo_refl a

/-- A null, a boolean, a number or a string. -/
def isScalar : Json → Bool
  | null | bool _ | number _ | string _ => true
  | array _ | object _ => false

theorem instant_of_isScalar {v : Json} (h : v.isScalar = true) : v.instant? = none := by
  cases v <;> first | rfl | cases h

/-- Nulls, booleans, numbers and strings are equal exactly if they have one key text. -/
theorem keyText_scalar_iff {a b : Json} (ha : a.isScalar = true) (hb : b.isScalar = true) :
    a.keyText = b.keyText ↔ a.isEqualTo b = true := by
  refine ⟨isEqualTo_of_keyText (instant_of_isScalar ha), fun h => ?_⟩
  rw [isEqualTo_iff] at h
  have hrank : a.rank = b.rank := by
    by_contra hne
    rw [compare_of_rank_ne hne] at h
    exact hne (Nat.compare_eq_eq.mp h)
  cases alike_of_rank_eq hrank with
  | dates hx _ =>
    rw [instant_of_isScalar ha] at hx
    cases hx
  | nulls => rfl
  | bools x y =>
    rw [compare_bools, Std.LawfulEqCmp.compare_eq_iff_eq] at h
    rw [h]
  | numbers x y =>
    rw [compare_numbers, compareNumbers_eq, Std.LawfulEqCmp.compare_eq_iff_eq] at h
    exact keyText_number_iff.mpr h
  | strings x y =>
    rw [compare_strings, Std.LawfulEqCmp.compare_eq_iff_eq] at h
    rw [h]
  | arrays _ _ => cases ha
  | objects _ _ => cases ha

end Json

end GridQuery
