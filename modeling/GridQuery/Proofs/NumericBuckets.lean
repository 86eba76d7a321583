import Mathlib
import GridQuery.Proofs.Groups
import GridQuery.Proofs.Integers

/-!
# Buckets of integers

A numeric interval takes a number down to a multiple of its width by taking off the remainder, which
has the sign of the number. So the key goes toward zero: an integer below zero that is no multiple
lies below its key, and the bucket of zero reaches to both sides.

Results:
* `difference_remainder`: what is left of an integer when its remainder is taken off.
* `inBucket_iff`: each integer lies in one bucket.
* `numeric_key_iff`: the key is that of the bucket, and it is rounded down if the integer is not
  below zero or is a multiple.
-/

namespace GridQuery

open Collection (aggregate_eq_ok aggregate_of_reads)
open Expression (arithmetic difference)
open Pipeline (groupKey keyField)
open Binary64 (greatestExact isInteger_ofInt)

/-! ## Buckets -/

/-- The integers of the bucket of a key: as many as the width from a key above zero on, as many down
    from a key below zero, and those nearer to zero than the width for zero. -/
def InBucket (w k v : Int) : Prop :=
  w ∣ k ∧ (0 < k → k ≤ v ∧ v < k + w) ∧ (k < 0 → k - w < v ∧ v ≤ k) ∧
    (k = 0 → -w < v ∧ v < w)

theorem natAbs_towardZero_le {v : Int} {n : Nat} (hv : v.natAbs ≤ n) (w : Int) :
    (w * v.tdiv w).natAbs ≤ n := by
  rw [Int.natAbs_mul, Int.natAbs_tdiv]
  exact (Nat.mul_div_le _ _).trans hv

/-- The multiple toward zero and what is left of the integer. -/
theorem towardZero_spec {w : Int} (hw : 0 < w) (v : Int) :
    (0 ≤ v → 0 ≤ w * v.tdiv w ∧ w * v.tdiv w ≤ v ∧ v < w * v.tdiv w + w) ∧
      (v ≤ 0 → w * v.tdiv w ≤ 0 ∧ w * v.tdiv w - w < v ∧ v ≤ w * v.tdiv w) := by
  have hsplit := Int.mul_tdiv_add_tmod v w
  have hless := Int.natAbs_tmod v w
  have hlt := Nat.mod_lt v.natAbs (show 0 < w.natAbs by omega)
  constructor
  · intro hv
    have hquotient := Int.mul_nonneg hw.le (Int.tdiv_nonneg hv hw.le)
    have hrest := Int.tmod_nonneg w hv
    omega
  · intro hv
    have hquotient := Int.mul_nonneg hw.le (Int.tdiv_nonneg (show 0 ≤ -v by omega) hw.le)
    have hrest := Int.tmod_nonneg w (show 0 ≤ -v by omega)
    rw [Int.neg_tdiv, Int.mul_neg] at hquotient
    rw [Int.neg_tmod] at hrest
    omega

/-- Each integer lies in one bucket, that of its multiple toward zero. -/
theorem inBucket_iff {w : Int} (hw : 0 < w) {k v : Int} : InBucket w k v ↔ k = w * v.tdiv w := by
  obtain ⟨habove, hbelow⟩ := towardZero_spec hw v
  have hdvd : w ∣ w * v.tdiv w := Int.dvd_mul_right w _
  generalize w * v.tdiv w = multiple at habove hbelow hdvd
  constructor
  · rintro ⟨hmultiple, hpos, hneg, hzero⟩
    -- Two multiples that are less than the width apart are one.
    have hnear : (k - multiple).natAbs < w.natAbs := by omega
    have hsame := Int.eq_zero_of_dvd_of_natAbs_lt_natAbs (Int.dvd_sub hmultiple hdvd) hnear
    omega
  · rintro rfl
    refine ⟨hdvd, fun hpos => ?_, fun hneg => ?_, fun hzero => ?_⟩ <;> omega

/-- The key is no more than the integer if the integer is not below zero or is a multiple. -/
theorem towardZero_le_iff {w : Int} (hw : 0 < w) (v : Int) :
    w * v.tdiv w ≤ v ∧ v < w * v.tdiv w + w ↔ 0 ≤ v ∨ w ∣ v := by
  obtain ⟨habove, hbelow⟩ := towardZero_spec hw v
  constructor
  · rintro ⟨hle, hlt⟩
    by_cases hv : 0 ≤ v
    · exact Or.inl hv
    · have heq : w * v.tdiv w = v := by omega
      exact Or.inr (heq ▸ Int.dvd_mul_right w _)
  · rintro (hv | hdvd)
    · exact (habove hv).2
    · rw [Int.mul_tdiv_cancel_of_dvd hdvd]
      omega

/-! ## Keys -/

/-- What is left of an integer when its remainder is taken off. -/
theorem difference_remainder {value width : Number} {v w : Int}
    (hvalue : value.toBinary64.IsInteger v) (hwidth : width.toBinary64.IsInteger w) (hw : w ≠ 0)
    (hv : v.natAbs ≤ greatestExact) (hexact : w.natAbs ≤ greatestExact) :
    difference (.number value) (arithmetic .mod (.number value) (.number width)) =
      .ok (.ofInt64 (Int64.ofInt (w * v.tdiv w))) := by
  have hrest : (v.tmod w).natAbs ≤ greatestExact := by
    rw [Int.natAbs_tmod]
    exact (Nat.mod_le _ _).trans hv
  have hmultiple : v - v.tmod w = w * v.tdiv w := by
    have := Int.mul_tdiv_add_tmod v w
    omega
  have hkey := natAbs_towardZero_le hv w
  have hmod : arithmetic .mod (.number value) (.number width) =
      .ofInt64 (Int64.ofInt (v.tmod w)) := by
    simp only [arithmetic, Json.binary64?, hwidth.isZero hw, Bool.false_eq_true, if_false]
    exact Json.ofBinary64_isInteger (hvalue.rem hwidth hw hexact) hrest
  have hread : (Number.ofInt64 (Int64.ofInt (v.tmod w))).toBinary64.IsInteger (v.tmod w) := by
    rw [Number.ofInt64, Number.toBinary64, toInt_ofInt_exact hrest]
    exact isInteger_ofInt hrest
  rw [hmod]
  simp only [difference, Json.ofInt64, Json.instant?, arithmetic, Json.binary64?]
  rw [Json.ofBinary64_isInteger (hvalue.sub hread (hmultiple ▸ hkey)) (hmultiple ▸ hkey), hmultiple]
  rfl

/-- The key stages of a numeric interval run on a document and give it an integer as key. -/
def Keyed (selector : String) (width : Number) (level : Nat) (offset : Int64) (doc : Json)
    (k : Int64) : Prop :=
  ∃ later, (Collection.mk [doc]).aggregate
      (groupKey selector (some (.numeric width)) level offset).stages = .ok [later] ∧
    later.resolve? (keyField level) = some (.ofInt64 k)

section Keyed

variable {selector : String} {value width : Number} {level : Nat} {offset : Int64} {doc : Json}
  {v w : Int}

theorem keyed_iff {stages : List Stage} {names : List String}
    {reading : Json → Except DateOverflow Json}
    (hreads : Reads (groupKey selector (some (.numeric width)) level offset).stages stages)
    (hcomputes : Computes stages names (keyField level) reading) (hdoc : doc.isObject = true)
    {k : Int64} : Keyed selector width level offset doc k ↔ reading doc = .ok (.ofInt64 k) := by
  rw [Keyed, aggregate_of_reads hreads]
  cases hreading : reading doc with
  | error e =>
    rw [hcomputes.error doc e hdoc hreading]
    constructor
    · rintro ⟨later, hrun, -⟩
      cases hrun
    · intro h
      cases h
  | ok key =>
    obtain ⟨later, hrun, -, hkey⟩ := hcomputes.ok doc key hdoc hreading
    rw [hrun]
    constructor
    · rintro ⟨_, ⟨⟩, hread⟩
      rw [Option.some.inj (hkey.symm.trans hread)]
    · intro h
      exact ⟨later, rfl, Except.ok.inj h ▸ hkey⟩

theorem width?_of_isInteger (hwidth : width.toBinary64.IsInteger w) (hw : 0 < w) :
    (GroupInterval.numeric width).width? = some width := by
  obtain ⟨x, hx, hvalue⟩ := hwidth
  have hpos : 0 < x.value := hvalue ▸ Int.mul_pos hw (by exact_mod_cast Binary64.one_pos)
  rw [GroupInterval.width?, hx, Binary64.isPositive, if_pos (decide_eq_true hpos)]

/-- The key of an integer is that of its bucket. -/
theorem keyed_iff_inBucket (hselector : startsWithDollar selector = false)
    (hdoc : doc.isObject = true) (hread : valueAt selector doc = .number value)
    (hvalue : value.units = v * Binary64.one) (hwidth : width.units = w * Binary64.one)
    (hw : 0 < w) (hv : v.natAbs ≤ greatestExact) (hexact : w.natAbs ≤ greatestExact) {k : Int64} :
    Keyed selector width level offset doc k ↔ InBucket w k.toInt v := by
  have hwidth' := Number.isInteger_of_units hwidth
  have hsome := width?_of_isInteger hwidth' hw
  have hbucketed : (GroupInterval.numeric width).isBucketed = true := by
    rw [GroupInterval.isBucketed, hsome]
    rfl
  have hkey := difference_remainder (Number.isInteger_of_units hvalue) hwidth' hw.ne' hv hexact
  have hreading : bucketReading (.numeric width) offset (valueAt selector doc) =
      .ok (.ofInt64 (Int64.ofInt (w * v.tdiv w))) := by
    rw [bucketReading, hsome, hread]
    exact hkey
  have hbound := natAbs_towardZero_le hv w
  obtain ⟨stages, hreads, hcomputes⟩ := computes_keyStages hselector hbucketed level offset
  rw [keyed_iff hreads hcomputes hdoc, ← valueAt, hreading, inBucket_iff hw]
  constructor
  · intro h
    rw [← Json.ofInt64_inj.mp (Except.ok.inj h), toInt_ofInt_exact hbound]
  · intro h
    rw [← h, Int64.ofInt_toInt]

/-- Nothing is taken off a document, not even off one that is a date. -/
theorem difference_document (hdoc : doc.isObject = true) (width : Json) :
    difference doc (arithmetic .mod doc width) = .ok .null := by
  obtain ⟨entries, rfl⟩ : ∃ entries, doc = .object entries := by
    cases doc with
    | object entries => exact ⟨entries, rfl⟩
    | _ => cases hdoc
  have hnone : arithmetic .mod (.object entries) width = .null := rfl
  rw [hnone, difference]
  cases (Json.object entries).instant? <;> rfl

/-- A selector that starts with a dollar sign names no field, and gives no integer. -/
theorem not_keyed_of_dollar (hselector : startsWithDollar selector = true)
    (hdoc : doc.isObject = true) (hwidth : width.units = w * Binary64.one) (hw : 0 < w)
    (k : Int64) : ¬Keyed selector width level offset doc k := by
  have hsome := width?_of_isInteger (Number.isInteger_of_units hwidth) hw
  have hstages : (groupKey selector (some (.numeric width)) level offset).stages =
      [Pipeline.addField (keyField level) (Pipeline.binary "$subtract"
        (Pipeline.reference selector)
        (Pipeline.binary "$mod" (Pipeline.reference selector) (.number width)))] := by
    simp only [groupKey, Option.bind_some, hsome]
  intro hkeyed
  -- Stages that run have been read, so the selector is the variable of the document.
  obtain ⟨e, he⟩ : ∃ e, Expression.ofJson (Pipeline.reference selector) = .ok e := by
    obtain ⟨later, hrun, -⟩ := hkeyed
    rw [hstages] at hrun
    obtain ⟨stages, hreads, -⟩ := aggregate_eq_ok.mp hrun
    obtain ⟨stage, _, hstage, -⟩ := mapM_cons_eq_ok.mp hreads
    obtain ⟨_, hbinary⟩ := ofJson_addField_eq_ok hstage
    exact ofJson_binary_eq_ok .subtract hbinary
  obtain ⟨rfl, -⟩ := ofJson_reference_of_dollar hselector he
  have hread := Expression.ofJson_binary .subtract he
    (Expression.ofJson_binary .mod he (Expression.ofJson_number width))
  have hcomputes := computes_addFields (Pipeline.hasNoPoint_keyField level)
    (e := .binary .subtract .document (.binary .mod .document (.literal (.number width)))) (by simp)
    fun doc value h => isKeyValue_multiple h
  rw [keyed_iff (hstages ▸ reads_one (ofJson_addField _ hread)) hcomputes hdoc] at hkeyed
  have hnull := (difference_document hdoc (.number width)).symm.trans hkeyed
  cases Except.ok.inj hnull

/-- The key of an integer is that of its bucket, which lies on the side of zero; it is the integer
    rounded down to a multiple of the width exactly if the integer is not below zero or is such a
    multiple itself. -/
theorem numeric_key_iff (hvalue : value.units = v * Binary64.one)
    (hwidth : width.units = w * Binary64.one) (hw : 0 < w) (hv : v.natAbs ≤ greatestExact)
    (hexact : w.natAbs ≤ greatestExact) (hdoc : doc.isObject = true)
    (hread : valueAt selector doc = .number value) (level : Nat) (offset : Int64) :
    (startsWithDollar selector = false → ∃ k, Keyed selector width level offset doc k) ∧
      (∀ k : Int64, Keyed selector width level offset doc k ↔
        startsWithDollar selector = false ∧ InBucket w k.toInt v) ∧
      ((∃ k : Int64, Keyed selector width level offset doc k ∧
          w ∣ k.toInt ∧ k.toInt ≤ v ∧ v < k.toInt + w) ↔
        startsWithDollar selector = false ∧ (0 ≤ v ∨ w ∣ v)) := by
  have hiff : ∀ k : Int64, Keyed selector width level offset doc k ↔
      startsWithDollar selector = false ∧ InBucket w k.toInt v := by
    intro k
    cases hselector : startsWithDollar selector with
    | false =>
      rw [keyed_iff_inBucket hselector hdoc hread hvalue hwidth hw hv hexact]
      simp
    | true =>
      have hnone : ¬Keyed selector width level offset doc k :=
        not_keyed_of_dollar hselector hdoc hwidth hw k
      simp [hnone]
  have hword := toInt_ofInt_exact (natAbs_towardZero_le hv w)
  have hkey : startsWithDollar selector = false →
      Keyed selector width level offset doc (Int64.ofInt (w * v.tdiv w)) := fun hselector =>
    (hiff _).mpr ⟨hselector, (inBucket_iff hw).mpr hword⟩
  refine ⟨fun hselector => ⟨_, hkey hselector⟩, hiff, ?_⟩
  rw [← towardZero_le_iff hw v]
  constructor
  · rintro ⟨k, hkeyed, -, hdown⟩
    obtain ⟨hselector, hbucket⟩ := (hiff k).mp hkeyed
    exact ⟨hselector, (inBucket_iff hw).mp hbucket ▸ hdown⟩
  · rintro ⟨hselector, hdown⟩
    refine ⟨_, hkey hselector, ?_⟩
    rw [hword]
    exact ⟨Int.dvd_mul_right w _, hdown⟩

end Keyed

/-- The width ten. -/
def ten : Number := .int 10 (by decide)

theorem units_ten : ten.units = 10 * Binary64.one := Number.units_int _ (by decide)

/-- A document with an integer. -/
def measured (n : Int) (h : InWordRange n) : Json := .single "v" (.number (.int n h))

/-- Seventeen lies in the bucket of ten. -/
theorem numeric_key_of_seventeen :
    (∃ k, Keyed "v" ten 0 0 (measured 17 (by decide)) k) ∧
      ∀ k : Int64, Keyed "v" ten 0 0 (measured 17 (by decide)) k ↔
        InBucket 10 k.toInt 17 := by
  have hseventeen := Number.units_int (n := 17) (by decide) (by decide)
  obtain ⟨hexists, hkeyed, -⟩ := @numeric_key_iff "v" _ ten (measured 17 (by decide)) 17 10
    hseventeen units_ten (by decide) (by decide) (by decide) rfl rfl 0 0
  refine ⟨hexists rfl, fun k => ?_⟩
  rw [hkeyed]
  exact and_iff_right rfl

/-- Seven below zero has the key zero, which is above it. -/
theorem numeric_key_of_below_zero :
    Keyed "v" ten 0 0 (measured (-7) (by decide)) 0 ∧
      ¬∃ k : Int64, Keyed "v" ten 0 0 (measured (-7) (by decide)) k ∧
        10 ∣ k.toInt ∧ k.toInt ≤ -7 ∧ -7 < k.toInt + 10 := by
  have hseven := Number.units_int (n := -7) (by decide) (by decide)
  have hkeyed : ∀ {k : Int64}, Keyed "v" ten 0 0 (measured (-7) (by decide)) k ↔
      InBucket 10 k.toInt (-7) :=
    keyed_iff_inBucket rfl rfl rfl hseven units_ten (by decide) (by decide) (by decide)
  refine ⟨hkeyed.mpr ((inBucket_iff (by decide)).mpr rfl), ?_⟩
  rintro ⟨k, hkey, -, hle, -⟩
  rw [(inBucket_iff (by decide)).mp (hkeyed.mp hkey)] at hle
  exact absurd hle (by decide)

end GridQuery
