import Mathlib
import GridQuery.Proofs.Nearest
import GridQuery.Proofs.GroupTable
import GridQuery.Proofs.TextComparisons

/-!
# Which integers are told apart

Integers are compared as binary64, so that two integers which are rounded to one number are equal
for everything that compares values: the order, a filter, the narrowing to a group and grouping.
All other integers are compared as integers. Up to `2 ^ 53` no two integers are rounded to one
number.

Results:
* `Json.compare_integers`: the order of integers, and where it fails.
* `Json.keyText_integers_iff`: the integers with one key text.
* `tellsApart_of_exact`: up to `2 ^ 53` all integers are told apart.
* `tellsApart_iff`: two integers are told apart everywhere exactly if they are not rounded to one
  number.
-/

namespace GridQuery

open Binary64 (Finite RoundsTo greatestExact one one_pos roundsTo_of_ofUnits)
open Collection (aggregate_of_reads)
open Pipeline (filterStages narrowingStages)

/-! ## Integers as numbers -/

/-- An integer as a value. -/
def Json.integer (n : Int) (h : InWordRange n) : Json := .number (.int n h)

/-- Two integers that are rounded to one binary64 number. -/
def Merge (a b : Int) : Prop := ∃ x : Finite, RoundsTo (a * one) x ∧ RoundsTo (b * one) x

theorem Merge.symm {a b : Int} (h : Merge a b) : Merge b a := by
  obtain ⟨x, ha, hb⟩ := h
  exact ⟨x, hb, ha⟩

theorem Binary64.RoundsTo.congr {count : Int} {x y : Finite} (h : RoundsTo count x)
    (hvalue : y.value = x.value) : RoundsTo count y := by
  obtain ⟨hclosest, heven⟩ := h
  rw [← hvalue] at hclosest heven
  exact ⟨hclosest, heven⟩

/-- An integer is compared as the number to which it is rounded. -/
theorem Number.exists_roundsTo (n : Int) (h : InWordRange n) :
    ∃ x : Finite, (Number.int n h).units = x.value ∧ RoundsTo (n * one) x := by
  obtain ⟨x, hx⟩ := Binary64.ofInt_finite h
  exact ⟨x, Number.units_eq (n := .int n h) hx, roundsTo_of_ofUnits hx⟩

section

variable {a b : Int} (ha : InWordRange a) (hb : InWordRange b)

theorem Number.units_int_eq_iff :
    (Number.int a ha).units = (Number.int b hb).units ↔ Merge a b := by
  obtain ⟨x, hax, hx⟩ := Number.exists_roundsTo a ha
  obtain ⟨y, hby, hy⟩ := Number.exists_roundsTo b hb
  rw [hax, hby]
  constructor
  · intro heq
    exact ⟨x, hx, hy.congr heq⟩
  · rintro ⟨z, haz, hbz⟩
    rw [hx.value_unique haz, hy.value_unique hbz]

/-- The order of two integers that are not rounded to one number. -/
theorem Number.units_int_lt (h : a < b) (hapart : ¬Merge a b) :
    (Number.int a ha).units < (Number.int b hb).units := by
  have hne := mt (Number.units_int_eq_iff ha hb).mp hapart
  obtain ⟨x, hax, hx⟩ := Number.exists_roundsTo a ha
  obtain ⟨y, hby, hy⟩ := Number.exists_roundsTo b hb
  have hscaled : a * one < b * one := Int.mul_lt_mul_of_pos_right h (by exact_mod_cast one_pos)
  have hle := RoundsTo.value_le hscaled hx hy
  omega

namespace Json

theorem isEqualTo_integers_iff : (integer a ha).isEqualTo (integer b hb) = true ↔ Merge a b := by
  rw [isEqualTo_iff, integer, integer, compare_numbers, compareNumbers_eq,
    Std.LawfulEqCmp.compare_eq_iff_eq, Number.units_int_eq_iff]

/-- Two integers have one key text exactly if they are rounded to one number. -/
theorem keyText_integers_iff : (integer a ha).keyText = (integer b hb).keyText ↔ Merge a b := by
  rw [integer, integer, keyText_number_iff, Number.units_int_eq_iff]

/-- Integers that are rounded to one number are equal, and all others are in their order. -/
theorem compare_integers :
    (Merge a b → compare (integer a ha) (integer b hb) = .eq) ∧
      (¬Merge a b → compare (integer a ha) (integer b hb) = Ord.compare a b) := by
  refine ⟨fun h => isEqualTo_iff.mp ((isEqualTo_integers_iff ha hb).mpr h), fun hapart => ?_⟩
  rw [integer, integer, compare_numbers, compareNumbers_eq]
  rcases lt_trichotomy a b with hlt | rfl | hgt
  · have hunits := Number.units_int_lt ha hb hlt hapart
    rw [compare_lt_iff_lt.mpr hunits, compare_lt_iff_lt.mpr hlt]
  · simp
  · have hunits := Number.units_int_lt hb ha hgt (mt Merge.symm hapart)
    rw [compare_gt_iff_gt.mpr hunits, compare_gt_iff_gt.mpr hgt]

end Json

end

/-- An integer in the exact range is a number of its own. -/
theorem not_merge_of_exact {a b : Int} (ha : a.natAbs ≤ greatestExact)
    (hb : b.natAbs ≤ greatestExact) (hne : a ≠ b) : ¬Merge a b := by
  have hrange : ∀ n : Int, n.natAbs ≤ greatestExact → InWordRange n := by
    intro n hn
    rw [greatestExact] at hn
    exact ⟨by omega, by omega⟩
  rw [← Number.units_int_eq_iff (hrange a ha) (hrange b hb), Number.units_int _ ha,
    Number.units_int _ hb]
  intro h
  exact hne (Int.eq_of_mul_eq_mul_right (by exact_mod_cast one_pos.ne') h)

/-! ## What compares values -/

section

variable {a b : Int} {ha : InWordRange a} {hb : InWordRange b}

/-- Of a document with one integer, asking for another one is asking whether the two merge. -/
theorem equalsOperand_integers :
    equalsOperand (some (.integer a ha)) (.integer b hb) = true ↔ Merge a b := by
  rw [equalsOperand_of_not_array rfl, Json.isEqualTo_integers_iff]

/-- A filter for an integer keeps of the documents with another one those that merge with it. -/
theorem filterStages_integer {name : String} (hname : Filter.isFieldName name = true)
    (hpart : PartField.ofName? name = none) (docs : List Json) (offset : Int64) :
    ∃ kept, (Collection.mk docs).aggregate
        (filterStages (.array [.string name, .string "=", .integer b hb]) offset) = .ok kept ∧
      ∀ doc ∈ docs, doc.resolve? name = some (.integer a ha) → (doc ∈ kept ↔ Merge a b) := by
  have hreads := reads_comparison hname hpart .eq (.integer b hb) offset
  refine ⟨docs.filter fun doc => equalsOperand (doc.resolve? name) (.integer b hb), ?_, ?_⟩
  · show (Collection.mk docs).aggregate (filterStages (.array [.string name,
      .string Comparison.eq.token, .integer b hb]) offset) = _
    rw [aggregate_of_reads hreads]
    apply run_matchStages (Filter.startsWithDollar_of_isFieldName hname)
    intro doc _
    rw [meets_condition]
    rfl
  · intro doc hdoc hvalue
    rw [List.mem_filter, and_iff_right hdoc, hvalue, equalsOperand_integers]

/-- Narrowing to an integer keeps of the documents with another one those that merge with it. -/
theorem narrowingStages_integer {selector : String}
    (hselector : startsWithDollar selector = false) {interval : Option GroupInterval}
    (hvalues : interval.any GroupInterval.isBucketed = false) (level : Nat) (offset : Int64)
    (docs : List Json) :
    ∃ kept, (Collection.mk docs).aggregate
        (narrowingStages selector interval level offset (.integer b hb)) = .ok kept ∧
      ∀ doc ∈ docs, doc.resolve? selector = some (.integer a ha) → (doc ∈ kept ↔ Merge a b) := by
  have hreads : Reads (narrowingStages selector interval level offset (.integer b hb)) _ :=
    reads_narrowingStages_values hvalues level offset (.integer b hb)
  refine ⟨docs.filter fun doc => equalsOperand (doc.resolve? selector) (.integer b hb), ?_, ?_⟩
  · rw [aggregate_of_reads hreads]
    apply run_matchStages hselector
    intro doc _
    exact meets_of_no_operators (operators_of_isScalar rfl) _
  · intro doc hdoc hvalue
    rw [List.mem_filter, and_iff_right hdoc, hvalue, equalsOperand_integers]

/-- Two documents with integers for keys come into one group exactly if the integers merge. -/
theorem length_groupDocuments_integers {key : Expression}
    {accumulators : List (String × Accumulator)} {first second : Json} {groups : List Json}
    (hfirst : key.eval first = .ok (.integer a ha))
    (hsecond : key.eval second = .ok (.integer b hb))
    (h : groupDocuments key accumulators [first, second] = .ok groups) :
    groups.length = 1 ∧ Merge a b ∨ groups.length = 2 ∧ ¬Merge a b := by
  obtain ⟨keys, hkeys, hgroups⟩ := groupDocuments_iff.mp h
  have hvalues : keys = [.integer a ha, .integer b hb] := by
    obtain ⟨_, rest, hkey, hrest, rfl⟩ := mapM_cons_eq_ok.mp hkeys
    obtain ⟨_, none, hkey', hnone, rfl⟩ := mapM_cons_eq_ok.mp hrest
    obtain rfl : [] = none := Except.ok.inj hnone
    rw [← Except.ok.inj (hfirst.symm.trans hkey), ← Except.ok.inj (hsecond.symm.trans hkey')]
  have hlength := (mapM_eq_ok.mp hgroups).length_eq
  rw [hvalues] at hlength
  by_cases hmerge : Merge a b
  · left
    have htext := (Json.keyText_integers_iff ha hb).mpr hmerge
    refine ⟨?_, hmerge⟩
    rw [← hlength]
    simp [firstAppearances, htext]
  · right
    have htext := (Json.keyText_integers_iff ha hb).not.mpr hmerge
    refine ⟨?_, hmerge⟩
    rw [← hlength]
    simp [firstAppearances, Ne.symm htext]

end

/-! ## Telling integers apart -/

/-- All that compares values tells two integers apart: they are in their order, and a filter for
    one, the narrowing to one and grouping find the other only if it is the same integer. -/
structure TellsApart (a b : Int) (ha : InWordRange a) (hb : InWordRange b) : Prop where
  compared : Json.compare (.integer a ha) (.integer b hb) = Ord.compare a b
  filtered : ∀ name docs offset, Filter.isFieldName name = true →
    PartField.ofName? name = none → ∃ kept, (Collection.mk docs).aggregate
        (filterStages (.array [.string name, .string "=", .integer b hb]) offset) = .ok kept ∧
      ∀ doc ∈ docs, doc.resolve? name = some (.integer a ha) → (doc ∈ kept ↔ a = b)
  narrowed : ∀ selector interval level offset docs, startsWithDollar selector = false →
    Option.any GroupInterval.isBucketed interval = false → ∃ kept, (Collection.mk docs).aggregate
        (narrowingStages selector interval level offset (.integer b hb)) = .ok kept ∧
      ∀ doc ∈ docs, doc.resolve? selector = some (.integer a ha) → (doc ∈ kept ↔ a = b)
  keyed : (Json.integer a ha).keyText = (Json.integer b hb).keyText ↔ a = b
  grouped : ∀ (key : Expression) accumulators first second groups,
    key.eval first = .ok (.integer a ha) → key.eval second = .ok (.integer b hb) →
    groupDocuments key accumulators [first, second] = .ok groups →
    groups.length = if a = b then 1 else 2

theorem tellsApart_of_merge_iff {a b : Int} (ha : InWordRange a) (hb : InWordRange b)
    (h : Merge a b ↔ a = b) : TellsApart a b ha hb where
  compared := by
    obtain ⟨hmerged, hapart⟩ := Json.compare_integers ha hb
    by_cases hmerge : Merge a b
    · rw [hmerged hmerge, h.mp hmerge]
      exact Std.ReflCmp.compare_self.symm
    · exact hapart hmerge
  filtered name docs offset hname hpart := by
    rw [← h]
    exact filterStages_integer hname hpart docs offset
  narrowed selector interval level offset docs hselector hvalues := by
    rw [← h]
    exact narrowingStages_integer hselector hvalues level offset docs
  keyed := (Json.keyText_integers_iff ha hb).trans h
  grouped key accumulators first second groups hfirst hsecond hgroups := by
    rcases length_groupDocuments_integers hfirst hsecond hgroups with ⟨hlength, hmerge⟩ |
      ⟨hlength, hmerge⟩
    · rw [hlength, if_pos (h.mp hmerge)]
    · rw [hlength, if_neg fun heq => hmerge (h.mpr heq)]

theorem merge_self {a : Int} (ha : InWordRange a) : Merge a a :=
  (Number.units_int_eq_iff ha ha).mp rfl

/-- Up to `2 ^ 53` all integers are told apart. -/
theorem tellsApart_of_exact {a b : Int} (ha : a.natAbs ≤ greatestExact)
    (hb : b.natAbs ≤ greatestExact) (ha' : InWordRange a) (hb' : InWordRange b) :
    TellsApart a b ha' hb' := by
  apply tellsApart_of_merge_iff
  refine ⟨fun hmerge => ?_, fun heq => heq ▸ merge_self ha'⟩
  by_contra hne
  exact not_merge_of_exact ha hb hne hmerge

/-- Two integers are told apart exactly if they are the same or are not rounded to one number. -/
theorem tellsApart_iff {a b : Int} (ha : InWordRange a) (hb : InWordRange b) :
    TellsApart a b ha hb ↔ a = b ∨ ¬Merge a b := by
  constructor
  · intro h
    by_cases heq : a = b
    · exact .inl heq
    · right
      intro hmerge
      have hkeyed := h.keyed.mp ((Json.keyText_integers_iff ha hb).mpr hmerge)
      exact heq hkeyed
  · intro h
    apply tellsApart_of_merge_iff
    constructor
    · intro hmerge
      exact h.resolve_right (not_not.mpr hmerge)
    · intro heq
      exact heq ▸ merge_self ha

/-- Beyond `2 ^ 53` the even integers are still numbers of their own for a while. -/
theorem tellsApart_even :
    ∃ (ha : InWordRange 9007199254740992) (hb : InWordRange 9007199254740994),
      TellsApart 9007199254740992 9007199254740994 ha hb := by
  have hapart : ¬Merge 9007199254740992 9007199254740994 := by
    apply (Number.units_int_eq_iff (by decide) (by decide)).not.mp
    decide +kernel
  exact ⟨by decide, by decide, (tellsApart_iff (by decide) (by decide)).mpr (.inr hapart)⟩

/-- The integer after `2 ^ 53` is rounded to `2 ^ 53`. They are equal and have one key text, and a
    filter for the one finds the other as well. -/
theorem integers_merge_pastExact :
    ∃ (ha : InWordRange 9007199254740992) (hb : InWordRange 9007199254740993),
      (Json.integer 9007199254740992 ha).compare (.integer 9007199254740993 hb) = .eq ∧
      Ord.compare (9007199254740992 : Int) 9007199254740993 = .lt ∧
      (Json.integer 9007199254740992 ha).keyText = (Json.integer 9007199254740993 hb).keyText ∧
      (Collection.mk [.single "id" (.integer 9007199254740992 ha)]).aggregate
          (filterStages (.array [.string "id", .string "=", .integer 9007199254740993 hb]) 0) =
        .ok [.single "id" (.integer 9007199254740992 ha)] := by
  refine ⟨by decide, by decide, by decide +kernel, by decide, by decide +kernel, ?_⟩
  decide +kernel

end GridQuery
