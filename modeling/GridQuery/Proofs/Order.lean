import Mathlib
import GridQuery.Value.Order
import GridQuery.Proofs.Rounding

/-!
# The order of values is a total preorder

The order goes by class first and by content then; arrays and objects are compared from the left.
Values that differ may be equal in this order, as `1` and `1.0` are.

Results:
* `Json.compare_oriented`, `Json.compare_trans`: the order is oriented and transitive.
* `Json.isEqualTo_iff`: two values are equal exactly if neither comes before the other.
-/

namespace GridQuery

open Std (OrientedCmp ReflCmp TransCmp)

/-! ## Numbers and dates -/

namespace Number

/-- The value of a number as binary64, in units of the least binary64 number. -/
def units (n : Number) : Int :=
  match n.toBinary64 with
  | .finite x => x.value
  | _ => 0

theorem units_eq {n : Number} {x : Binary64.Finite} (h : n.toBinary64 = .finite x) :
    n.units = x.value := by
  rw [units, h]

end Number

namespace Json

theorem compareNumbers_eq (a b : Number) : compareNumbers a b = Ord.compare a.units b.units := by
  obtain ⟨x, hx⟩ := a.toBinary64_finite
  obtain ⟨y, hy⟩ := b.toBinary64_finite
  rw [compareNumbers, hx, hy, Number.units_eq hx, Number.units_eq hy]
  rfl

instance compareNumbers_trans : TransCmp compareNumbers := by
  have h : compareNumbers = compareOn Number.units := by
    funext a b
    exact compareNumbers_eq a b
  rw [h]
  infer_instance

end Json

instance Instant.compare_trans : TransCmp Instant.compare :=
  inferInstanceAs (TransCmp (compareLex (compareOn Instant.seconds) (compareOn Instant.nanos)))

namespace Json

theorem compareDates_eq {a b : Json} {x y : Instant} (hx : a.instant? = some x)
    (hy : b.instant? = some y) : compareDates a b = x.compare y := by
  rw [compareDates, hx, hy]

/-! ## Classes -/

/-- Two values of one class; dates are a class of their own. -/
inductive Alike : Json → Json → Prop
  | dates {a b : Json} {x y : Instant} : a.instant? = some x → b.instant? = some y → Alike a b
  | nulls : Alike null null
  | bools (x y : Bool) : Alike (bool x) (bool y)
  | numbers (x y : Number) : Alike (number x) (number y)
  | strings (x y : String) : Alike (string x) (string y)
  | arrays (x y : List Json) : Alike (array x) (array y)
  | objects {x y : Entries} : (object x).instant? = none → (object y).instant? = none →
      Alike (object x) (object y)

theorem rank_date {a : Json} {x : Instant} (h : a.instant? = some x) : a.rank = 6 := by
  have hdate : a.isDate = true := by rw [isDate, h]; rfl
  unfold rank
  rw [if_pos hdate]

theorem rank_object {x : Entries} (h : (object x).instant? = none) : (object x).rank = 3 := by
  have hdate : ¬(object x).isDate = true := by rw [isDate, h]; simp
  unfold rank
  rw [if_neg hdate]

/-- Values of one rank are alike. -/
theorem alike_of_rank_eq {a b : Json} (h : a.rank = b.rank) : Alike a b := by
  cases ha : a.instant? with
  | some x =>
    cases hb : b.instant? with
    | some y => exact .dates ha hb
    | none =>
      rw [rank_date ha] at h
      cases b <;> simp_all [rank, isDate]
  | none =>
    cases hb : b.instant? with
    | some y =>
      rw [rank_date hb] at h
      cases a <;> simp_all [rank, isDate]
    | none =>
      cases a <;> cases b <;> simp_all [rank, isDate]
      case null => exact .nulls
      case bool => exact .bools _ _
      case number => exact .numbers _ _
      case string => exact .strings _ _
      case array => exact .arrays _ _
      case object => exact .objects ha hb

theorem Alike.rank_eq {a b : Json} (h : Alike a b) : a.rank = b.rank := by
  cases h with
  | dates ha hb => rw [rank_date ha, rank_date hb]
  | objects ha hb => rw [rank_object ha, rank_object hb]
  | _ => rfl

theorem compare_of_rank_ne {a b : Json} (h : a.rank ≠ b.rank) :
    compare a b = Ord.compare a.rank b.rank := by
  unfold compare
  rw [if_neg h]

theorem compare_dates {a b : Json} {x y : Instant} (hx : a.instant? = some x)
    (hy : b.instant? = some y) : compare a b = x.compare y := by
  have hdate : a.isDate = true := by rw [isDate, hx]; rfl
  unfold compare
  rw [if_pos (Alike.dates hx hy).rank_eq, if_pos hdate, compareDates_eq hx hy]

/-- Values of one class that are no dates are compared by their contents. -/
theorem compare_contents (a b : Json) : Alike a b → a.isDate = false →
    compare a b =
      match a, b with
      | number x, number y => compareNumbers x y
      | string x, string y => Ord.compare x y
      | bool x, bool y => Ord.compare x y
      | array x, array y => compareItems x y
      | object x, object y => compareEntries x y
      | _, _ => .eq := by
  intro h hdate
  rw [compare.eq_def, if_pos h.rank_eq]
  refine (if_neg (by simp [hdate])).trans ?_
  cases a <;> cases b <;> rfl

@[simp] theorem compare_nulls : compare null null = .eq := compare_contents _ _ .nulls rfl

@[simp] theorem compare_bools (x y : Bool) : compare (bool x) (bool y) = Ord.compare x y :=
  compare_contents _ _ (.bools x y) rfl

@[simp] theorem compare_numbers (x y : Number) :
    compare (number x) (number y) = compareNumbers x y :=
  compare_contents _ _ (.numbers x y) rfl

@[simp] theorem compare_strings (x y : String) :
    compare (string x) (string y) = Ord.compare x y :=
  compare_contents _ _ (.strings x y) rfl

@[simp] theorem compare_arrays (x y : List Json) :
    compare (array x) (array y) = compareItems x y :=
  compare_contents _ _ (.arrays x y) rfl

theorem compare_objects {x y : Entries} (hx : (object x).instant? = none)
    (hy : (object y).instant? = none) : compare (object x) (object y) = compareEntries x y :=
  compare_contents _ _ (.objects hx hy) (by rw [isDate, hx]; rfl)

/-! ## Both ways -/

mutual

/-- Values compared the other way round. -/
theorem compare_swap : (a b : Json) → (compare a b).swap = compare b a
  | a, b => by
    by_cases hrank : a.rank = b.rank
    · cases alike_of_rank_eq hrank with
      | dates hx hy =>
        rw [compare_dates hx hy, compare_dates hy hx]
        exact OrientedCmp.eq_swap.symm
      | nulls => rw [compare_nulls]; rfl
      | bools x y =>
        rw [compare_bools, compare_bools]
        exact OrientedCmp.eq_swap.symm
      | numbers x y =>
        rw [compare_numbers, compare_numbers]
        exact OrientedCmp.eq_swap.symm
      | strings x y =>
        rw [compare_strings, compare_strings]
        exact OrientedCmp.eq_swap.symm
      | arrays x y => rw [compare_arrays, compare_arrays, compareItems_swap x y]
      | objects hx hy =>
        rw [compare_objects hx hy, compare_objects hy hx, compareEntries_swap _ _]
    · rw [compare_of_rank_ne hrank, compare_of_rank_ne (Ne.symm hrank)]
      exact OrientedCmp.eq_swap.symm

theorem compareItems_swap : (a b : List Json) → (compareItems a b).swap = compareItems b a
  | [], [] => rfl
  | [], _ :: _ => rfl
  | _ :: _, [] => rfl
  | x :: a, y :: b => by
    rw [compareItems, compareItems, Ordering.swap_then, compare_swap x y, compareItems_swap a b]

theorem compareEntries_swap :
    (a b : List (String × Json)) → (compareEntries a b).swap = compareEntries b a
  | [], [] => rfl
  | [], _ :: _ => rfl
  | _ :: _, [] => rfl
  | (k, x) :: a, (l, y) :: b => by
    have hkey : (Ord.compare k l).swap = Ord.compare l k := OrientedCmp.eq_swap.symm
    rw [compareEntries, compareEntries, Ordering.swap_then, Ordering.swap_then, hkey,
      compare_swap x y, compareEntries_swap a b]

end

instance compare_oriented : OrientedCmp compare where
  eq_swap {a b} := (compare_swap b a).symm

/-! ## Transitivity -/

/-- Three comparisons of three values fit together: equals can be exchanged, and what comes first
    stays first. -/
def Steady (ab bc ac : Ordering) : Prop :=
  (ab = .eq → ac = bc) ∧ (ab = .lt → bc ≠ .gt → ac = .lt)

theorem steady_of_trans {α : Type} {cmp : α → α → Ordering} [TransCmp cmp] (a b c : α) :
    Steady (cmp a b) (cmp b c) (cmp a c) := by
  refine ⟨TransCmp.congr_left, ?_⟩
  intro hab hbc
  exact TransCmp.lt_of_lt_of_isLE hab (Ordering.isLE_iff_ne_gt.mpr hbc)

/-- Of two comparisons in turn, the second decides where the first finds no difference. -/
theorem Steady.then {ab bc ac ab' bc' ac' : Ordering} (h : Steady ab bc ac)
    (h' : Steady ab' bc' ac') : Steady (ab.then ab') (bc.then bc') (ac.then ac') := by
  obtain ⟨heq, hlt⟩ := h
  obtain ⟨heq', hlt'⟩ := h'
  cases ab with
  | lt =>
    refine ⟨nofun, fun _ hle => ?_⟩
    have hbc : bc ≠ .gt := by
      rintro rfl
      exact hle rfl
    rw [hlt rfl hbc]
    rfl
  | eq =>
    obtain rfl := heq rfl
    cases ac with
    | eq => exact ⟨heq', hlt'⟩
    | lt => exact ⟨fun _ => rfl, fun _ _ => rfl⟩
    | gt => exact ⟨fun _ => rfl, fun _ hle => absurd rfl hle⟩
  | gt => exact ⟨nofun, nofun⟩

/-- Between classes the rank decides, so that only values of one class remain to be compared. -/
theorem steady_of_alike {a : Json}
    (h : ∀ b c, Alike a b → Alike b c → Steady (compare a b) (compare b c) (compare a c))
    (b c : Json) : Steady (compare a b) (compare b c) (compare a c) := by
  by_cases hab : a.rank = b.rank
  · by_cases hbc : b.rank = c.rank
    · exact h b c (alike_of_rank_eq hab) (alike_of_rank_eq hbc)
    · have hac : a.rank ≠ c.rank := hab ▸ hbc
      rw [compare_of_rank_ne hac, compare_of_rank_ne hbc, hab]
      refine ⟨fun _ => rfl, fun _ hle => ?_⟩
      cases hcmp : Ord.compare b.rank c.rank with
      | lt => rfl
      | eq => exact absurd (Nat.compare_eq_eq.mp hcmp) hbc
      | gt => exact absurd hcmp hle
  · rw [compare_of_rank_ne hab]
    refine ⟨fun heq => absurd (Nat.compare_eq_eq.mp heq) hab, fun hlt hle => ?_⟩
    have hlt := Nat.compare_eq_lt.mp hlt
    have hbc : b.rank ≤ c.rank := by
      by_cases hbc : b.rank = c.rank
      · omega
      · rw [compare_of_rank_ne hbc] at hle
        exact Nat.compare_ne_gt.mp hle
    rw [compare_of_rank_ne (by omega)]
    exact Nat.compare_eq_lt.mpr (by omega)

theorem Alike.date_right {a b : Json} {x : Instant} (h : Alike a b) (hx : a.instant? = some x) :
    ∃ y, b.instant? = some y := by
  cases h with
  | dates _ hy => exact ⟨_, hy⟩
  | objects hx' _ => rw [hx] at hx'; cases hx'
  | _ => cases hx

mutual

theorem compare_steady : (a b c : Json) → Steady (compare a b) (compare b c) (compare a c)
  | null => steady_of_alike fun b c hab hbc => by
    cases hab with
    | dates hx _ => cases hx
    | nulls =>
      cases hbc with
      | dates hy _ => cases hy
      | nulls => simp [Steady]
  | bool x => steady_of_alike fun b c hab hbc => by
    cases hab with
    | dates hx _ => cases hx
    | bools _ y =>
      cases hbc with
      | dates hy _ => cases hy
      | bools _ z =>
        simp only [compare_bools]
        exact steady_of_trans x y z
  | number x => steady_of_alike fun b c hab hbc => by
    cases hab with
    | dates hx _ => cases hx
    | numbers _ y =>
      cases hbc with
      | dates hy _ => cases hy
      | numbers _ z =>
        simp only [compare_numbers]
        exact steady_of_trans x y z
  | string x => steady_of_alike fun b c hab hbc => by
    cases hab with
    | dates hx _ => cases hx
    | strings _ y =>
      cases hbc with
      | dates hy _ => cases hy
      | strings _ z =>
        simp only [compare_strings]
        exact steady_of_trans x y z
  | array x => steady_of_alike fun b c hab hbc => by
    cases hab with
    | dates hx _ => cases hx
    | arrays _ y =>
      cases hbc with
      | dates hy _ => cases hy
      | arrays _ z =>
        simp only [compare_arrays]
        exact compareItems_steady x y z
  | object x => steady_of_alike fun b c hab hbc => by
    cases hab with
    | dates hx hy =>
      obtain ⟨z, hz⟩ := hbc.date_right hy
      rw [compare_dates hx hy, compare_dates hx hz, compare_dates hy hz]
      exact steady_of_trans _ _ z
    | objects hx hy =>
      cases hbc with
      | dates hy' _ => rw [hy] at hy'; cases hy'
      | objects _ hz =>
        rw [compare_objects hx hy, compare_objects hx hz, compare_objects hy hz]
        exact compareEntries_steady x _ _

theorem compareItems_steady : (a b c : List Json) →
    Steady (compareItems a b) (compareItems b c) (compareItems a c)
  | [], b, c => by
    cases b <;> cases c <;> simp [compareItems, Steady]
  | x :: a, b, c => by
    cases b with
    | nil => simp [compareItems, Steady]
    | cons y b =>
      cases c with
      | nil => simp [compareItems, Steady]
      | cons z c =>
        simp only [compareItems]
        exact (compare_steady x y z).then (compareItems_steady a b c)

theorem compareEntries_steady : (a b c : List (String × Json)) →
    Steady (compareEntries a b) (compareEntries b c) (compareEntries a c)
  | [], b, c => by
    cases b <;> cases c <;> simp [compareEntries, Steady]
  | (k, x) :: a, b, c => by
    cases b with
    | nil => simp [compareEntries, Steady]
    | cons entry b =>
      obtain ⟨l, y⟩ := entry
      cases c with
      | nil => simp [compareEntries, Steady]
      | cons entry c =>
        obtain ⟨m, z⟩ := entry
        have hkey : Steady (Ord.compare k l) (Ord.compare l m) (Ord.compare k m) :=
          steady_of_trans k l m
        simp only [compareEntries]
        exact (hkey.then (compare_steady x y z)).then (compareEntries_steady a b c)

end

instance compare_trans : TransCmp compare where
  isLE_trans {a b c} hab hbc := by
    obtain ⟨heq, hlt⟩ := compare_steady a b c
    rcases Ordering.isLE_iff_eq_lt_or_eq_eq.mp hab with h | h
    · rw [hlt h (Ordering.isLE_iff_ne_gt.mp hbc)]
      rfl
    · rw [heq h]
      exact hbc

/-! ## Equality -/

/-- Values are equal if neither comes before the other; those of different classes never are. -/
theorem isEqualTo_iff {a b : Json} : a.isEqualTo b = true ↔ compare a b = .eq := by
  unfold isEqualTo compareAlike?
  by_cases h : a.rank = b.rank
  · simp [h]
  · rw [if_neg h, compare_of_rank_ne h]
    simpa using fun heq => h (Nat.compare_eq_eq.mp heq)

theorem isEqualTo_refl (a : Json) : a.isEqualTo a = true :=
  isEqualTo_iff.mpr ReflCmp.compare_self

end Json

end GridQuery
