import Mathlib
import GridQuery.Proofs.KeyText

/-!
# What equal values have in common

Values are equal if they mean the same: numbers by their value as binary64 and dates by their instant,
however deep they stand. Key texts see less of this. A date is written to the millisecond, and only a
number or a date that stands on its own is rewritten, so that an array or an object is written with
its numbers and dates as they are.

Results:
* `Json.compare_eq_iff`, `Json.isEqualTo_iff_meaning`: values are equal exactly if they mean the same.
* `Json.keyText_agrees_iff`: when one key text and equality come to the same.
-/

namespace GridQuery

open Std (LawfulEqCmp)

/-- What the order sees of a value. -/
inductive Meaning where
  | null
  | bool (b : Bool)
  /-- A number as binary64, in units of the least binary64 number. -/
  | number (units : Int)
  | string (s : String)
  | array (items : List Meaning)
  | object (entries : List (String × Meaning))
  | date (x : Instant)

theorem Instant.compare_eq_iff {x y : Instant} : x.compare y = .eq ↔ x = y := by
  obtain ⟨s, n⟩ := x
  obtain ⟨s', n'⟩ := y
  simp [Instant.compare, Ordering.then_eq_eq]

namespace Json

mutual

/-- The meaning of a value; an object that is a date means its instant. -/
def meaning (value : Json) : Meaning :=
  match value.instant? with
  | some x => .date x
  | none =>
    match value with
    | null => .null
    | bool b => .bool b
    | number n => .number n.units
    | string s => .string s
    | array items => .array (meaningOfItems items)
    | object entries => .object (meaningOfEntries entries)

def meaningOfItems : List Json → List Meaning
  | [] => []
  | x :: rest => meaning x :: meaningOfItems rest

def meaningOfEntries : List (String × Json) → List (String × Meaning)
  | [] => []
  | (k, x) :: rest => (k, meaning x) :: meaningOfEntries rest

end

theorem meaning_date {v : Json} {x : Instant} (h : v.instant? = some x) : v.meaning = .date x := by
  rw [meaning.eq_def, h]

theorem meaning_object {entries : Entries} (h : (object entries).instant? = none) :
    (object entries).meaning = .object (meaningOfEntries entries) := by
  rw [meaning.eq_def, h]

@[simp] theorem meaning_array (items : List Json) :
    (array items).meaning = .array (meaningOfItems items) := by
  rw [meaning.eq_def]
  rfl

@[simp] theorem meaning_number (n : Number) : (number n).meaning = .number n.units := by
  rw [meaning.eq_def]
  rfl

@[simp] theorem meaning_string (s : String) : (string s).meaning = .string s := by
  rw [meaning.eq_def]
  rfl

@[simp] theorem meaning_bool (b : Bool) : (bool b).meaning = .bool b := by
  rw [meaning.eq_def]
  rfl

@[simp] theorem meaning_null : null.meaning = .null := by
  rw [meaning.eq_def]
  rfl

/-! ## Equality -/

/-- Values of one meaning are of one class. -/
theorem alike_of_meaning_eq {a b : Json} (h : a.meaning = b.meaning) : Alike a b := by
  cases ha : a.instant? with
  | some x =>
    cases hb : b.instant? with
    | some y => exact .dates ha hb
    | none =>
      rw [meaning_date ha] at h
      cases b <;> simp_all [meaning_object]
  | none =>
    cases hb : b.instant? with
    | some y =>
      rw [meaning_date hb] at h
      cases a <;> simp_all [meaning_object]
    | none =>
      cases a <;> cases b <;> simp_all [meaning_object]
      case null => exact .nulls
      case bool => exact .bools _ _
      case number => exact .numbers _ _
      case string => exact .strings _ _
      case array => exact .arrays _ _
      case object => exact .objects ha hb

mutual

/-- Neither of two values comes before the other exactly if they mean the same. -/
theorem compare_eq_iff : (a b : Json) → (compare a b = .eq ↔ a.meaning = b.meaning)
  | a, b => by
    by_cases hrank : a.rank = b.rank
    · cases alike_of_rank_eq hrank with
      | dates hx hy =>
        rw [compare_dates hx hy, meaning_date hx, meaning_date hy, Instant.compare_eq_iff,
          Meaning.date.injEq]
      | nulls => simp
      | bools x y => rw [compare_bools, LawfulEqCmp.compare_eq_iff_eq]; simp
      | numbers x y =>
        rw [compare_numbers, compareNumbers_eq, LawfulEqCmp.compare_eq_iff_eq]
        simp
      | strings x y => rw [compare_strings, LawfulEqCmp.compare_eq_iff_eq]; simp
      | arrays x y =>
        rw [compare_arrays, meaning_array, meaning_array, Meaning.array.injEq]
        exact compareItems_eq_iff x y
      | objects hx hy =>
        rw [compare_objects hx hy, meaning_object hx, meaning_object hy, Meaning.object.injEq]
        exact compareEntries_eq_iff _ _
    · rw [compare_of_rank_ne hrank, LawfulEqCmp.compare_eq_iff_eq]
      exact iff_of_false hrank fun h => hrank (alike_of_meaning_eq h).rank_eq

theorem compareItems_eq_iff :
    (a b : List Json) → (compareItems a b = .eq ↔ meaningOfItems a = meaningOfItems b)
  | [], [] => by simp [compareItems]
  | [], _ :: _ => by simp [compareItems, meaningOfItems]
  | _ :: _, [] => by simp [compareItems, meaningOfItems]
  | x :: a, y :: b => by
    rw [compareItems, Ordering.then_eq_eq, meaningOfItems, meaningOfItems, List.cons.injEq,
      compare_eq_iff x y, compareItems_eq_iff a b]

theorem compareEntries_eq_iff : (a b : List (String × Json)) →
    (compareEntries a b = .eq ↔ meaningOfEntries a = meaningOfEntries b)
  | [], [] => by simp [compareEntries]
  | [], _ :: _ => by simp [compareEntries, meaningOfEntries]
  | _ :: _, [] => by simp [compareEntries, meaningOfEntries]
  | (k, x) :: a, (l, y) :: b => by
    rw [compareEntries, Ordering.then_eq_eq, Ordering.then_eq_eq, meaningOfEntries,
      meaningOfEntries, List.cons.injEq, Prod.mk.injEq, LawfulEqCmp.compare_eq_iff_eq,
      compare_eq_iff x y, compareEntries_eq_iff a b]

end

/-- Values are equal exactly if they mean the same. -/
theorem isEqualTo_iff_meaning {a b : Json} : a.isEqualTo b = true ↔ a.meaning = b.meaning :=
  isEqualTo_iff.trans (compare_eq_iff a b)

/-! ## One text and equality -/

/-- Two values of which the key texts and equality say different things. -/
inductive Miskeyed : Json → Json → Prop
  /-- Two instants of one millisecond have one text. -/
  | instants {a b : Json} {x y : Instant} : a.instant? = some x → b.instant? = some y →
      x.millis = y.millis → x ≠ y → Miskeyed a b
  /-- Arrays of one meaning that are written in two ways have two texts. -/
  | arrays {x y : List Json} : meaningOfItems x = meaningOfItems y → x ≠ y →
      Miskeyed (array x) (array y)
  /-- So have objects. -/
  | objects {x y : Entries} : (object x).instant? = none → (object y).instant? = none →
      meaningOfEntries x = meaningOfEntries y → x ≠ y → Miskeyed (object x) (object y)

theorem Miskeyed.alike {a b : Json} (h : Miskeyed a b) : Alike a b := by
  cases h with
  | instants ha hb _ _ => exact .dates ha hb
  | arrays _ _ => exact .arrays _ _
  | objects ha hb _ _ => exact .objects ha hb

theorem miskeyed_dates {a b : Json} {x y : Instant} (ha : a.instant? = some x)
    (hb : b.instant? = some y) : Miskeyed a b ↔ x.millis = y.millis ∧ x ≠ y := by
  constructor
  · intro h
    cases h with
    | instants ha' hb' hmillis hne =>
      obtain rfl : _ = x := Option.some.inj (ha'.symm.trans ha)
      obtain rfl : _ = y := Option.some.inj (hb'.symm.trans hb)
      exact ⟨hmillis, hne⟩
    | arrays _ _ => cases ha
    | objects ha' _ _ _ => rw [ha] at ha'; cases ha'
  · rintro ⟨hmillis, hne⟩
    exact .instants ha hb hmillis hne

/-- Of values that are no dates, arrays and objects are miskeyed if they are equal and not the
    same. -/
theorem miskeyed_contents {a b : Json} (ha : a.instant? = none) (hb : b.instant? = none) :
    Miskeyed a b ↔ a.isScalar = false ∧ a.meaning = b.meaning ∧ a ≠ b := by
  constructor
  · intro h
    cases h with
    | instants ha' _ _ _ => rw [ha] at ha'; cases ha'
    | arrays hmeaning hne => simpa [isScalar, hmeaning] using hne
    | objects _ _ hmeaning hne =>
      simpa [isScalar, meaning_object ha, meaning_object hb, hmeaning] using hne
  · rintro ⟨hscalar, hmeaning, hne⟩
    cases alike_of_meaning_eq hmeaning with
    | dates ha' _ => rw [ha] at ha'; cases ha'
    | arrays x y => exact .arrays (by simpa using hmeaning) (by simpa using hne)
    | objects _ _ =>
      rw [meaning_object ha, meaning_object hb, Meaning.object.injEq] at hmeaning
      exact .objects ha hb hmeaning (by simpa using hne)
    | _ => cases hscalar

/-- Values that are no dates have one key text if they are equal scalars or the same value. -/
theorem keyText_contents {a b : Json} (ha : a.instant? = none) (hb : b.instant? = none) :
    a.keyText = b.keyText ↔ a.meaning = b.meaning ∧ (a.isScalar = true ∨ a = b) := by
  rw [keyText_eq_iff, ha, hb]
  constructor
  · rintro (⟨m, n, rfl, rfl, hunits⟩ | rfl)
    · exact ⟨by simp [hunits], .inl rfl⟩
    · exact ⟨rfl, .inr rfl⟩
  · rintro ⟨hmeaning, hscalar | rfl⟩
    · cases alike_of_meaning_eq hmeaning with
      | dates ha' _ => rw [ha] at ha'; cases ha'
      | numbers m n => exact .inl ⟨m, n, rfl, rfl, by simpa using hmeaning⟩
      | arrays _ _ | objects _ _ => cases hscalar
      | nulls => exact .inr rfl
      | bools _ _ | strings _ _ => exact .inr (by simpa using hmeaning)
    · exact .inr rfl

/-- Values of one key text are of one class. -/
theorem alike_of_keyText_eq {a b : Json} (h : a.keyText = b.keyText) : Alike a b := by
  rw [keyText_eq_iff] at h
  cases ha : a.instant? with
  | some x =>
    cases hb : b.instant? with
    | some y => exact .dates ha hb
    | none => simp [ha, hb] at h
  | none =>
    cases hb : b.instant? with
    | some y => simp [ha, hb] at h
    | none =>
      rw [ha, hb] at h
      rcases h with ⟨m, n, rfl, rfl, -⟩ | rfl
      · exact .numbers m n
      · exact alike_of_rank_eq rfl

theorem Alike.no_date_right {a b : Json} (h : Alike a b) (ha : a.instant? = none) :
    b.instant? = none := by
  cases h with
  | dates hx _ => rw [ha] at hx; cases hx
  | objects _ hb => exact hb
  | _ => rfl

/-- One key text comes to the same as equality exactly for values that are not miskeyed. -/
theorem keyText_agrees_iff (a b : Json) :
    (a.keyText = b.keyText ↔ a.isEqualTo b = true) ↔ ¬Miskeyed a b := by
  rw [isEqualTo_iff_meaning]
  by_cases halike : Alike a b
  · cases ha : a.instant? with
    | some x =>
      obtain ⟨y, hb⟩ := halike.date_right ha
      rw [miskeyed_dates ha hb, meaning_date ha, meaning_date hb, Meaning.date.injEq,
        keyText_eq_iff, ha, hb]
      constructor
      · rintro h ⟨hmillis, hne⟩
        exact hne (h.mp hmillis)
      · intro h
        exact ⟨fun hmillis => by_contra fun hne => h ⟨hmillis, hne⟩, fun heq => heq ▸ rfl⟩
    | none =>
      have hb := halike.no_date_right ha
      rw [keyText_contents ha hb, miskeyed_contents ha hb]
      by_cases hmeaning : a.meaning = b.meaning
      · by_cases hsame : a = b <;> simp [hmeaning, hsame]
      · simp [hmeaning]
  · -- Values of two classes are unlike in every sense.
    exact iff_of_true
      (iff_of_false (fun h => halike (alike_of_keyText_eq h)) fun h =>
        halike (alike_of_meaning_eq h))
      fun h => halike h.alike

/-- The number `1.0`, which is written otherwise than the integer `1`. -/
def oneAsFloat : Number := .float ⟨false, Binary64.one, by decide +kernel⟩

/-- The arrays `[1]` and `[1.0]` are equal and have two key texts. -/
theorem keyText_of_equal_arrays :
    (array [.ofUInt64 1]).isEqualTo (array [.number oneAsFloat]) = true ∧
      (array [.ofUInt64 1]).keyText ≠ (array [.number oneAsFloat]).keyText := by
  decide +kernel

/-- Two dates of one millisecond have one key text and are not equal. -/
example :
    let whole := object [("$date", string "2024-01-01T00:00:00Z")]
    let later := object [("$date", string "2024-01-01T00:00:00.0001Z")]
    whole.keyText = later.keyText ∧ whole.isEqualTo later = false := by
  decide +kernel

end Json

end GridQuery
