import Mathlib
import GridQuery.Proofs.Days
import GridQuery.Value.Date

/-!
# Timestamps read back

An instant is written as a timestamp with four digits of the year, two for each further part and
three for the milliseconds. Each group of digits is read back as the number it was written from, and
so the whole text is read as the instant, down to the millisecond.

Results:
* `Instant.ofText?_text`: a timestamp of the years 0 to 9999 reads back to the millisecond.
* `Json.instant?_ofInstant`: so does the value of an instant.
-/

namespace GridQuery

open Instant (padded)

/-! ## Digits -/

theorem padded_one {n : Nat} (h : n < 10) : padded 1 n = [n.digitChar] := by
  rw [padded, Nat.toDigits_of_lt_base h]
  rfl

/-- One more place is one more digit at the end. -/
theorem padded_succ {width : Nat} (h : 0 < width) (n : Nat) :
    padded (width + 1) n = padded width (n / 10) ++ [(n % 10).digitChar] := by
  by_cases hn : n < 10
  · have hdiv : n / 10 = 0 := by omega
    have hmod : n % 10 = n := by omega
    obtain ⟨k, rfl⟩ : ∃ k, width = k + 1 := ⟨width - 1, by omega⟩
    rw [padded, padded, hdiv, hmod, Nat.toDigits_of_lt_base hn, Nat.toDigits_zero]
    simp [List.replicate_succ']
  · rw [padded, padded, Nat.toDigits_of_base_le (by omega) (by omega)]
    simp

theorem padded_two {n : Nat} (h : n < 100) :
    padded 2 n = [(n / 10).digitChar, (n % 10).digitChar] := by
  rw [padded_succ (by omega), padded_one (by omega)]
  rfl

theorem padded_three {n : Nat} (h : n < 1000) :
    padded 3 n = [(n / 100).digitChar, (n / 10 % 10).digitChar, (n % 10).digitChar] := by
  rw [padded_succ (by omega), padded_two (by omega), Nat.div_div_eq_div_mul]
  rfl

/-- Four digits are two and two. -/
theorem padded_four (n : Nat) : padded 4 n = padded 2 (n / 100) ++ padded 2 (n % 100) := by
  rw [padded_succ (by omega), padded_succ (by omega), padded_two (n := n % 100) (by omega),
    Nat.div_div_eq_div_mul, Nat.mod_mod_of_dvd n (by decide),
    show n % 100 / 10 = n / 10 % 10 by omega]
  simp

theorem digitChar_spec : ∀ d < 10,
    d.digitChar.isDigit = true ∧ Timestamp.digit? d.digitChar = some d := by
  decide

theorem isDigit_digitChar {d : Nat} (h : d < 10) : d.digitChar.isDigit = true :=
  (digitChar_spec d h).1

theorem digit?_digitChar {d : Nat} (h : d < 10) : Timestamp.digit? d.digitChar = some d :=
  (digitChar_spec d h).2

namespace Timestamp

/-! ## Reading what was written -/

theorem twoDigits_padded {n : Nat} (h : n < 100) (rest : List Char) :
    twoDigits (padded 2 n ++ rest) = some (n, rest) := by
  have hn : n / 10 * 10 + n % 10 = n := by omega
  rw [padded_two h]
  simp only [twoDigits, List.cons_append, List.nil_append,
    digit?_digitChar (d := n / 10) (by omega), digit?_digitChar (d := n % 10) (by omega),
    Option.bind_eq_bind, Option.bind_some, Option.pure_def, hn]

theorem fourDigits_padded {n : Nat} (h : n < 10000) (rest : List Char) :
    fourDigits (padded 4 n ++ rest) = some (n, rest) := by
  have hn : n / 100 * 100 + n % 100 = n := by omega
  rw [padded_four, List.append_assoc, fourDigits]
  simp only [twoDigits_padded (n := n / 100) (by omega), twoDigits_padded (n := n % 100) (by omega),
    Option.bind_eq_bind, Option.bind_some, Option.pure_def, hn]

/-- Three digits of a fraction are milliseconds. -/
theorem fraction_padded {n : Nat} (h : n < 1000) :
    fraction ('.' :: (padded 3 n ++ ['Z'])) = some (n * 1000000, ['Z']) := by
  have h₁ := isDigit_digitChar (d := n / 100) (by omega)
  have h₂ := isDigit_digitChar (d := n / 10 % 10) (by omega)
  have h₃ := isDigit_digitChar (d := n % 10) (by omega)
  have hz : 'Z'.isDigit = false := by decide
  have hn : n / 100 * 100000000 + (n / 10 % 10 * 10000000 + n % 10 * 1000000) = n * 1000000 := by
    omega
  rw [padded_three h]
  simp [fraction, List.takeWhile, List.dropWhile, h₁, h₂, h₃, hz, nanosOfDigits,
    digit?_digitChar (d := n / 100) (by omega), digit?_digitChar (d := n / 10 % 10) (by omega),
    digit?_digitChar (d := n % 10) (by omega), hn]

theorem expect_cons {allowed : List Char} {c : Char} (h : c ∈ allowed) (rest : List Char) :
    expect allowed (c :: rest) = some rest := by
  rw [expect, if_pos h]

/-- The letter for universal time is no offset. -/
theorem offset_zulu : offset ['Z'] = some (0, []) := by
  simp [offset]

end Timestamp

namespace Instant

/-- The instant down to the millisecond. -/
def toMillis (x : Instant) : Instant := ⟨x.seconds, x.nanos / 1000000 * 1000000⟩

variable {x : Instant} {m : Moment}

/-- The text of an instant by the parts of its time. -/
theorem IsAt.toList_text (h : x.IsAt m) (hnanos : x.nanos < 1000000000)
    (hyear : 0 ≤ m.date.year ∧ m.date.year ≤ 9999) :
    x.text.toList = padded 4 m.date.year.toNat ++ '-' :: (padded 2 m.date.month ++
      '-' :: (padded 2 m.date.day ++ 'T' :: (padded 2 m.hour ++ ':' :: (padded 2 m.minute ++
        ':' :: (padded 2 m.second ++ '.' :: (padded 3 (x.nanos / 1000000) ++ ['Z'])))))) := by
  obtain ⟨-, hdate, hhour, hminute, hsecond⟩ := h.parts
  have hleap : ¬Instant.second ≤ (x.nanos : Int) := by
    rw [Instant.second]
    omega
  simp only [text, if_neg hleap, hdate, hhour, hminute, hsecond, yearText, if_pos hyear,
    String.toList_ofList, Int.zero_mul, Int.sub_zero, Int.add_zero, Int.toNat_natCast,
    List.append_assoc, List.cons_append]

/-- A timestamp of the years 0 to 9999 reads back to the millisecond. -/
theorem ofText?_text (h : x.IsAt m) (hnanos : x.nanos < 1000000000)
    (hyear : 0 ≤ m.date.year ∧ m.date.year ≤ 9999) : ofText? x.text = some x.toMillis := by
  have hdate := isDay_iff.mp h.day
  have hvalid : m.date.isValid = true := hdate ▸ isValid_dateOfDays m.day
  have hdays : daysOfDate m.date = m.day := hdate ▸ daysOfDate_dateOfDays m.day
  obtain ⟨-, hmonth, -, hday⟩ := isValid_iff.mp hvalid
  have hlength : monthLength m.date.year m.date.month ≤ 31 := by
    unfold monthLength
    split_ifs <;> omega
  have hnat : ((m.date.year.toNat : Nat) : Int) = m.date.year := Int.toNat_of_nonneg hyear.1
  have hhour := h.hour
  have hminute := h.minute
  have hsecond := h.second
  have hsixty : m.second ≠ 60 := by omega
  have hseconds : m.day * Instant.day + (m.hour * 3600 + m.minute * 60 + m.second : Int) =
      x.seconds := by
    rw [h.seconds, Instant.day]
    ring
  rw [ofText?, h.toList_text hnanos hyear]
  refine Option.bind_eq_some_iff.mpr ⟨_, Timestamp.fourDigits_padded (by omega) _, ?_⟩
  refine Option.bind_eq_some_iff.mpr ⟨_, Timestamp.expect_cons (by decide) _, ?_⟩
  refine Option.bind_eq_some_iff.mpr ⟨_, Timestamp.twoDigits_padded (by omega) _, ?_⟩
  refine Option.bind_eq_some_iff.mpr ⟨_, Timestamp.expect_cons (by decide) _, ?_⟩
  refine Option.bind_eq_some_iff.mpr ⟨_, Timestamp.twoDigits_padded (by omega) _, ?_⟩
  refine Option.bind_eq_some_iff.mpr ⟨_, Timestamp.expect_cons (by decide) _, ?_⟩
  refine Option.bind_eq_some_iff.mpr ⟨_, Timestamp.twoDigits_padded (by omega) _, ?_⟩
  refine Option.bind_eq_some_iff.mpr ⟨_, Timestamp.expect_cons (by decide) _, ?_⟩
  refine Option.bind_eq_some_iff.mpr ⟨_, Timestamp.twoDigits_padded (by omega) _, ?_⟩
  refine Option.bind_eq_some_iff.mpr ⟨_, Timestamp.expect_cons (by decide) _, ?_⟩
  refine Option.bind_eq_some_iff.mpr ⟨_, Timestamp.twoDigits_padded (by omega) _, ?_⟩
  refine Option.bind_eq_some_iff.mpr ⟨_, Timestamp.fraction_padded (by omega), ?_⟩
  refine Option.bind_eq_some_iff.mpr ⟨_, Timestamp.offset_zulu, ?_⟩
  have hall : (m.date.isValid && decide (m.hour < 24) && decide (m.minute < 60) &&
      decide (m.second ≤ 60) && ([] : List Char).isEmpty) = true := by
    simp [hvalid, hhour, hminute, hsecond.le]
  simp only [hnat, if_pos hall, if_neg hsixty, Nat.sub_zero, Nat.zero_mul, Nat.add_zero,
    Int.sub_zero, hdays, hseconds]
  rfl

theorem IsAt.toMillis (h : x.IsAt m) : x.toMillis.IsAt m :=
  ⟨h.day, h.hour, h.minute, h.second, h.seconds⟩

end Instant

/-- The value of an instant of the years 0 to 9999 is the instant, down to the millisecond. -/
theorem Json.instant?_ofInstant {x : Instant} {m : Moment} (h : x.IsAt m)
    (hnanos : x.nanos < 1000000000) (hyear : 0 ≤ m.date.year ∧ m.date.year ≤ 9999) :
    (Json.ofInstant x).instant? = some x.toMillis :=
  Instant.ofText?_text h hnanos hyear

end GridQuery
