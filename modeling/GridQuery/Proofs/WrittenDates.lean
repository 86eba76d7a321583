import Mathlib
import GridQuery.Proofs.CalendarParts
import GridQuery.Proofs.Order

/-!
# Dates written and read

A date is written as a timestamp to the millisecond, so what is left of a millisecond is lost. What
is read back is the instant without it, and that is also what the milliseconds since the start of
1970 are read as. An instant that has lost something comes after the date that was written of it.

Results:
* `Instant.ofMillis?_millis`: the milliseconds of an instant are read as the instant, down to the
  millisecond.
* `Instant.compare_toMillis`: the place of an instant among its whole milliseconds.
* `Json.ofInstant_readsBack`: the two forms of a date are read alike, and where the date that is
  written stands in the order.
-/

namespace GridQuery

namespace Instant

variable {x : Instant} {m : Moment}

theorem seconds_of_inRange? (h : x.inRange? = some x) :
    firstSecond ≤ x.seconds ∧ x.seconds ≤ lastSecond := by
  by_contra hout
  rw [inRange?, if_neg hout] at h
  cases h

/-- The milliseconds of a supported instant are an integer of 64 bits. -/
theorem millis_bounds (hnanos : x.nanos < 1000000000) (hrange : x.inRange? = some x) :
    -0x8000000000000000 ≤ x.millis ∧ x.millis < 0x8000000000000000 := by
  obtain ⟨hlow, hhigh⟩ := seconds_of_inRange? hrange
  have hfirst : firstSecond = -8334601228800 := by decide
  have hlast : lastSecond = 8210266876799 := by decide
  rw [millis]
  omega

/-- The milliseconds of an instant are read as the instant, down to the millisecond. -/
theorem ofMillis?_millis (hnanos : x.nanos < 1000000000) (hrange : x.inRange? = some x) :
    ofMillis? x.millis = some x.toMillis := by
  have hseconds : x.millis / 1000 = x.seconds := by
    rw [millis]
    omega
  have hrest : (x.millis % 1000 * 1000000).toNat = x.nanos / 1000000 * 1000000 := by
    rw [millis]
    omega
  rw [ofMillis?, hseconds, hrest, inRange?, if_pos (seconds_of_inRange? hrange)]
  rfl

/-- An instant is its whole milliseconds or comes after them. -/
theorem compare_toMillis (x : Instant) :
    x.compare x.toMillis = if x.nanos % 1000000 = 0 then .eq else .gt := by
  have hnanos : Ord.compare x.nanos (x.nanos / 1000000 * 1000000) =
      if x.nanos % 1000000 = 0 then .eq else .gt := by
    split_ifs with h
    · rw [Nat.compare_eq_eq]
      omega
    · rw [Nat.compare_eq_gt]
      omega
  have hseconds : Ord.compare x.seconds x.seconds = .eq := Std.ReflCmp.compare_self
  rw [Instant.compare, toMillis, hseconds, hnanos]
  rfl

end Instant

namespace Json

/-- An integer as the content of a date is the milliseconds since the start of 1970. -/
theorem instant?_millis {millis : Int} (hrange : InWordRange millis)
    (hsigned : millis < 0x8000000000000000) :
    (single "$date" (number (.int millis hrange))).instant? = Instant.ofMillis? millis := by
  have hword : (Int64.ofInt millis).toInt = millis :=
    Int64.toInt_ofInt_of_le hrange.1 hsigned
  rw [single, instant?, if_pos rfl, dateContent?, Number.toInt64?, if_pos hsigned,
    Option.bind_some, hword]

/-- The date of an instant that is no leap second, in the years 0 to 9999, is read as the instant
    down to the millisecond, and so is the date of its whole milliseconds since 1970. Any date of
    the instant is equal to the one that is written if the instant is a whole millisecond, and comes
    after it if it is not. -/
theorem ofInstant_readsBack {x : Instant} {m : Moment} (h : x.IsAt m)
    (hnanos : x.nanos < 1000000000) (hyear : 0 ≤ m.date.year ∧ m.date.year ≤ 9999) :
    (ofInstant x).instant? = some x.toMillis ∧
    (∃ hrange : InWordRange x.millis,
      (single "$date" (number (.int x.millis hrange))).instant? = some x.toMillis) ∧
    ∀ value : Json, value.instant? = some x →
      value.compare (ofInstant x) = if x.nanos % 1000000 = 0 then .eq else .gt := by
  have hwritten := instant?_ofInstant h hnanos hyear
  have hsupported := h.inRange hyear
  obtain ⟨hlow, hhigh⟩ := Instant.millis_bounds hnanos hsupported
  have hrange : InWordRange x.millis := ⟨hlow, by omega⟩
  refine ⟨hwritten, ⟨hrange, ?_⟩, fun value hvalue => ?_⟩
  · rw [instant?_millis hrange hhigh, Instant.ofMillis?_millis hnanos hsupported]
  · rw [compare_dates hvalue hwritten, Instant.compare_toMillis]

/-- The last nanosecond before 1970 is written and read as the last millisecond before 1970. -/
theorem ofInstant_readsBack_before1970 :
    (ofInstant ⟨-1, 999999999⟩).instant? = some ⟨-1, 999000000⟩ ∧
      (∃ hrange : InWordRange (-1),
        (single "$date" (number (.int (-1) hrange))).instant? = some ⟨-1, 999000000⟩) ∧
      (single "$date" (string "1970-01-01T01:59:59.999999999+02:00")).compare
        (ofInstant ⟨-1, 999999999⟩) = .gt := by
  have hmoment : (⟨-1, 999999999⟩ : Instant).IsAt ⟨-1, ⟨1969, 12, 31⟩, 23, 59, 59⟩ :=
    ⟨isDay_iff.mpr (by decide), by decide, by decide, by decide, by decide⟩
  obtain ⟨htext, hmillis, hcompare⟩ := ofInstant_readsBack hmoment (by decide) (by decide)
  exact ⟨htext, hmillis, hcompare _ (by decide +kernel)⟩

end Json

end GridQuery
