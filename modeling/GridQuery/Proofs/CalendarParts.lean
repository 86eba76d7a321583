import Mathlib
import GridQuery.Proofs.Computed
import GridQuery.Proofs.Integers
import GridQuery.Proofs.Timestamps

/-!
# Calendar parts computed

The stages of a part move a date back by the offset of the time zone, write it as a timestamp, read
that again and take the part. What they compute is the part of the moved date in the calendar, and
null of what is no date.

Results:
* `CalendarPart.ofMoment`: the part of a time of a day.
* `partReading_of_isAt`: the value of a part is the part of the time of the moved date.
* `partStages_write_calendar`: the stages write it into the target and leave the other fields.
-/

namespace GridQuery

open Binary64 (greatestExact isInteger_ofInt)
open Collection (aggregate_eq_ok aggregate_of_reads)
open Expression (addAll dateOrOverflow difference partOf)
open Pipeline (partStages shift)

/-! ## Parts of times -/

/-- The fourth of January 1970, a Sunday. -/
def firstSunday : Int := 3

/-- The part of a time of a day. Quarters count from one, and days of the week from Sunday, which
    is zero. -/
def CalendarPart.ofMoment (m : Moment) : CalendarPart → Int
  | year => m.date.year
  | quarter => ((m.date.month : Int) - 1) / 3 + 1
  | month => m.date.month
  | day => m.date.day
  | dayOfWeek => (m.day - firstSunday) % 7
  | hour => m.hour
  | minute => m.minute
  | second => m.second

/-- What the operator of a part takes of an instant. -/
theorem datePart_of_isAt {x : Instant} {m : Moment} (h : x.IsAt m) (part : CalendarPart) :
    part.datePart.of x =
      match part with
      | .quarter => (m.date.month : Int)
      | .dayOfWeek => CalendarPart.dayOfWeek.ofMoment m + 1
      | part => part.ofMoment m := by
  obtain ⟨hdays, hdate, hhour, hminute, hsecond⟩ := h.parts
  cases part <;>
    simp only [CalendarPart.datePart, DatePart.of, CalendarPart.ofMoment, hdays, hdate, hhour,
      hminute, hsecond, weekday, firstSunday]
  omega

/-! ## Moving dates -/

/-- The instant so many minutes before. -/
def Instant.back (x : Instant) (minutes : Int) : Instant := ⟨x.seconds - minutes * 60, x.nanos⟩

/-- An instant is moved by whole minutes; only a leap second has to be looked at more closely. -/
theorem Instant.addMillis_minutes {x : Instant} (h : x.nanos < 1000000000) (minutes : Int) :
    x.addMillis (-(minutes * 60000)) = (x.back minutes).inRange? := by
  have hseconds : (-(minutes * 60000)).tdiv 1000 = -(minutes * 60) := by
    rw [show -(minutes * 60000) = -(minutes * 60) * 1000 by ring]
    exact Int.mul_tdiv_cancel _ (by decide)
  have hnanos : (-(minutes * 60000)).tmod 1000 = 0 := by
    rw [show -(minutes * 60000) = -(minutes * 60) * 1000 by ring]
    exact Int.mul_tmod_left _ _
  have hordinary : (x.nanos : Int) < Instant.second := by
    rw [Instant.second]
    omega
  simp only [Instant.addMillis, hseconds, hnanos, Int.zero_mul, Int.add_zero, if_pos hordinary,
    Instant.carry, if_neg (Int.not_lt.mpr (Int.natCast_nonneg x.nanos)),
    if_neg (Int.not_le.mpr hordinary), Int.toNat_natCast, Instant.back, Int.sub_eq_add_neg]

/-- The years 0 to 9999 are supported. -/
theorem Instant.IsAt.inRange {x : Instant} {m : Moment} (h : x.IsAt m)
    (hyear : 0 ≤ m.date.year ∧ m.date.year ≤ 9999) : x.inRange? = some x := by
  have hdate := isDay_iff.mp h.day
  have hdays : daysOfDate m.date = m.day := hdate ▸ daysOfDate_dateOfDays m.day
  obtain ⟨hlow, hhigh, -⟩ := dayOfYear_bounds (hdate ▸ isValid_dateOfDays m.day)
  have hmarch : -1 ≤ m.date.marchYear ∧ m.date.marchYear ≤ 9999 := by
    rw [Date.marchYear]
    split_ifs <;> omega
  rw [daysOfDate_eq, yearStart, epochShift] at hdays
  have hbounds : -800000 ≤ m.day ∧ m.day ≤ 4000000 := by omega
  have hfirst : Instant.firstSecond ≤ x.seconds := by
    have hnumber : Instant.firstSecond = -8334601228800 := by decide
    have hseconds := h.seconds
    omega
  have hlast : x.seconds ≤ Instant.lastSecond := by
    have hnumber : Instant.lastSecond = 8210266876799 := by decide
    have := h.seconds
    have := h.hour
    have := h.minute
    have := h.second
    omega
  rw [Instant.inRange?, if_pos ⟨hfirst, hlast⟩]

/-- An offset in minutes of which the milliseconds can be taken. -/
def IsOffset (offset : Int64) : Prop := -1440 ≤ offset.toInt ∧ offset.toInt ≤ 1440

theorem IsOffset.toInt_millis {offset : Int64} (h : IsOffset offset) :
    (offset * 60 * 1000).toInt = offset.toInt * 60000 := by
  obtain ⟨hlow, hhigh⟩ := h
  have hminutes : (offset * 60).toInt = offset.toInt * 60 := by
    rw [Int64.toInt_mul]
    exact Int.bmod_eq_of_le (by simp; omega) (by simp; omega)
  have hmillis : (offset * 60 * 1000).toInt = offset.toInt * 60 * 1000 := by
    rw [Int64.toInt_mul, hminutes]
    exact Int.bmod_eq_of_le (by simp; omega) (by simp; omega)
  rw [hmillis, Int.mul_assoc]
  rfl

/-- A date moved back by an offset. -/
theorem difference_shift {value : Json} {x : Instant} (hvalue : value.instant? = some x)
    (hnanos : x.nanos < 1000000000) {offset : Int64} (hoffset : IsOffset offset) :
    difference value (shift offset) = dateOrOverflow (x.back offset.toInt).inRange? := by
  have hexact : (offset.toInt * 60000).natAbs ≤ greatestExact := by
    obtain ⟨hlow, hhigh⟩ := hoffset
    rw [greatestExact]
    omega
  have hmillis : (Binary64.ofInt (offset.toInt * 60000)).toInt64.toInt = offset.toInt * 60000 := by
    rw [(isInteger_ofInt hexact).toInt64 hexact, toInt_ofInt_exact hexact]
  have hshift : (shift offset).binary64? = some (Binary64.ofInt (offset.toInt * 60000)) := by
    rw [← hoffset.toInt_millis]
    rfl
  have hnone : (shift offset).instant? = none := rfl
  simp only [difference, hvalue, hnone, hshift, hmillis, Instant.addMillis_minutes hnanos]

/-! ## Arithmetic of parts -/

/-- The quarter of a month, by adding two and taking the third without its remainder. -/
theorem thirdOf_month : ∀ month < 12, (addAll [.ofInt64 (Int64.ofInt ((month : Nat) + 1 : Int)),
    Pipeline.constant 2] >>= thirdOf) = .ok (.ofInt64 (Int64.ofInt ((month : Int) / 3 + 1))) := by
  decide +kernel

/-- A day of the week, counted from one and then from zero. -/
theorem difference_weekday : ∀ weekday < 7,
    difference (.ofInt64 (Int64.ofInt ((weekday : Nat) + 1 : Int))) (Pipeline.constant 1) =
      .ok (.ofInt64 (Int64.ofInt weekday)) := by
  decide +kernel

/-- The value of a part is the part of the time of the moved date. -/
theorem partReading_of_isAt {value : Json} {x : Instant} (hvalue : value.instant? = some x)
    (hnanos : x.nanos < 1000000000) {offset : Int64} (hoffset : IsOffset offset) {m : Moment}
    (hm : (x.back offset.toInt).IsAt m) (hyear : 0 ≤ m.date.year ∧ m.date.year ≤ 9999)
    (part : CalendarPart) :
    partReading part offset value = .ok (.ofInt64 (Int64.ofInt (part.ofMoment m))) := by
  have hmoved : difference value (shift offset) = .ok (.ofInstant (x.back offset.toInt)) := by
    rw [difference_shift hvalue hnanos hoffset, hm.inRange hyear]
    rfl
  have hread := Json.instant?_ofInstant hm hnanos hyear
  have htaken : partOf part.datePart (.ofInstant (x.back offset.toInt)) = .ofInt64 (Int64.ofInt
      (part.datePart.of (x.back offset.toInt).toMillis)) := by
    simp only [partOf, hread]
  rw [partReading, hmoved, Except.map, htaken, datePart_of_isAt hm.toMillis]
  have hvalid := isValid_iff.mp (isDay_iff.mp hm.day ▸ isValid_dateOfDays m.day)
  cases part with
  | quarter =>
    obtain ⟨k, hk⟩ : ∃ k : Nat, m.date.month = k + 1 := ⟨m.date.month - 1, by omega⟩
    have hthird := thirdOf_month k (by omega)
    simp only [CalendarPart.ofMoment, hk, Nat.cast_succ, Int.add_sub_cancel]
    exact hthird
  | dayOfWeek =>
    obtain ⟨k, hk⟩ := Int.eq_ofNat_of_zero_le
      (show 0 ≤ CalendarPart.dayOfWeek.ofMoment m by simp only [CalendarPart.ofMoment]; omega)
    have hless : k < 7 := by
      simp only [CalendarPart.ofMoment] at hk
      omega
    rw [hk]
    exact difference_weekday k hless
  | _ => rfl

/-- What is no date has no parts. -/
theorem partReading_of_no_date {value : Json} (h : value.instant? = none) (part : CalendarPart)
    (offset : Int64) : partReading part offset value = .ok .null := by
  obtain ⟨moved, hmoved⟩ := difference_of_no_date h (shift offset)
  have hkey := isKeyValue_difference hmoved (Or.inl h)
  have hnull : partOf part.datePart moved = .null := by
    simp only [partOf, hkey.instant]
  rw [partReading, hmoved, Except.map, hnull]
  cases part <;> decide +kernel

/-! ## Running the stages -/

/-- On the document the stages succeed: they set the target to a value, and all top-level fields
    that are not among the written ones are as they were. -/
def WritesInto (stages : Pipeline) (doc : Json) (target : String) (written : List String)
    (value : Json) : Prop :=
  ∃ later, (Collection.mk [doc]).aggregate stages = .ok [later] ∧ later.get? target = some value ∧
    ∀ key ∉ written, later.get? key = doc.get? key

theorem Sets.get?_of_not_mem {names : List String} {doc later : Json} (h : Sets names doc later)
    (hpoint : ∀ name ∈ names, HasNoPoint name) {key : String} (hkey : key ∉ names) :
    later.get? key = doc.get? key := by
  induction h with
  | same => rfl
  | set value _ hname ih =>
    rw [Json.get?_setPath_of_ne (hpoint _ hname) (ne_of_mem_of_not_mem hname hkey).symm, ih]

section PartStages

variable {source target scratch : String} {part : CalendarPart} {offset : Int64}

/-- The stages of a part write its value. -/
theorem writesInto_partStages (hsource : startsWithDollar source = false)
    (hdollar : part = .quarter → startsWithDollar scratch = false) (htarget : HasNoPoint target)
    (hscratch : HasNoPoint scratch) {doc value : Json} (hdoc : doc.isObject = true)
    (hvalue : partReading part offset ((doc.resolve? source).getD .null) = .ok value) :
    WritesInto (partStages target source part offset scratch) doc target
      (partFields target part scratch) value := by
  obtain ⟨stages, hreads, hcomputes⟩ :=
    computes_partStages part offset htarget hscratch hsource hdollar
  obtain ⟨later, hrun, hsets, hread⟩ := hcomputes.ok doc value hdoc hvalue
  have hpoint : ∀ name ∈ partFields target part scratch, HasNoPoint name := by
    intro name hname
    unfold partFields at hname
    split_ifs at hname
    · rcases List.mem_pair.mp hname with rfl | rfl
      · exact htarget
      · exact hscratch
    · exact List.mem_singleton.mp hname ▸ htarget
  refine ⟨later, (aggregate_of_reads hreads).trans hrun, ?_, fun key hkey => ?_⟩
  · rw [← resolve?_of_noPoint htarget, hread]
  · exact hsets.get?_of_not_mem hpoint hkey

/-- The stages of a part compute the calendar. Where the source is missing or no date, they write
    null. Where it is a date that is no leap second, the date moved back by the offset is at some
    time of some day, and if that lies in the years 0 to 9999 they write the part of it. No other
    field but the intermediate one of a quarter is touched. -/
theorem partStages_write_calendar (hsource : startsWithDollar source = false)
    (hdollar : part = .quarter → startsWithDollar scratch = false) (htarget : HasNoPoint target)
    (hscratch : HasNoPoint scratch) (hoffset : IsOffset offset) {doc : Json}
    (hdoc : doc.isObject = true) :
    ((doc.resolve? source).bind Json.instant? = none →
      WritesInto (partStages target source part offset scratch) doc target
        (partFields target part scratch) .null) ∧
    ∀ x, (doc.resolve? source).bind Json.instant? = some x → x.nanos < 1000000000 →
      ∃ m, (x.back offset.toInt).IsAt m ∧ (0 ≤ m.date.year ∧ m.date.year ≤ 9999 →
        WritesInto (partStages target source part offset scratch) doc target
          (partFields target part scratch) (.ofInt64 (Int64.ofInt (part.ofMoment m)))) := by
  constructor
  · intro hnone
    refine writesInto_partStages hsource hdollar htarget hscratch hdoc
      (partReading_of_no_date ?_ part offset)
    cases hfound : doc.resolve? source with
    | none => rfl
    | some value =>
      rw [hfound] at hnone
      exact hnone
  · intro x hx hnanos
    obtain ⟨value, hfound, hvalue⟩ := Option.bind_eq_some_iff.mp hx
    obtain ⟨m, hm⟩ := (x.back offset.toInt).exists_isAt
    refine ⟨m, hm, fun hyear => ?_⟩
    refine writesInto_partStages hsource hdollar htarget hscratch hdoc ?_
    rw [hfound]
    exact partReading_of_isAt hvalue hnanos hoffset hm hyear part

end PartStages

/-- A document with a date. -/
def sentAt (text : String) : Json := .single "sent" (.single "$date" (.string text))

/-- The first half hour of the second quarter is in the first where clocks are an hour behind. -/
theorem partStages_write_quarter :
    WritesInto (partStages "quarter" "sent" .quarter 60 "half") (sentAt "2024-04-01T00:30:00.5Z")
      "quarter" ["quarter", "half"] (.ofInt64 1) := by
  have hsent : ((sentAt "2024-04-01T00:30:00.5Z").resolve? "sent").bind Json.instant? =
      some ⟨1711931400, 500000000⟩ := by
    decide +kernel
  have htarget : HasNoPoint "quarter" := by unfold HasNoPoint; decide
  have hscratch : HasNoPoint "half" := by unfold HasNoPoint; decide
  have hoffset : IsOffset 60 := by unfold IsOffset; decide
  obtain ⟨m, hm, hwrites⟩ := (@partStages_write_calendar "sent" "quarter" "half" .quarter 60
    (by decide) (fun _ => by decide) htarget hscratch hoffset (sentAt "2024-04-01T00:30:00.5Z") rfl).2 _
      hsent (by decide)
  have hdate : m.date = ⟨2024, 3, 31⟩ := by
    rw [← hm.parts.2.1]
    decide +kernel
  have hquarter : CalendarPart.quarter.ofMoment m = 1 := by
    rw [CalendarPart.ofMoment, hdate]
    rfl
  rw [hdate, hquarter] at hwrites
  exact hwrites (by decide)

/-- An intermediate field whose name starts with a dollar sign cannot be read: nothing is
    written. -/
theorem partStages_of_dollar_scratch :
    HasNoPoint "quarter" ∧ HasNoPoint "$half" ∧
      ((sentAt "2024-05-06T07:08:09Z").resolve? "sent").bind Json.instant? =
        some ⟨1714979289, 0⟩ ∧
      (Instant.back ⟨1714979289, 0⟩ 0).IsAt ⟨19849, ⟨2024, 5, 6⟩, 7, 8, 9⟩ ∧
      ¬WritesInto (partStages "quarter" "sent" .quarter 0 "$half") (sentAt "2024-05-06T07:08:09Z")
        "quarter" ["quarter", "$half"] (.ofInt64 2) := by
  refine ⟨by unfold HasNoPoint; decide, by unfold HasNoPoint; decide, by decide +kernel, ?_, ?_⟩
  · exact ⟨isDay_iff.mpr (by decide), by decide, by decide, by decide, by decide⟩
  · rintro ⟨later, hlater, -⟩
    -- The second stage has been read, and with it the reference to the intermediate field.
    obtain ⟨stages, hreads, -⟩ := aggregate_eq_ok.mp hlater
    obtain ⟨_, rest, -, hrest, -⟩ := mapM_cons_eq_ok.mp hreads
    obtain ⟨stage, _, hstage, -⟩ := mapM_cons_eq_ok.mp hrest
    obtain ⟨_, hquotient⟩ := ofJson_addField_eq_ok hstage
    obtain ⟨_, hdifference⟩ := ofJson_binary_eq_ok .divide hquotient
    obtain ⟨_, hreference⟩ := ofJson_binary_eq_ok .subtract hdifference
    obtain ⟨-, hname⟩ := ofJson_reference_of_dollar (by decide) hreference
    revert hname
    decide

end GridQuery
