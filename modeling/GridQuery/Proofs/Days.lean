import Mathlib
import GridQuery.Calendar.Instant

/-!
# Days of the calendar

Days are counted by going from each date to the one after it: to the next day of the month, from
its last day to the next month, and from the end of a year to the next year. The formulas for day
numbers and dates agree with this count in both directions.

Results:
* `daysOfDate_next`: the date after a date has the next day number.
* `dateOfDays_daysOfDate`, `daysOfDate_dateOfDays`: dates and day numbers determine each other.
* `isDay_iff`: the date of a day number is the one that counting from 1970 leads to.
* `Instant.exists_isAt`: every instant is at some time of some day.
-/

namespace GridQuery

/-! ## Counting days -/

/-- The date after a date. -/
def Date.next (d : Date) : Date :=
  if d.day < monthLength d.year d.month then { d with day := d.day + 1 }
  else if d.month < 12 then ⟨d.year, d.month + 1, 1⟩
  else ⟨d.year + 1, 1, 1⟩

/-- The first day that is counted. -/
def epoch : Date := ⟨1970, 1, 1⟩

/-- The date is so many days after the first one that is counted, or before it. -/
inductive IsDay : Int → Date → Prop
  | epoch : IsDay 0 epoch
  | next {n : Int} {d : Date} : IsDay n d → IsDay (n + 1) d.next
  | before {n : Int} {d : Date} : d.isValid = true → IsDay n d.next → IsDay (n - 1) d

theorem isValid_iff {d : Date} : d.isValid = true ↔
    1 ≤ d.month ∧ d.month ≤ 12 ∧ 1 ≤ d.day ∧ d.day ≤ monthLength d.year d.month := by
  simp [Date.isValid, and_assoc]

theorem isLeapYear_iff {year : Int} :
    isLeapYear year = true ↔ year % 4 = 0 ∧ (year % 100 ≠ 0 ∨ year % 400 = 0) := by
  simp [isLeapYear]

theorem monthLength_pos (year : Int) (month : Nat) : 28 ≤ monthLength year month := by
  unfold monthLength
  split_ifs <;> omega

theorem isValid_next {d : Date} (h : d.isValid = true) : d.next.isValid = true := by
  obtain ⟨h₁, h₂, h₃, h₄⟩ := isValid_iff.mp h
  unfold Date.next
  split_ifs with hday hmonth
  · exact isValid_iff.mpr ⟨h₁, h₂, by simp, hday⟩
  · have := monthLength_pos d.year (d.month + 1)
    exact isValid_iff.mpr ⟨by simp, hmonth, le_rfl, by simp only; omega⟩
  · exact isValid_iff.mpr ⟨le_rfl, by simp, le_rfl, by simp [monthLength]⟩

/-! ## Years that start in March -/

/-- The days before a year that starts in March. -/
def yearStart (year : Int) : Int := 365 * year + year / 4 - year / 100 + year / 400

/-- The days before a month in a year that starts in March. -/
def monthStart (month : Nat) : Int :=
  (153 * (if month ≤ 2 then (month : Int) + 9 else month - 3) + 2) / 5

/-- The year that has started in the March before a date. -/
def Date.marchYear (d : Date) : Int := if d.month ≤ 2 then d.year - 1 else d.year

/-- The days since the first of March. -/
def Date.dayOfYear (d : Date) : Int := monthStart d.month + d.day - 1

theorem daysOfDate_eq (d : Date) :
    daysOfDate d = yearStart d.marchYear + d.dayOfYear - epochShift := by
  simp only [daysOfDate, yearStart, Date.marchYear, Date.dayOfYear, monthStart, cycleDays]
  generalize (if d.month ≤ 2 then d.year - 1 else d.year) = y
  generalize (153 * (if d.month ≤ 2 then (d.month : Int) + 9 else d.month - 3) + 2) / 5 = m
  have h₁ : y % 400 / 4 = y / 4 - 100 * (y / 400) := by omega
  have h₂ : y % 400 / 100 = y / 100 - 4 * (y / 400) := by omega
  rw [h₁, h₂]
  omega

/-- A year that starts in March has a leap day if the year in which it ends is a leap year. -/
theorem yearStart_succ (year : Int) :
    yearStart (year + 1) = yearStart year + if isLeapYear (year + 1) then 366 else 365 := by
  have h₄ : (year + 1) / 4 = year / 4 + if (year + 1) % 4 = 0 then 1 else 0 := by
    split_ifs <;> omega
  have h₁₀₀ : (year + 1) / 100 = year / 100 + if (year + 1) % 100 = 0 then 1 else 0 := by
    split_ifs <;> omega
  have h₄₀₀ : (year + 1) / 400 = year / 400 + if (year + 1) % 400 = 0 then 1 else 0 := by
    split_ifs <;> omega
  have hmod : (year + 1) % 100 = 0 → (year + 1) % 4 = 0 := by omega
  have hmod' : (year + 1) % 400 = 0 → (year + 1) % 100 = 0 := by omega
  simp only [yearStart, h₄, h₁₀₀, h₄₀₀, isLeapYear_iff]
  generalize (year + 1) % 4 = a at *
  generalize (year + 1) % 100 = b at *
  generalize (year + 1) % 400 = c at *
  split_ifs <;> omega

/-- The days of February, by the leap years. -/
theorem monthLength_february (year : Int) :
    monthLength year 2 = if isLeapYear year then 29 else 28 := by
  simp [monthLength]

/-- Each month starts where the one before it ends; February is the last one. -/
theorem monthStart_succ (year : Int) {month : Nat} (h₁ : 1 ≤ month) (h₂ : month < 12)
    (hmonth : month ≠ 2) : monthStart (month + 1) = monthStart month + monthLength year month := by
  interval_cases month <;> simp_all [monthStart, monthLength]

/-- The date after a date has the next day number. -/
theorem daysOfDate_next {d : Date} (h : d.isValid = true) :
    daysOfDate d.next = daysOfDate d + 1 := by
  obtain ⟨h₁, h₂, h₃, h₄⟩ := isValid_iff.mp h
  rw [daysOfDate_eq, daysOfDate_eq]
  unfold Date.next
  split_ifs with hday hmonth
  · simp only [Date.marchYear, Date.dayOfYear]
    push_cast
    omega
  · have hlast : d.day = monthLength d.year d.month := by omega
    by_cases hfebruary : d.month = 2
    · have hyear := yearStart_succ (d.year - 1)
      rw [Int.sub_add_cancel] at hyear
      rw [hfebruary, monthLength_february] at hlast
      simp only [Date.marchYear, Date.dayOfYear, hfebruary, hlast, monthStart]
      cases hleap : isLeapYear d.year <;> rw [hleap] at hyear <;> norm_num at hyear ⊢ <;> omega
    · have hstart := monthStart_succ d.year h₁ hmonth hfebruary
      have hyear : (d.month + 1 ≤ 2 ↔ d.month ≤ 2) := by omega
      simp only [Date.marchYear, Date.dayOfYear, hstart, hlast, hyear]
      push_cast
      omega
  · have hdecember : d.month = 12 := by omega
    have hlast : d.day = 31 := by
      have : d.day = monthLength d.year d.month := by omega
      rw [this, hdecember]
      simp [monthLength]
    simp only [Date.marchYear, Date.dayOfYear, hdecember, hlast, monthStart]
    norm_num
    omega

/-! ## The date of a day -/

/-- The year of a day in a cycle of 400 years that start in March. -/
def yearOfCycle (day : Int) : Int :=
  (day - day / 1460 + day / 36524 - day / 146096) / 365

/-- The formula for the year, in centuries of 24 periods of four years and one of three or four. -/
theorem yearOfCycle_parts {century period year day : Int} (hcentury : 0 ≤ century ∧ century ≤ 3)
    (hperiod : 0 ≤ period ∧ period ≤ 24) (hyear : 0 ≤ year ∧ year ≤ 3) (hday : 0 ≤ day ∧ day ≤ 365)
    (hleap : day = 365 → year = 3 ∧ (period = 24 → century = 3)) :
    yearOfCycle (36524 * century + 1461 * period + 365 * year + day) =
      100 * century + 4 * period + year := by
  generalize hn : 36524 * century + 1461 * period + 365 * year + day = n
  rw [yearOfCycle]
  by_cases hlast : n < 146096
  · have h₁ : n / 36524 = century := by
      have : 1461 * period + 365 * year + day < 36524 := by omega
      omega
    have h₂ : n / 146096 = 0 := by omega
    rw [h₁, h₂]
    -- A day is skipped in every 1460, which comes late in the last year of a period.
    by_cases hskip : 1460 ≤ 24 * century + period + 365 * year + day
    · have h₃ : n / 1460 = 25 * century + period + 1 := by omega
      have hfirst : 1 ≤ day := by omega
      rw [h₃]
      omega
    · have h₃ : n / 1460 = 25 * century + period := by omega
      have hlast : day ≤ 364 := by omega
      rw [h₃]
      omega
  · have hn' : n = 146096 := by omega
    subst hn'
    omega

theorem yearOfCycle_eq {year day : Int} (hyear : 0 ≤ year ∧ year < 400)
    (hday : 0 ≤ day ∧ day ≤ 365) (hleap : day = 365 → isLeapYear (year + 1) = true) :
    yearOfCycle (365 * year + year / 4 - year / 100 + day) = year := by
  have hparts := @yearOfCycle_parts (year / 100) (year % 100 / 4) (year % 4) day
    (by omega) (by omega) (by omega) hday fun h => by
      have hleap := isLeapYear_iff.mp (hleap h)
      omega
  have hn : 36524 * (year / 100) + 1461 * (year % 100 / 4) + 365 * (year % 4) + day =
      365 * year + year / 4 - year / 100 + day := by omega
  rw [hn] at hparts
  omega

/-- A year that starts in March has 366 days at most, and only if it ends in a leap year. -/
theorem dayOfYear_bounds {d : Date} (h : d.isValid = true) :
    0 ≤ d.dayOfYear ∧ d.dayOfYear ≤ 365 ∧
      (d.dayOfYear = 365 → isLeapYear (d.marchYear + 1) = true) := by
  obtain ⟨year, month, day⟩ := d
  obtain ⟨h₁, h₂, h₃, h₄⟩ := isValid_iff.mp h
  simp only at h₁ h₂ h₃ h₄
  cases hleap : isLeapYear year <;> interval_cases month <;>
    simp [monthLength, hleap] at h₄ <;>
    simp [Date.dayOfYear, Date.marchYear, monthStart, hleap] <;> omega

/-- The month and the day of it are found from the days since the first of March. -/
theorem month_of_dayOfYear {d : Date} (h : d.isValid = true) :
    (5 * d.dayOfYear + 2) / 153 = if d.month ≤ 2 then (d.month : Int) + 9 else d.month - 3 := by
  obtain ⟨year, month, day⟩ := d
  obtain ⟨h₁, h₂, h₃, h₄⟩ := isValid_iff.mp h
  simp only at h₁ h₂ h₃ h₄
  cases hleap : isLeapYear year <;> interval_cases month <;>
    simp [monthLength, hleap] at h₄ <;>
    simp [Date.dayOfYear, monthStart] <;> omega

/-- A day number in cycles of 400 years. -/
theorem daysOfDate_cycles {d : Date} (h : d.isValid = true) :
    (daysOfDate d + epochShift) / cycleDays = d.marchYear / 400 ∧
      (daysOfDate d + epochShift) % cycleDays =
        365 * (d.marchYear % 400) + d.marchYear % 400 / 4 - d.marchYear % 400 / 100 +
          d.dayOfYear := by
  obtain ⟨hlow, hhigh, hleap⟩ := dayOfYear_bounds h
  rw [daysOfDate_eq, Int.sub_add_cancel, yearStart, cycleDays]
  generalize d.marchYear = y at *
  generalize d.dayOfYear = t at *
  have h₁ : y % 400 / 4 = y / 4 - 100 * (y / 400) := by omega
  have h₂ : y % 400 / 100 = y / 100 - 4 * (y / 400) := by omega
  have hbound : 365 * (y % 400) + y % 400 / 4 - y % 400 / 100 + t < 146097 := by omega
  have hsum : 365 * y + y / 4 - y / 100 + y / 400 + t =
      146097 * (y / 400) + (365 * (y % 400) + y % 400 / 4 - y % 400 / 100 + t) := by omega
  omega

/-- The date of the day number of a date. -/
theorem dateOfDays_daysOfDate {d : Date} (h : d.isValid = true) :
    dateOfDays (daysOfDate d) = d := by
  obtain ⟨hcycle, hday⟩ := daysOfDate_cycles h
  obtain ⟨hlow, hhigh, hleap⟩ := dayOfYear_bounds h
  have hmonth := month_of_dayOfYear h
  obtain ⟨h₁, h₂, h₃, -⟩ := isValid_iff.mp h
  have hyear : yearOfCycle ((daysOfDate d + epochShift) % cycleDays) = d.marchYear % 400 := by
    rw [hday]
    refine yearOfCycle_eq (by omega) ⟨hlow, hhigh⟩ fun h => ?_
    have := isLeapYear_iff.mp (hleap h)
    exact isLeapYear_iff.mpr (by omega)
  have hrest : (daysOfDate d + epochShift) % cycleDays - (365 * (d.marchYear % 400) +
      d.marchYear % 400 / 4 - d.marchYear % 400 / 100) = d.dayOfYear := by omega
  rw [yearOfCycle] at hyear
  simp only [dateOfDays, hyear, hcycle, hrest, hmonth]
  obtain ⟨year, month, day⟩ := d
  simp only [Date.marchYear, Date.dayOfYear, monthStart, Date.mk.injEq] at *
  split_ifs <;> omega

/-! ## The day of a date -/

/-- The same date 400 years later. -/
def Date.nextCycle (d : Date) : Date := { d with year := d.year + 400 }

theorem isValid_nextCycle (d : Date) : d.nextCycle.isValid = d.isValid := by
  have hleap : isLeapYear (d.year + 400) = isLeapYear d.year := by
    rw [Bool.eq_iff_iff, isLeapYear_iff, isLeapYear_iff]
    omega
  have hlength : monthLength (d.year + 400) d.month = monthLength d.year d.month := by
    rw [monthLength, monthLength, hleap]
  rw [Date.isValid, Date.isValid, Date.nextCycle, hlength]

theorem daysOfDate_nextCycle (d : Date) : daysOfDate d.nextCycle = daysOfDate d + cycleDays := by
  have hyear : d.nextCycle.marchYear = d.marchYear + 400 := by
    simp only [Date.marchYear, Date.nextCycle]
    split_ifs <;> omega
  rw [daysOfDate_eq, daysOfDate_eq, hyear, yearStart, yearStart, cycleDays]
  have hday : d.nextCycle.dayOfYear = d.dayOfYear := rfl
  omega

theorem dateOfDays_nextCycle (n : Int) : dateOfDays (n + cycleDays) = (dateOfDays n).nextCycle := by
  have hmod : (n + cycleDays + epochShift) % cycleDays = (n + epochShift) % cycleDays := by
    rw [add_right_comm, Int.add_emod_right]
  have hdiv : (n + cycleDays + epochShift) / cycleDays = (n + epochShift) / cycleDays + 1 := by
    rw [add_right_comm, Int.add_ediv_of_dvd_right dvd_rfl, Int.ediv_self (by decide)]
  simp only [dateOfDays, Date.nextCycle, hmod, hdiv, Date.mk.injEq, and_true]
  split_ifs <;> omega

/-- What is true of a day 400 years later. -/
theorem date_of_nextCycle {n : Int} (h : (dateOfDays (n + cycleDays)).isValid = true ∧
    daysOfDate (dateOfDays (n + cycleDays)) = n + cycleDays) :
    (dateOfDays n).isValid = true ∧ daysOfDate (dateOfDays n) = n := by
  rw [dateOfDays_nextCycle, isValid_nextCycle, daysOfDate_nextCycle] at h
  exact ⟨h.1, by omega⟩

/-- The date of a day from the first one on is a date, and has its day number. -/
theorem date_of_natCast (n : Nat) :
    (dateOfDays n).isValid = true ∧ daysOfDate (dateOfDays n) = n := by
  induction n with
  | zero => decide
  | succ n ih =>
    obtain ⟨hvalid, hday⟩ := ih
    have hnext := daysOfDate_next hvalid
    have hdate : dateOfDays ((n + 1 : Nat) : Int) = (dateOfDays n).next := by
      rw [Nat.cast_succ, ← hday, ← hnext, dateOfDays_daysOfDate (isValid_next hvalid), hday]
    rw [hdate, hnext, hday]
    exact ⟨isValid_next hvalid, by omega⟩

/-- The date of any day is a date, and has its day number. -/
theorem date_of_day (n : Int) : (dateOfDays n).isValid = true ∧ daysOfDate (dateOfDays n) = n := by
  -- Going on by enough cycles of 400 years leads to a day that is not before the first one.
  have hcycles : ∀ (k : Nat) (n : Int), 0 ≤ n + cycleDays * k →
      (dateOfDays n).isValid = true ∧ daysOfDate (dateOfDays n) = n := by
    intro k
    induction k with
    | zero =>
      intro n hn
      obtain ⟨m, rfl⟩ := Int.eq_ofNat_of_zero_le (show 0 ≤ n by omega)
      exact date_of_natCast m
    | succ k ih =>
      intro n hn
      refine date_of_nextCycle (ih (n + cycleDays) ?_)
      push_cast at hn
      linarith
  refine hcycles n.natAbs n ?_
  rw [cycleDays]
  omega

theorem isValid_dateOfDays (n : Int) : (dateOfDays n).isValid = true := (date_of_day n).1

/-- The day number of the date of a day. -/
@[simp] theorem daysOfDate_dateOfDays (n : Int) : daysOfDate (dateOfDays n) = n := (date_of_day n).2

theorem dateOfDays_succ (n : Int) : dateOfDays (n + 1) = (dateOfDays n).next := by
  have hnext := daysOfDate_next (isValid_dateOfDays n)
  rw [daysOfDate_dateOfDays] at hnext
  rw [← hnext, dateOfDays_daysOfDate (isValid_next (isValid_dateOfDays n))]

/-- The date of a day number is the one that counting leads to. -/
theorem isDay_iff {n : Int} {d : Date} : IsDay n d ↔ d = dateOfDays n := by
  constructor
  · intro h
    induction h with
    | epoch => rfl
    | next _ ih => rw [dateOfDays_succ, ih]
    | @before n d hvalid _ ih =>
      have hnext := daysOfDate_next hvalid
      rw [ih, daysOfDate_dateOfDays] at hnext
      rw [← dateOfDays_daysOfDate hvalid]
      congr 1
      omega
  · rintro rfl
    induction n using Int.induction_on with
    | zero => exact .epoch
    | succ n ih => exact dateOfDays_succ n ▸ ih.next
    | pred n ih =>
      have hnext := dateOfDays_succ (-n - 1)
      rw [Int.sub_add_cancel] at hnext
      exact .before (isValid_dateOfDays _) (hnext ▸ ih)

/-! ## Times of days -/

/-- A time of a day, to the second. The day stands for itself and with its date. -/
structure Moment where
  day : Int
  date : Date
  hour : Nat
  minute : Nat
  second : Nat

/-- The instant is within the second of the given time. -/
structure Instant.IsAt (x : Instant) (m : Moment) : Prop where
  day : IsDay m.day m.date
  hour : m.hour < 24
  minute : m.minute < 60
  second : m.second < 60
  seconds : x.seconds = ((m.day * 24 + m.hour) * 60 + m.minute) * 60 + m.second

namespace Instant

/-- Every instant is at some time of some day. -/
theorem exists_isAt (x : Instant) : ∃ m, x.IsAt m := by
  refine ⟨⟨x.days, x.date, x.hour.toNat, x.minute.toNat, x.secondOfMinute.toNat⟩,
    isDay_iff.mpr rfl, ?_, ?_, ?_, ?_⟩
  all_goals
    simp only [Instant.hour, Instant.minute, Instant.secondOfMinute, Instant.secondOfDay,
      Instant.days, Instant.day]
    omega

variable {x : Instant} {m : Moment}

/-- The parts of an instant are those of its time. -/
theorem IsAt.parts (h : x.IsAt m) : x.days = m.day ∧ x.date = m.date ∧ x.hour = m.hour ∧
    x.minute = m.minute ∧ x.secondOfMinute = m.second := by
  obtain ⟨hday, hhour, hminute, hsecond, hseconds⟩ := h
  have hdays : x.days = m.day := by
    rw [Instant.days, Instant.day]
    omega
  refine ⟨hdays, by rw [Instant.date, hdays, isDay_iff.mp hday], ?_, ?_, ?_⟩
  all_goals
    simp only [Instant.hour, Instant.minute, Instant.secondOfMinute, Instant.secondOfDay,
      Instant.day]
    omega

end Instant

end GridQuery
