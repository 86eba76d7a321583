import Mathlib
import GridQuery.Request.Config
import GridQuery.Proofs.CalendarParts

/-!
# What configurations are valid

A configuration is valid if its log level is the name of a severity and its time zone lies within a
day. The magnitude of an offset is taken in words of 64 bits, in which the least word has no
positive counterpart: it is its own magnitude and comes below every bound.

Results:
* `Severity.isSome_ofName?_iff`: the names of severities, in any case of ASCII letters.
* `Config.magnitude_le_iff`: the offsets whose magnitude is within a day, the least word among them.
* `Config.validate_eq`: what validating says, and which of two faults it reports.
* `Config.validate_exact_iff`: it lets through the valid configurations and no others, and the
  milliseconds of their offsets are exact, unless the offset is the least word.
-/

namespace GridQuery

open Pipeline (extraction reference)

/-! ## Log levels -/

/-- Two texts that differ in the case of ASCII letters at most. -/
def SameUpToCase (a b : String) : Prop := a.map Char.toLower = b.map Char.toLower

instance (a b : String) : Decidable (SameUpToCase a b) :=
  inferInstanceAs (Decidable (_ = _))

namespace Severity

/-- The names by which a severity is asked for. -/
def knownNames : List String := ["trace", "info", "warn", "warning", "error"]

theorem map_toLower_of_known : ∀ known ∈ knownNames, known.map Char.toLower = known := by
  decide +kernel

theorem isSome_ofName?_iff (name : String) :
    (ofName? name).isSome = true ↔ ∃ known ∈ knownNames, SameUpToCase name known := by
  have hlower : (∃ known ∈ knownNames, SameUpToCase name known) ↔
      name.map Char.toLower ∈ knownNames := by
    constructor
    · rintro ⟨known, hknown, hsame⟩
      rw [hsame, map_toLower_of_known known hknown]
      exact hknown
    · intro hmem
      exact ⟨_, hmem, (map_toLower_of_known _ hmem).symm⟩
  rw [hlower, ofName?]
  split <;> simp_all [knownNames]

end Severity

namespace Config

/-- The log level is the name of a severity, in any case of ASCII letters. -/
def HasLevel (c : Config) : Prop := ∃ known ∈ Severity.knownNames, SameUpToCase c.logLevel known

instance (c : Config) : Decidable c.HasLevel :=
  inferInstanceAs (Decidable (∃ known ∈ Severity.knownNames, SameUpToCase c.logLevel known))

/-! ## Offsets -/

theorem toInt_magnitude {offset : Int64} (h : offset ≠ Int64.minValue) :
    (magnitude offset).toInt = |offset.toInt| := by
  have hlow := offset.minValue_le_toInt
  have hhigh := offset.toInt_lt
  have hne : offset.toInt ≠ Int64.minValue.toInt := fun heq => h (Int64.toInt_inj.mp heq)
  simp only [Int64.toInt_minValue] at hlow hne
  unfold magnitude
  by_cases hneg : offset < 0
  · have hless : offset.toInt < 0 := Int64.lt_iff_toInt_lt.mp hneg
    rw [if_pos hneg, Int64.toInt_neg, abs_of_neg hless]
    exact Int.bmod_eq_of_le (by omega) (by omega)
  · have hle : 0 ≤ offset.toInt := by
      by_contra hless
      exact hneg (Int64.lt_iff_toInt_lt.mpr (by simpa using hless))
    rw [if_neg hneg, abs_of_nonneg hle]

/-- The least word is its own magnitude. -/
theorem magnitude_minValue : magnitude Int64.minValue = Int64.minValue := by decide

theorem magnitude_le_iff (offset : Int64) :
    ¬1440 < magnitude offset ↔ IsOffset offset ∨ offset = Int64.minValue := by
  by_cases hleast : offset = Int64.minValue
  · subst hleast
    rw [magnitude_minValue]
    exact iff_of_true (by decide) (.inr rfl)
  · rw [Int64.lt_iff_toInt_lt, toInt_magnitude hleast, not_lt, or_iff_left hleast, IsOffset]
    exact abs_le

instance (offset : Int64) : Decidable (IsOffset offset) :=
  inferInstanceAs (Decidable (_ ∧ _))

/-! ## Validating -/

/-- An unknown log level is reported before an offset out of range. -/
theorem validate_eq (c : Config) :
    c.validate =
      if ¬c.HasLevel then .error (.unknownLogLevel c.logLevel)
      else if IsOffset c.timezoneOffset ∨ c.timezoneOffset = Int64.minValue then .ok ()
      else .error (.timezoneOutOfRange c.timezoneOffset) := by
  have hlevel : (Severity.ofName? c.logLevel).isNone = true ↔ ¬c.HasLevel := by
    rw [HasLevel, ← Severity.isSome_ofName?_iff, Option.not_isSome_iff_eq_none,
      Option.isNone_iff_eq_none]
  rw [validate]
  simp only [hlevel, ← magnitude_le_iff]
  split_ifs <;> rfl

theorem validate_eq_ok {c : Config} :
    c.validate = .ok () ↔
      c.HasLevel ∧ (IsOffset c.timezoneOffset ∨ c.timezoneOffset = Int64.minValue) := by
  rw [validate_eq]
  split_ifs with hlevel hoffset <;> simp_all

/-- What is read from a text has been validated. -/
theorem validate_of_ofText {text : String} {c : Config} (h : ofText text = .ok c) :
    c.validate = .ok () := by
  unfold ofText at h
  cases hdecode : decodeText decoder text with
  | error e => simp [hdecode] at h
  | ok config =>
    cases hvalidate : config.validate with
    | error e => simp [hdecode, hvalidate, Except.map] at h
    | ok _ =>
      simp only [hdecode, hvalidate, Except.map, Except.ok.injEq] at h
      exact h ▸ hvalidate

/-! ## Milliseconds -/

/-- The stages of a calendar part subtract from a date the offset in milliseconds, exactly. -/
def SubtractsMillis (offset : Int64) : Prop :=
  ∃ hrange : InWordRange (offset.toInt * 60000), ∀ source part,
    extraction source part offset = .single part.operator
      (.single "$subtract"
        (.array [reference source, .number (.int (offset.toInt * 60000) hrange)]))

theorem subtractsMillis_of_isOffset {offset : Int64} (h : IsOffset offset) :
    SubtractsMillis offset := by
  have hmillis := h.toInt_millis
  refine ⟨hmillis ▸ Number.inWordRange_toInt (offset * 60 * 1000), fun source part => ?_⟩
  simp only [extraction, Json.ofInt64, Number.ofInt64, hmillis]

/-- Validating tells valid configurations from others, and makes the arithmetic of the time zone
    safe. -/
structure IsCheckedExactly (c : Config) : Prop where
  accepted : c.validate = .ok () ↔ c.HasLevel ∧ IsOffset c.timezoneOffset
  refused : ¬(c.HasLevel ∧ IsOffset c.timezoneOffset) →
    c.validate = .error (if c.HasLevel then .timezoneOutOfRange c.timezoneOffset
      else .unknownLogLevel c.logLevel)
  safe : ∀ text, ofText text = .ok c → SubtractsMillis c.timezoneOffset

/-- The least offset is no offset, and is let through. -/
theorem validate_exact_iff (c : Config) :
    c.IsCheckedExactly ↔ ¬(c.HasLevel ∧ c.timezoneOffset = Int64.minValue) := by
  constructor
  · rintro h ⟨hlevel, hleast⟩
    have hok : c.validate = .ok () := validate_eq_ok.mpr ⟨hlevel, .inr hleast⟩
    have hoffset : IsOffset Int64.minValue := hleast ▸ (h.accepted.mp hok).2
    exact absurd hoffset (by decide)
  · intro hnot
    have hor : c.HasLevel → (IsOffset c.timezoneOffset ∨ c.timezoneOffset = Int64.minValue ↔
        IsOffset c.timezoneOffset) := fun hlevel =>
      or_iff_left fun hleast => hnot ⟨hlevel, hleast⟩
    have haccepted : c.validate = .ok () ↔ c.HasLevel ∧ IsOffset c.timezoneOffset := by
      rw [validate_eq_ok]
      exact and_congr_right hor
    refine ⟨haccepted, fun hinvalid => ?_, fun text htext => ?_⟩
    · rw [validate_eq]
      by_cases hlevel : c.HasLevel
      · have hoffset : ¬IsOffset c.timezoneOffset := fun hoffset => hinvalid ⟨hlevel, hoffset⟩
        rw [if_neg (not_not.mpr hlevel), if_pos hlevel, if_neg (mt (hor hlevel).mp hoffset)]
      · rw [if_pos hlevel, if_neg hlevel]
    · exact subtractsMillis_of_isOffset (haccepted.mp (validate_of_ofText htext)).2

/-- The least offset is read and let through, and its milliseconds come out as none. -/
theorem validate_leastOffset :
    ({ timezoneOffset := Int64.minValue } : Config).validate = .ok () ∧
      ¬IsOffset Int64.minValue ∧
      ofText "\x7b\"timezone_offset\":-9223372036854775808\x7d" =
        .ok { timezoneOffset := Int64.minValue } ∧
      (Int64.minValue * 60 * 1000).toInt = 0 := by
  refine ⟨by decide +kernel, by decide, by decide +kernel, by decide⟩

end Config

end GridQuery
