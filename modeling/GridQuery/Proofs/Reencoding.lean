import Mathlib
import GridQuery.Proofs.RequestFields

/-!
# Requests written and read again

A request is written with all its parts, null for what is absent, and a group level without an
interval leaves it out. What has been read can be written and read again: a filter and a search
value are never null and never repeat a key, and every other part can be written in one way only.

Results:
* `Decoder.Restores`: a decoder reads what was written as it was, and how lists pass this on.
* `SortField.restores`, `GroupLevel.restores`, `Summary.restores`, `SearchFields.restores`: the
  parts of a request, in any form that they can take.
* `LoadOptions.exists_ofValue_iff`: the requests that some value holds.
* `LoadOptions.ofValue_toJson_of_ofValue`: what is read from a value is read again from what is
  written for it.
-/

namespace GridQuery

namespace Decoder

/-! ## Decoders that read what was written -/

/-- What is written for a value is read as that value; it is not null and repeats no key. -/
structure Restores {α : Type} (decode : Decoder α) (encode : α → Json) : Prop where
  read : ∀ a, decode .value (.ofJson (encode a)) = .ok a
  ne_null : ∀ a, encode a ≠ .null
  wellFormed : ∀ a, (encode a).WellFormed

section Restoring

variable {α : Type} {decode : Decoder α} {encode : α → Json}

theorem ofJson_ne_null {value : Json} (h : value ≠ .null) : Draft.ofJson value ≠ .null := by
  cases value <;> simp_all [Draft.ofJson]

theorem restores_bool : Restores bool .bool where
  read _ := rfl
  ne_null _ := by simp
  wellFormed _ := by simp [Json.WellFormed]

theorem restores_string : Restores string .string where
  read _ := rfl
  ne_null _ := by simp
  wellFormed _ := by simp [Json.WellFormed]

theorem restores_uint64 : Restores uint64 .ofUInt64 where
  read n := by
    have hlow : (0 : Int) ≤ n.toNat := Int.natCast_nonneg _
    have hhigh : (n.toNat : Int) < 0x10000000000000000 := by
      have := n.toNat_lt
      omega
    show uint64 .value (.number (some (.int n.toNat _))) = .ok n
    rw [uint64, integer, if_pos ⟨hlow, hhigh⟩]
    simp [Except.map]
  ne_null _ := by simp [Json.ofUInt64]
  wellFormed _ := by simp [Json.ofUInt64, Json.WellFormed]

theorem Restores.list (h : Restores decode encode) :
    Restores (list decode) fun items => .array (items.map encode) where
  read items := by
    rw [list_array_eq_ok, List.forall₂_map_left_iff, List.forall₂_same]
    intro item _
    exact h.read item
  ne_null _ := by simp
  wellFormed items := by
    rw [Json.WellFormed, Json.itemsWellFormed_iff]
    intro value hvalue
    obtain ⟨item, -, rfl⟩ := List.mem_map.mp hvalue
    exact h.wellFormed item

theorem Restores.orDefault (h : Restores decode encode) (default : α) :
    Restores (orDefault default decode) encode where
  read a := by
    rw [orDefault_of_ne_null (ofJson_ne_null (h.ne_null a))]
    exact h.read a
  ne_null := h.ne_null
  wellFormed := h.wellFormed

/-- An absent value is written as null. -/
theorem Restores.nullable (h : Restores decode encode) (part : Option α) :
    nullable decode .value (.ofJson ((part.map encode).getD .null)) = .ok part := by
  cases part with
  | none => rfl
  | some a =>
    rw [Option.map_some, Option.getD_some, nullable_of_ne_null (ofJson_ne_null (h.ne_null a)),
      h.read a]
    rfl

theorem Restores.wellFormed_nullable (h : Restores decode encode) (part : Option α) :
    ((part.map encode).getD .null).WellFormed := by
  cases part with
  | none => simp [Json.WellFormed]
  | some a => exact h.wellFormed a

end Restoring

/-- A part that holds any value: present, it is not null and repeats no key. -/
def IsCarried (part : Option Json) : Prop :=
  ∀ value, part = some value → value.WellFormed ∧ value ≠ .null

theorem nullable_json_getD {part : Option Json} (h : IsCarried part) :
    nullable json .value (.ofJson (part.getD .null)) = .ok part := by
  cases part with
  | none => rfl
  | some value =>
    obtain ⟨hform, hnull⟩ := h value rfl
    rw [Option.getD_some, nullable_of_ne_null (ofJson_ne_null hnull), json,
      Draft.json?_ofJson hform]
    rfl

theorem IsCarried.wellFormed_getD {part : Option Json} (h : IsCarried part) :
    (part.getD .null).WellFormed := by
  cases part with
  | none => simp [Json.WellFormed]
  | some value => exact (h value rfl).1

/-- Only the null draft has the value null. -/
theorem eq_null_of_json? {origin : Origin} {draft : Draft}
    (h : draft.json? origin = some .null) : draft = .null := by
  cases draft with
  | null => rfl
  | bool b => simp [Draft.json?] at h
  | number n => simp [Draft.json?] at h
  | string s => simp [Draft.json?] at h
  | broken => simp [Draft.json?] at h
  | array items closed =>
    simp only [Draft.json?, Option.bind_eq_bind, Option.bind_eq_some_iff] at h
    obtain ⟨_, -, _, -, h⟩ := h
    split_ifs at h
    simp at h
  | object entries closed =>
    simp only [Draft.json?, Option.bind_eq_bind, Option.bind_eq_some_iff] at h
    obtain ⟨_, -, _, -, h⟩ := h
    split_ifs at h
    simp at h

theorem isCarried_of_nullable_json {origin : Origin} {draft : Draft} {part : Option Json}
    (h : nullable json origin draft = .ok part) : IsCarried part := by
  intro value hvalue
  by_cases hnull : draft = .null
  · subst hnull
    cases h.symm.trans (show nullable json origin .null = .ok none from rfl)
    cases hvalue
  rw [nullable_of_ne_null hnull, json] at h
  cases hread : draft.json? origin with
  | none => simp [hread, Except.map] at h
  | some found =>
    simp only [hread, Except.map, Except.ok.injEq] at h
    rw [hvalue, Option.some.injEq] at h
    subst h
    refine ⟨Draft.wellFormed_of_json? hread, ?_⟩
    rintro rfl
    exact hnull (eq_null_of_json? hread)

end Decoder

open Decoder (Builds IsCarried Restores)

/-! ## The parts of a request -/

theorem SortField.restores : Restores SortField.decoder SortField.toJson where
  read s := by
    rw [decoder_eq_record]
    exact regular.record_of_builds <|
      .mandatory (Decoder.restores_string.read s.selector) <|
      .optional ((Decoder.restores_bool.orDefault false).read s.desc) .nil
  ne_null s := by simp [toJson]
  wellFormed s := by
    simp [toJson, Json.WellFormed, Json.EntriesWellFormed, Entries.keys]

theorem GroupInterval.restores : Restores GroupInterval.decoder GroupInterval.toJson where
  read i := by cases i <;> rfl
  ne_null i := by cases i <;> simp [toJson]
  wellFormed i := by cases i <;> simp [toJson, Json.WellFormed]

namespace GroupLevel

/-- The interval comes last, if at all. -/
theorem builds_interval (g : GroupLevel) :
    Builds (fields.drop 3) (g.interval.map fun i => ("groupInterval", i.toJson)).toList
      ⟨g.selector, g.desc, g.isExpanded, none⟩ g := by
  obtain ⟨selector, desc, isExpanded, interval⟩ := g
  cases interval with
  | none => exact .leave rfl .nil
  | some i => exact .optional (GroupInterval.restores.nullable (some i)) .nil

theorem restores : Restores GroupLevel.decoder GroupLevel.toJson where
  read g := by
    rw [decoder_eq_record]
    exact regular.record_of_builds <|
      .mandatory (Decoder.restores_string.read g.selector) <|
      .optional ((Decoder.restores_bool.orDefault false).read g.desc) <|
      .optional ((Decoder.restores_bool.orDefault false).read g.isExpanded) g.builds_interval
  ne_null g := by simp [toJson]
  wellFormed g := by
    obtain ⟨selector, desc, isExpanded, interval⟩ := g
    cases interval with
    | none => simp [toJson, Json.WellFormed, Json.EntriesWellFormed, Entries.keys]
    | some i =>
      simp [toJson, Json.WellFormed, Json.EntriesWellFormed, Entries.keys,
        GroupInterval.restores.wellFormed i]

end GroupLevel

namespace SummaryKind

theorem ofName_name (kind : SummaryKind) : ofName kind.name = kind := by
  cases kind <;> decide

/-- An unknown name is written as the name of the other kind, which is read as that kind. -/
theorem restores : Restores SummaryKind.decoder fun kind => .string kind.name where
  read kind := by
    show Except.ok (ofName kind.name) = Except.ok kind
    rw [ofName_name]
  ne_null _ := by simp
  wellFormed _ := by simp [Json.WellFormed]

end SummaryKind

theorem Summary.restores : Restores Summary.decoder Summary.toJson where
  read s := by
    rw [decoder_eq_record]
    exact regular.record_of_builds <|
      .optional ((Decoder.restores_string.orDefault "").read s.selector) <|
      .mandatory (SummaryKind.restores.read s.kind) .nil
  ne_null s := by simp [toJson]
  wellFormed s := by
    simp [toJson, Json.WellFormed, Json.EntriesWellFormed, Entries.keys]

namespace SearchFields

theorem strings?_map (fields : List String) : strings? (fields.map .string) = some fields := by
  induction fields with
  | nil => rfl
  | cons field rest ih =>
    rw [List.map_cons, strings?, ih]
    rfl

theorem ofJson?_toJson (fields : SearchFields) : ofJson? fields.toJson = some fields := by
  cases fields with
  | single field => rfl
  | many fields => rw [toJson, ofJson?, strings?_map, Option.map_some]

theorem wellFormed_toJson (fields : SearchFields) : fields.toJson.WellFormed := by
  cases fields with
  | single field => simp [toJson, Json.WellFormed]
  | many fields => exact Decoder.restores_string.list.wellFormed fields

/-- One field is a string and several are an array, so neither is read as the other. -/
theorem restores : Restores SearchFields.decoder SearchFields.toJson where
  read fields := by
    have hjson : Decoder.json .value (.ofJson fields.toJson) = .ok fields.toJson := by
      rw [Decoder.json, Draft.json?_ofJson fields.wellFormed_toJson]
    show Decoder.firstOf "SearchExpr" [ofJson?] .value (.ofJson fields.toJson) = .ok fields
    rw [Decoder.firstOf, hjson]
    simp [bind, Except.bind, ofJson?_toJson]
  ne_null fields := by cases fields <;> simp [toJson]
  wellFormed := wellFormed_toJson

end SearchFields

/-! ## Requests -/

namespace LoadOptions

/-- What a request carries along without looking into it can be written and read again. -/
def IsEncodable (o : LoadOptions) : Prop := IsCarried o.filter ∧ IsCarried o.searchValue

theorem ofValue_toJson {o : LoadOptions} (h : o.IsEncodable) : ofValue o.toJson = .ok o := by
  rw [ofValue, decodeValue, decoder]
  exact regular.record_of_builds <|
    .optional (Decoder.nullable_json_getD h.1) <|
    .optional (SearchFields.restores.nullable o.searchFields) <|
    .optional (Decoder.restores_string.nullable o.searchOperation) <|
    .optional (Decoder.nullable_json_getD h.2) <|
    .optional ((SortField.restores.list.orDefault []).read o.sort) <|
    .optional ((GroupLevel.restores.list.orDefault []).read o.group) <|
    .optional ((Summary.restores.list.orDefault []).read o.groupSummary) <|
    .optional ((Summary.restores.list.orDefault []).read o.totalSummary) <|
    .optional ((Decoder.restores_string.list.orDefault []).read o.select) <|
    .optional ((Decoder.restores_uint64.orDefault 0).read o.skip) <|
    .optional ((Decoder.restores_uint64.orDefault 0).read o.take) <|
    .optional ((Decoder.restores_bool.orDefault false).read o.requireGroupCount) <|
    .optional ((Decoder.restores_bool.orDefault false).read o.requireTotalCount) .nil

theorem wellFormed_toJson {o : LoadOptions} (h : o.IsEncodable) : o.toJson.WellFormed := by
  rw [toJson, Json.WellFormed]
  refine ⟨by simp [Entries.keys], ?_⟩
  simp only [Json.EntriesWellFormed]
  exact ⟨h.1.wellFormed_getD, SearchFields.restores.wellFormed_nullable o.searchFields,
    Decoder.restores_string.wellFormed_nullable o.searchOperation, h.2.wellFormed_getD,
    SortField.restores.list.wellFormed o.sort, GroupLevel.restores.list.wellFormed o.group,
    Summary.restores.list.wellFormed o.groupSummary,
    Summary.restores.list.wellFormed o.totalSummary,
    Decoder.restores_string.list.wellFormed o.select,
    Decoder.restores_uint64.wellFormed o.skip, Decoder.restores_uint64.wellFormed o.take,
    Decoder.restores_bool.wellFormed o.requireGroupCount,
    Decoder.restores_bool.wellFormed o.requireTotalCount, trivial⟩

/-- Setting a part that is looked into keeps a request encodable. -/
theorem isEncodable_of_set {α : Type} {decode : Decoder α} {set : α → LoadOptions → LoadOptions}
    (hset : ∀ a o, IsEncodable o → IsEncodable (set a o)) (draft : Draft)
    (change : LoadOptions → LoadOptions) (hread : Decoder.map set decode .value draft = .ok change)
    (o : LoadOptions) (h : o.IsEncodable) : (change o).IsEncodable := by
  obtain ⟨a, -, rfl⟩ := map_eq_ok.mp hread
  exact hset a o h

/-- No field of a request lets null, or a value that repeats a key, into what is carried along. -/
theorem isEncodable_change : ∀ field ∈ fields, ∀ draft change,
    field.decode .value draft = .ok change → ∀ o, IsEncodable o → IsEncodable (change o) := by
  have hfilter : ∀ draft change,
      Decoder.map (fun v (o : LoadOptions) => { o with filter := v }) (.nullable .json)
        .value draft = .ok change → ∀ o, IsEncodable o → IsEncodable (change o) := by
    intro draft change hread o h
    obtain ⟨part, hpart, rfl⟩ := map_eq_ok.mp hread
    exact ⟨Decoder.isCarried_of_nullable_json hpart, h.2⟩
  have hsearchValue : ∀ draft change,
      Decoder.map (fun v (o : LoadOptions) => { o with searchValue := v }) (.nullable .json)
        .value draft = .ok change → ∀ o, IsEncodable o → IsEncodable (change o) := by
    intro draft change hread o h
    obtain ⟨part, hpart, rfl⟩ := map_eq_ok.mp hread
    exact ⟨h.1, Decoder.isCarried_of_nullable_json hpart⟩
  simp only [fields, List.forall_mem_cons]
  refine ⟨hfilter, ?_, ?_, hsearchValue, ?_, ?_, ?_, ?_, ?_, ?_, ?_, ?_, ?_, by simp⟩
  all_goals exact isEncodable_of_set fun _ _ h => h

theorem isEncodable_of_ofValue {value : Json} {o : LoadOptions} (h : ofValue value = .ok o) :
    o.IsEncodable := by
  have hstart : IsEncodable {} := ⟨fun _ h => (by cases h), fun _ h => (by cases h)⟩
  exact Decoder.record_preserves hstart isEncodable_change h

/-- A request is held by some value iff what it carries along can be written. -/
theorem exists_ofValue_iff (o : LoadOptions) : (∃ value, ofValue value = .ok o) ↔ o.IsEncodable :=
  ⟨fun ⟨_, h⟩ => isEncodable_of_ofValue h, fun h => ⟨o.toJson, ofValue_toJson h⟩⟩

/-- What is read from a value is written as a value from which it is read again, and the request
    that is read again is written as before. -/
theorem ofValue_toJson_of_ofValue {value : Json} {o : LoadOptions} (h : ofValue value = .ok o) :
    o.toJson.WellFormed ∧
      ∃ o', ofValue o.toJson = .ok o' ∧ o' = o ∧ o'.toJson = o.toJson := by
  have hencodable := isEncodable_of_ofValue h
  exact ⟨wellFormed_toJson hencodable, o, ofValue_toJson hencodable, rfl, rfl⟩

/-- A request with every part: a filter with an object in it, levels as an object and as an array,
    one with an interval and one without, and an unknown summary type. -/
def fullRequest : Json :=
  .object
    [ ("take", .ofUInt64 20),
      ("filter", .array [.string "a", .string "=", .object [("$date", .string "2024-05-06")]]),
      ("searchExpr", .array [.string "a", .string "b"]),
      ("searchOperation", .null),
      ("searchValue", .bool true),
      ("unknown", .null),
      ("sort", .array [.object [("desc", .null), ("selector", .string "a")]]),
      ("group", .array
        [ .array [.string "a", .bool true, .null, .number (.ofInt64 10)],
          .object [("selector", .string "d"), ("groupInterval", .string "month")],
          .object [("selector", .string "e"), ("groupInterval", .null)] ]),
      ("totalSummary", .array [.object [("summaryType", .string "median")],
        .object [("summaryType", .object [("sum", .null)]), ("selector", .string "a")]]),
      ("requireTotalCount", .bool true) ]

/-- The request that it holds. -/
def fullOptions : LoadOptions where
  filter := some (.array [.string "a", .string "=", .object [("$date", .string "2024-05-06")]])
  searchFields := some (.many ["a", "b"])
  searchValue := some (.bool true)
  sort := [⟨"a", false⟩]
  group :=
    [ ⟨"a", true, false, some (.numeric (.ofInt64 10))⟩,
      ⟨"d", false, false, some (.named "month")⟩, ⟨"e", false, false, none⟩ ]
  totalSummary := [⟨"", .other⟩, ⟨"a", .sum⟩]
  take := 20
  requireTotalCount := true

theorem fullOptions_toJson :
    ofValue fullRequest = .ok fullOptions ∧ fullOptions.toJson.WellFormed ∧
      ∃ o, ofValue fullOptions.toJson = .ok o ∧ o = fullOptions ∧
        o.toJson = fullOptions.toJson := by
  have h : ofValue fullRequest = .ok fullOptions := by decide +kernel
  exact ⟨h, ofValue_toJson_of_ofValue h⟩

end LoadOptions

end GridQuery
