import Mathlib
import GridQuery.Proofs.RequestFields

/-!
# Objects that ask for the same

A request can be put in many ways: its entries in any order, with entries that no one knows, with
null or nothing under a key that may be left out, and so can each object in its lists. None of this
changes what is asked for. A value that holds no request is refused for the same reason without its
null entries.

Results:
* `Reworded`, `RequestReworded`: the ways to put a record and a request.
* `Decoder.Regular.record_of_reworded`: a record is read from an object in any of these ways.
* `LoadOptions.ofValue_of_reworded`: a request is, with its parts reworded at any depth.
* `LoadOptions.ofValue_error_withoutNulls`: null entries have no part in the error.
* `LoadOptions.ofValue_rewordings`: both.
-/

namespace GridQuery

open Decoder (RecordField Regular fieldAt)

/-! ## Ways to put a record -/

/-- The keys of a record, and those of them that may be left out. -/
structure Vocabulary where
  keys : List String
  optional : List String

/-- The entries of one object changed into those of another that says the same. A new entry comes
    first; reordering takes it to any other place. -/
inductive Reworded (words : Vocabulary) : Entries → Entries → Prop where
  | reorder {a b : Entries} (h : a.Perm b) : Reworded words a b
  | addUnknown {entries : Entries} (key : String) (value : Json) (h : key ∉ words.keys) :
      Reworded words entries ((key, value) :: entries)
  | dropUnknown {entries : Entries} {key : String} {value : Json} (h : key ∉ words.keys) :
      Reworded words ((key, value) :: entries) entries
  | addNull {entries : Entries} (key : String) (h : key ∈ words.optional)
      (habsent : key ∉ Entries.keys entries) : Reworded words entries ((key, .null) :: entries)
  | dropNull {entries : Entries} {key : String} (h : key ∈ words.optional) :
      Reworded words ((key, .null) :: entries) entries
  | trans {a b c : Entries} (h : Reworded words a b) (h' : Reworded words b c) : Reworded words a c

/-- The fields of a record have the keys for names. -/
structure Vocabulary.Names {σ : Type} (words : Vocabulary) (fields : List (RecordField σ)) : Prop
    where
  keys : fields.map (·.name) = words.keys
  optional : (fields.filter (!·.required)).map (·.name) = words.optional

section Records

variable {σ : Type} {words : Vocabulary} {fields : List (RecordField σ)} {start : σ}

theorem Vocabulary.Names.fieldAt_eq_none (h : words.Names fields) {key : String}
    (hkey : key ∉ words.keys) : fieldAt fields key = none := by
  rw [fieldAt, List.find?_eq_none]
  intro field hfield hname
  apply hkey
  rw [← h.keys, ← of_decide_eq_true hname]
  exact List.mem_map_of_mem hfield

theorem Vocabulary.Names.exists_optional (h : words.Names fields) {key : String}
    (hkey : key ∈ words.optional) :
    ∃ field ∈ fields, field.required = false ∧ field.name = key := by
  rw [← h.optional] at hkey
  obtain ⟨field, hfield, hname⟩ := List.mem_map.mp hkey
  obtain ⟨hmem, hreq⟩ := List.mem_filter.mp hfield
  exact ⟨field, hmem, by simpa using hreq, hname⟩

/-- What is read from an object is read from it in other words, one step after the other. -/
theorem Decoder.Regular.record_of_reworded {type : String} (hregular : Regular fields start)
    (hnames : words.Names fields) {a b : Entries} (h : Reworded words a b) {state : σ}
    (hread : Decoder.record type fields start .value (.ofJson (.object a)) = .ok state) :
    Decoder.record type fields start .value (.ofJson (.object b)) = .ok state := by
  induction h with
  | reorder hperm => exact hregular.record_perm hperm hread
  | addUnknown key value hkey =>
    exact (Decoder.record_cons_unknown (hnames.fieldAt_eq_none hkey)).mpr hread
  | dropUnknown hkey =>
    exact (Decoder.record_cons_unknown (hnames.fieldAt_eq_none hkey)).mp hread
  | addNull key hkey habsent =>
    obtain ⟨field, hfield, hreq, rfl⟩ := hnames.exists_optional hkey
    exact (hregular.record_cons_null hfield hreq).mpr ⟨habsent, hread⟩
  | dropNull hkey =>
    obtain ⟨field, hfield, hreq, rfl⟩ := hnames.exists_optional hkey
    exact ((hregular.record_cons_null hfield hreq).mp hread).2
  | trans _ _ ih ih' => exact ih' (ih hread)

end Records

/-! ## Lists of records -/

/-- What is read from an object does not depend on how it is put. -/
def Respects {σ : Type} (decode : Decoder σ) (words : Vocabulary) : Prop :=
  ∀ {a b : Entries} {state : σ}, Reworded words a b →
    decode .value (.ofJson (.object a)) = .ok state →
      decode .value (.ofJson (.object b)) = .ok state

section Lists

variable {σ : Type} {words : Vocabulary} {decode : Decoder σ} {a b : Entries}

theorem Respects.list (hrespects : Respects decode words) (h : Reworded words a b)
    {before after : List Json} {values : List σ}
    (hread : Decoder.list decode .value (.ofJson (.array (before ++ .object a :: after))) =
      .ok values) :
    Decoder.list decode .value (.ofJson (.array (before ++ .object b :: after))) = .ok values := by
  rw [Decoder.list_array_eq_ok] at hread ⊢
  induction before generalizing values with
  | nil =>
    cases hread with
    | cons hfirst hrest => exact .cons (hrespects h hfirst) hrest
  | cons item before ih =>
    cases hread with
    | cons hitem hrest => exact .cons hitem (ih hrest)

/-- A field that holds a list does not notice how an object in it is put. -/
theorem Respects.field {τ : Type} (hrespects : Respects decode words) (h : Reworded words a b)
    {set : List σ → τ → τ} {before after : List Json} {change : τ → τ}
    (hread : Decoder.map set (.orDefault [] (.list decode)) .value
      (.ofJson (.array (before ++ .object a :: after))) = .ok change) :
    Decoder.map set (.orDefault [] (.list decode)) .value
      (.ofJson (.array (before ++ .object b :: after))) = .ok change := by
  obtain ⟨values, hvalues, rfl⟩ := map_eq_ok.mp hread
  rw [Decoder.orDefault_of_ne_null (by simp [Draft.ofJson])] at hvalues
  apply map_eq_ok.mpr
  refine ⟨values, ?_, rfl⟩
  rw [Decoder.orDefault_of_ne_null (by simp [Draft.ofJson])]
  exact hrespects.list h hvalues

end Lists

/-! ## The parts of a request -/

def SortField.words : Vocabulary := ⟨["selector", "desc"], ["desc"]⟩

theorem SortField.respects : Respects SortField.decoder SortField.words :=
  fun h => regular.record_of_reworded ⟨rfl, rfl⟩ h

def GroupLevel.words : Vocabulary :=
  ⟨["selector", "desc", "isExpanded", "groupInterval"], ["desc", "isExpanded", "groupInterval"]⟩

theorem GroupLevel.respects : Respects GroupLevel.decoder GroupLevel.words :=
  fun h => regular.record_of_reworded ⟨rfl, rfl⟩ h

def Summary.words : Vocabulary := ⟨["selector", "summaryType"], ["selector"]⟩

theorem Summary.respects : Respects Summary.decoder Summary.words :=
  fun h => regular.record_of_reworded ⟨rfl, rfl⟩ h

namespace LoadOptions

/-- The keys of a request; all of them may be left out. -/
def keys : List String :=
  ["filter", "searchExpr", "searchOperation", "searchValue", "sort", "group", "groupSummary",
    "totalSummary", "select", "skip", "take", "requireGroupCount", "requireTotalCount"]

def words : Vocabulary := ⟨keys, keys⟩

/-- The lists of a request whose items are objects. -/
def listedParts : List (String × Vocabulary) :=
  [("sort", SortField.words), ("group", GroupLevel.words), ("groupSummary", Summary.words),
    ("totalSummary", Summary.words)]

/-- The entries of one request changed into those of another that asks for the same: its own entries
    or those of an object in one of its lists. -/
inductive RequestReworded : Entries → Entries → Prop where
  | outside {a b : Entries} (h : Reworded words a b) : RequestReworded a b
  | inside {key : String} {part : Vocabulary} (hkey : (key, part) ∈ listedParts)
      {a b : Entries} (h : Reworded part a b) {before after : Entries} {items rest : List Json} :
      RequestReworded (before ++ (key, .array (items ++ .object a :: rest)) :: after)
        (before ++ (key, .array (items ++ .object b :: rest)) :: after)
  | trans {a b c : Entries} (h : RequestReworded a b) (h' : RequestReworded b c) :
      RequestReworded a c

theorem respects : Respects decoder words :=
  fun h => regular.record_of_reworded ⟨rfl, rfl⟩ h

/-- The field of a list does not notice how an object in the list is put. -/
theorem field_of_listedParts {key : String} {part : Vocabulary}
    (hkey : (key, part) ∈ listedParts) {a b : Entries} (h : Reworded part a b)
    {items rest : List Json} (field : RecordField LoadOptions)
    (hfield : fieldAt fields key = some field) (change : LoadOptions → LoadOptions)
    (hread : field.decode .value (.ofJson (.array (items ++ .object a :: rest))) = .ok change) :
    field.decode .value (.ofJson (.array (items ++ .object b :: rest))) = .ok change := by
  simp only [listedParts, List.mem_cons, Prod.mk.injEq, List.not_mem_nil, or_false] at hkey
  obtain ⟨rfl, rfl⟩ | ⟨rfl, rfl⟩ | ⟨rfl, rfl⟩ | ⟨rfl, rfl⟩ := hkey
  · cases hfield
    exact SortField.respects.field h hread
  · cases hfield
    exact GroupLevel.respects.field h hread
  · cases hfield
    exact Summary.respects.field h hread
  · cases hfield
    exact Summary.respects.field h hread

/-- A request is read in whatever way it is put. -/
theorem ofValue_of_reworded {a b : Entries} (h : RequestReworded a b) {o : LoadOptions}
    (hread : ofValue (.object a) = .ok o) : ofValue (.object b) = .ok o := by
  induction h with
  | outside h => exact respects h hread
  | inside hkey h =>
    rw [ofValue, decodeValue, decoder] at hread ⊢
    exact Decoder.record_congr (field_of_listedParts hkey h) hread
  | trans _ _ ih ih' => exact ih' (ih hread)

end LoadOptions

/-! ## What is refused -/

/-- An object without its null entries, and any other value as it is. -/
def Json.withoutNulls : Json → Json
  | .object entries => .object (entries.filter fun entry => !entry.2.isNull)
  | value => value

namespace LoadOptions

/-- What is no request is no request without its null entries either, for the same reason. -/
theorem ofValue_error_withoutNulls {value : Json} (hform : value.WellFormed) {e : DecodeError}
    (h : ofValue value = .error e) : ofValue value.withoutNulls = .error e := by
  cases value with
  | object entries =>
    rw [Json.WellFormed] at hform
    have hrecord : Decoder.record "LoadOptions" fields {} .value (.ofJson (.object entries)) =
        .error e := h
    exact regular.record_error_of_filter optional_of_mem_fields hform.1 hrecord
  | null | bool b | number n | string s | array items => exact h

theorem ofValue_rewordings :
    (∀ a b o, RequestReworded a b → ofValue (.object a) = .ok o → ofValue (.object b) = .ok o) ∧
      ∀ value : Json, value.WellFormed → ∀ e, ofValue value = .error e →
        ofValue value.withoutNulls = .error e :=
  ⟨fun _ _ _ h hread => ofValue_of_reworded h hread,
    fun _ hform _ h => ofValue_error_withoutNulls hform h⟩

/-- A page of rows in an order. -/
def sortedPage : Entries :=
  [ ("sort", .array [.object [("selector", .string "a"), ("desc", .null)]]),
    ("skip", .ofUInt64 5) ]

/-- The same page: another order, an unknown entry outside and one inside, and no null but for the
    limit. -/
def sortedPageReworded : Entries :=
  [ ("note", .bool true), ("skip", .ofUInt64 5), ("take", .null),
    ("sort", .array [.object [("x", .bool false), ("selector", .string "a")]]) ]

theorem requestReworded_sortedPage : RequestReworded sortedPage sortedPageReworded := by
  have hsort : Reworded SortField.words [("selector", .string "a"), ("desc", .null)]
      [("x", .bool false), ("selector", .string "a")] :=
    .trans (.reorder (List.Perm.swap ..)) <| .trans (.dropNull (by decide)) <|
      .addUnknown "x" (.bool false) (by decide)
  have hmem : ("sort", SortField.words) ∈ listedParts := List.mem_cons_self
  have hinside : RequestReworded sortedPage
      [ ("sort", .array [.object [("x", .bool false), ("selector", .string "a")]]),
        ("skip", .ofUInt64 5) ] :=
    @RequestReworded.inside "sort" SortField.words hmem _ _ hsort [] _ [] []
  have houtside : Reworded words
      [ ("sort", .array [.object [("x", .bool false), ("selector", .string "a")]]),
        ("skip", .ofUInt64 5) ] sortedPageReworded :=
    .trans (.addNull "take" (by decide) (by decide)) <|
      .trans (.addUnknown "note" (.bool true) (by decide)) <| .reorder (by decide +kernel)
  exact .trans hinside (.outside houtside)

theorem ofValue_sortedPageReworded :
    ofValue (.object sortedPageReworded) = .ok { sort := [⟨"a", false⟩], skip := 5 } ∧
      ofValue (.object [("take", .null), ("skip", .bool true), ("sort", .null)]) =
        .error (.wrongType (.bool true) "u64") ∧
      ofValue (.object [("skip", .bool true)]) = .error (.wrongType (.bool true) "u64") := by
  have hpage : ofValue (.object sortedPage) = .ok { sort := [⟨"a", false⟩], skip := 5 } := by
    decide +kernel
  have hwrong : ofValue (.object [("take", .null), ("skip", .bool true), ("sort", .null)]) =
      .error (.wrongType (.bool true) "u64") := by decide +kernel
  have hform :
      (Json.object [("take", .null), ("skip", .bool true), ("sort", .null)]).WellFormed := by
    simp [Json.WellFormed, Json.EntriesWellFormed, Entries.keys]
  exact ⟨ofValue_rewordings.1 _ _ _ requestReworded_sortedPage hpage, hwrong,
    ofValue_rewordings.2 _ hform _ hwrong⟩

end LoadOptions

end GridQuery
