import Mathlib
import GridQuery.Proofs.Filtering
import GridQuery.Proofs.Narrowing
import GridQuery.Proofs.Sorting

/-!
# Pipelines that never fail

The documents on the way through a pipeline stem from those of the collection: fields may have been
removed from them, and computed fields are numbers or null. So a stage comes upon nothing but what is
stored, and if it runs on that it runs on every document on the way.

Results:
* `Stems`: a document on the way, and what it has of a document of the collection.
* `Gives`, `Passes`: a pipeline that runs on all documents on the way.
* `passes_filterStages`: the stages of a filter pass if it compares no text and its dates are in
  range.
* `canAsk_of_isAskable`: a key can be asked for unless it reads as operators that may fail.
* `passes_narrowingStages`: the stages that narrow to a key pass if the key can be asked for.
-/

namespace GridQuery

open Collection (aggregate_eq_ok runStages runStages_append_eq_ok runStages_one)
open Pipeline (computePart groupKey keyField narrowingStages writtenBy)

/-! ## Fields that are removed -/

namespace Entries

theorem get?_eq_some_iff {key : String} {value : Json} {entries : Entries}
    (hnodup : (keys entries).Nodup) : get? key entries = some value ↔ (key, value) ∈ entries := by
  induction entries with
  | nil => simp [get?]
  | cons entry rest ih =>
    obtain ⟨hnot, hrest⟩ := List.nodup_cons.mp hnodup
    rw [get?, List.mem_cons]
    by_cases hkey : entry.1 = key
    · subst hkey
      rw [if_pos rfl, Option.some.injEq]
      constructor
      · rintro rfl
        exact Or.inl rfl
      · rintro (heq | hmem)
        · rw [← heq]
        · exact absurd (List.mem_map_of_mem hmem) hnot
    · rw [if_neg hkey, ih hrest]
      refine ⟨Or.inr, fun h => h.resolve_left ?_⟩
      rintro rfl
      exact hkey rfl

theorem nodup_swapRemove {entries : Entries} (h : (keys entries).Nodup) (name : String) :
    (keys (swapRemove name entries)).Nodup :=
  ((swapRemove_perm h).map Prod.fst).nodup_iff.mpr (h.sublist (List.filter_sublist.map Prod.fst))

theorem get?_swapRemove_of_ne {entries : Entries} (h : (keys entries).Nodup) {key name : String}
    (hne : key ≠ name) : get? key (swapRemove name entries) = get? key entries := by
  refine Option.ext fun value => ?_
  rw [get?_eq_some_iff (nodup_swapRemove h name), get?_eq_some_iff h, (swapRemove_perm h).mem_iff,
    List.mem_filter]
  simp [hne]

theorem get?_swapRemove_self {entries : Entries} (h : (keys entries).Nodup) (name : String) :
    get? name (swapRemove name entries) = none := by
  refine Option.eq_none_iff_forall_ne_some.mpr fun value hvalue => ?_
  rw [get?_eq_some_iff (nodup_swapRemove h name), (swapRemove_perm h).mem_iff] at hvalue
  simp at hvalue

end Entries

/-- An object in which no name is repeated. -/
def HasNames (doc : Json) : Prop := ∃ entries, doc = .object entries ∧ (Entries.keys entries).Nodup

theorem HasNames.isObject {doc : Json} (h : HasNames doc) : doc.isObject = true := by
  obtain ⟨entries, rfl, -⟩ := h
  rfl

theorem HasNames.of_sets {names : List String} {doc later : Json} (h : HasNames doc)
    (hsets : Sets names doc later) (hpoint : ∀ name ∈ names, HasNoPoint name) : HasNames later := by
  induction hsets with
  | same => exact h
  | set value _ hname ih =>
    obtain ⟨entries, rfl, hnodup⟩ := ih
    exact ⟨_, Json.setPath_object (hpoint _ hname) entries value,
      Entries.nodup_insert hnodup _ value⟩

/-- Once a field is removed there is nothing under its name, and the rest is as it was. -/
theorem inherits_swapRemove {entries : Entries} (h : (Entries.keys entries).Nodup)
    (name : String) : Inherits (.object entries) (.object (Entries.swapRemove name entries)) := by
  intro path
  rw [Json.resolve?, Json.resolve?, segments_eq, Json.descend, Json.descend]
  by_cases hpath : firstKey path = name
  · refine Or.inr fun value hvalue => ?_
    simp [Json.get?, Json.object?, hpath, Entries.get?_swapRemove_self h] at hvalue
  · refine Or.inl ?_
    simp [Json.get?, Json.object?, Entries.get?_swapRemove_of_ne h hpath]

theorem inherits_removeAll (names : List String) {entries : Entries}
    (h : (Entries.keys entries).Nodup) :
    let left := names.foldl (fun entries name => Entries.swapRemove name entries) entries
    (Entries.keys left).Nodup ∧ Inherits (.object entries) (.object left) := by
  induction names generalizing entries with
  | nil => exact ⟨h, .refl _⟩
  | cons name names ih =>
    obtain ⟨hnodup, hinherits⟩ := ih (Entries.nodup_swapRemove h name)
    exact ⟨hnodup, (inherits_swapRemove h name).trans hinherits⟩

/-! ## Documents on the way -/

/-- A document on the way through a pipeline: it has what a document of the collection has, numbers
    and null. -/
structure Stems (docs : List Json) (later : Json) : Prop where
  names : HasNames later
  inherits : ∃ doc ∈ docs, Inherits doc later

namespace Stems

variable {docs : List Json} {later : Json}

theorem of_mem {doc : Json} (h : doc ∈ docs) (hnames : HasNames doc) : Stems docs doc :=
  ⟨hnames, doc, h, .refl doc⟩

theorem of_inherits {last : Json} (h : Stems docs later) (hnames : HasNames last)
    (hinherits : Inherits later last) : Stems docs last := by
  obtain ⟨doc, hdoc, hfirst⟩ := h.inherits
  exact ⟨hnames, doc, hdoc, hfirst.trans hinherits⟩

/-- What stands at a path was stored there, or it is a number or null. -/
theorem valueAt (h : Stems docs later) (path : String) :
    (∃ doc ∈ docs, valueAt path later = valueAt path doc) ∨ IsKeyValue (valueAt path later) := by
  obtain ⟨doc, hdoc, hinherits⟩ := h.inherits
  rcases hinherits path with heq | hvalue
  · exact Or.inl ⟨doc, hdoc, by rw [GridQuery.valueAt, heq, GridQuery.valueAt]⟩
  · refine Or.inr ?_
    rw [GridQuery.valueAt]
    cases hfound : later.resolve? path with
    | none => exact Or.inl rfl
    | some value => exact hvalue value hfound

/-- What holds of a path in all stored documents, and of numbers and null, holds of the path on the
    way. -/
theorem forall_valueAt {P : Json → Prop} (h : Stems docs later) {path : String}
    (hstored : ∀ doc ∈ docs, P (GridQuery.valueAt path doc))
    (hkey : ∀ value, IsKeyValue value → P value) :
    P (GridQuery.valueAt path later) := by
  rcases h.valueAt path with ⟨doc, hdoc, heq⟩ | hvalue
  · exact heq ▸ hstored doc hdoc
  · exact hkey _ hvalue

end Stems

/-! ## Pipelines that pass -/

/-- The pipeline runs on all documents that stem from the collection, and what it gives of them is
    of some kind. -/
def Gives (docs : List Json) (p : Pipeline) (post : List Json → Prop) : Prop :=
  ∃ stages, Reads p stages ∧ ∀ way, (∀ doc ∈ way, Stems docs doc) →
    ∃ out, runStages stages way = .ok out ∧ post out

/-- The pipeline runs on all documents that stem from the collection, and gives such documents. -/
def Passes (docs : List Json) (p : Pipeline) : Prop :=
  Gives docs p fun out => ∀ doc ∈ out, Stems docs doc

/-- A pipeline that runs on all documents on the way runs on those of the collection. -/
theorem Gives.aggregate {docs : List Json} {p : Pipeline} {post : List Json → Prop}
    (h : Gives docs p post) (hdocs : ∀ doc ∈ docs, HasNames doc) :
    ∃ out, (Collection.mk docs).aggregate p = .ok out ∧ post out := by
  obtain ⟨stages, hreads, hrun⟩ := h
  obtain ⟨out, hout, hpost⟩ := hrun docs fun doc hdoc => .of_mem hdoc (hdocs doc hdoc)
  exact ⟨out, aggregate_eq_ok.mpr ⟨stages, hreads, hout⟩, hpost⟩

namespace Passes

variable {docs : List Json}

theorem nil : Passes docs [] := ⟨[], reads_nil, fun way hway => ⟨way, rfl, hway⟩⟩

/-- What comes after a pipeline that passes runs on documents on the way. -/
theorem andThen {p q : Pipeline} {post : List Json → Prop} (hp : Passes docs p)
    (hq : Gives docs q post) : Gives docs (p ++ q) post := by
  obtain ⟨a, ha, hrunA⟩ := hp
  obtain ⟨b, hb, hrunB⟩ := hq
  refine ⟨a ++ b, ha.append hb, fun way hway => ?_⟩
  obtain ⟨mid, hmid, hstems⟩ := hrunA way hway
  obtain ⟨out, hout, hpost⟩ := hrunB mid hstems
  exact ⟨out, runStages_append_eq_ok.mpr ⟨mid, hmid, hout⟩, hpost⟩

theorem append {p q : Pipeline} (hp : Passes docs p) (hq : Passes docs q) :
    Passes docs (p ++ q) := hp.andThen hq

theorem flatMap {α : Type} {f : α → Pipeline} {items : List α}
    (h : ∀ item ∈ items, Passes docs (f item)) : Passes docs (items.flatMap f) := by
  induction items with
  | nil => exact nil
  | cons item items ih =>
    rw [List.flatMap_cons]
    exact (h item List.mem_cons_self).append
      (ih fun other hother => h other (List.mem_cons_of_mem _ hother))

/-- Stages that look at one document at a time have to run on each. -/
theorem of_one {p : Pipeline} {stages : List Stage} (hreads : Reads p stages)
    (hlooks : ∀ stage ∈ stages, stage.LooksAtOne)
    (hone : ∀ doc, Stems docs doc →
      ∃ out, runStages stages [doc] = .ok out ∧ ∀ later ∈ out, Stems docs later) :
    Passes docs p := by
  have hlocal := isLocal_runStages hlooks
  refine ⟨stages, hreads, fun way hway => ?_⟩
  induction way with
  | nil => exact ⟨[], hlocal.nil, by simp⟩
  | cons doc way ih =>
    obtain ⟨a, ha, hstems⟩ := hone doc (hway doc List.mem_cons_self)
    obtain ⟨b, hb, hrest⟩ := ih fun d hd => hway d (List.mem_cons_of_mem _ hd)
    exact ⟨a ++ b, (hlocal.cons _ _ _).mpr ⟨a, b, ha, hb, rfl⟩,
      List.forall_mem_append.mpr ⟨hstems, hrest⟩⟩

/-- Stages that compute a field pass if what they read can be read on the way. -/
theorem of_computes {p : Pipeline} {stages : List Stage} {names : List String} {target : String}
    {reading : Json → Except DateOverflow Json} (hreads : Reads p stages)
    (hcomputes : Computes stages names target reading) (hpoint : ∀ name ∈ names, HasNoPoint name)
    (hok : ∀ doc, Stems docs doc → ∃ value, reading doc = .ok value) : Passes docs p := by
  refine of_one hreads hcomputes.looksAtOne fun doc hdoc => ?_
  obtain ⟨value, hvalue⟩ := hok doc hdoc
  have hobject := hdoc.names.isObject
  obtain ⟨later, hlater, hsets, -⟩ := hcomputes.ok doc value hobject hvalue
  refine ⟨[later], hlater, fun last hlast => ?_⟩
  rw [List.mem_singleton.mp hlast]
  exact hdoc.of_inherits (hdoc.names.of_sets hsets hpoint)
    (hcomputes.inherits doc later hobject hlater)

/-- Matching passes if the predicate has an answer for all documents on the way. -/
theorem keepMatching {predicate : Json}
    (h : ∀ doc, Stems docs doc → ∃ b, doc.satisfies predicate = .ok b) :
    Passes docs [.single "$match" predicate] := by
  refine of_one (reads_one rfl) (by simp [Stage.LooksAtOne]) fun doc hdoc => ?_
  obtain ⟨b, hb⟩ := h doc hdoc
  refine ⟨if b then [doc] else [], ?_, fun later hlater => ?_⟩
  · rw [runStages_one, run_keepMatching_one]
    exact ⟨b, hb, rfl⟩
  · split_ifs at hlater
    · exact List.mem_singleton.mp hlater ▸ hdoc
    · cases hlater

end Passes

/-! ## Sorting and paging -/

variable {docs : List Json}

theorem passes_sortStages (sort : List SortField) : Passes docs (Pipeline.sortStages sort) := by
  obtain ⟨stages, hreads⟩ := exists_reads_sortStages sort
  obtain ⟨arrange, harrange⟩ := arranges_sortStages hreads
  exact ⟨stages, hreads, fun way hway => ⟨arrange way, harrange.run way, fun doc hdoc =>
    hway doc ((harrange.perm way).mem_iff.mp hdoc)⟩⟩

theorem passes_pagingStages (skip take : UInt64) :
    Passes docs (Pipeline.pagingStages skip take) := by
  obtain ⟨stages, hreads, hrun⟩ := exists_reads_pagingStages skip take
  refine ⟨stages, hreads, fun way hway => ?_⟩
  obtain ⟨out, hout, hsub⟩ := hrun way
  exact ⟨out, hout, fun doc hdoc => hway doc (hsub.subset hdoc)⟩

/-! ## Filters -/

/-- The part of a number or null is never out of range. -/
theorem exists_partReading {value : Json} (h : IsKeyValue value) (part : CalendarPart)
    (offset : Int64) : ∃ key, partReading part offset value = .ok key := by
  obtain ⟨moved, hmoved⟩ := difference_of_no_date h.instant (Pipeline.shift offset)
  have hfound := isKeyValue_partOf part.datePart moved
  rw [partReading, hmoved]
  cases part with
  | quarter =>
    obtain ⟨month, hmonth, hvalue⟩ := addAll_keyValues hfound (Or.inr ⟨.ofInt64 2, rfl⟩)
    obtain ⟨whole, hwhole⟩ := difference_of_no_date hvalue.instant
      (Expression.arithmetic .mod month (Pipeline.constant 3))
    exact ⟨_, bind_eq_ok.mpr ⟨_, rfl, bind_eq_ok.mpr ⟨month, hmonth,
      map_eq_ok.mpr ⟨whole, hwhole, rfl⟩⟩⟩⟩
  | dayOfWeek => exact difference_of_no_date hfound.instant (Pipeline.constant 1)
  | _ => exact ⟨_, rfl⟩

theorem passes_computePart {offset : Int64} {f : PartField}
    (hbase : startsWithDollar f.base = false)
    (hrange : ∀ doc ∈ docs, ∃ value, f.reading offset doc = .ok value) :
    Passes docs (computePart offset f) := by
  obtain ⟨stages, hreads, hcomputes⟩ := computes_partStages f.part offset f.hasNoPoint_synthetic
    f.hasNoPoint_scratch hbase fun _ => startsWithDollar_of_isReserved f.isReserved_scratch
  exact .of_computes hreads hcomputes (hasNoPoint_writtenBy f) fun doc hdoc =>
    hdoc.forall_valueAt hrange fun value hvalue => exists_partReading hvalue f.part offset

theorem passes_removal (names : List String) :
    Passes docs (if (removedEntries names).isEmpty then []
      else [.single "$project" (.object (removedEntries names))]) := by
  refine .of_one (reads_removal names) (looksAtOne_removal names) fun doc hdoc => ?_
  obtain ⟨entries, rfl, hnodup⟩ := hdoc.names
  obtain ⟨hleft, hinherits⟩ := inherits_removeAll (Entries.keys (removedEntries names)) hnodup
  refine ⟨_, run_removal_object names entries, fun later hlater => ?_⟩
  rw [List.mem_singleton.mp hlater]
  exact hdoc.of_inherits ⟨_, rfl, hleft⟩ hinherits

/-- A predicate that compares no text has an answer for every document. -/
theorem exists_satisfies {expr : Json} {filter : Filter}
    (hparse : Filter.ofJson? expr = some filter)
    (horder : Filter.ComparesByOrder filter.comparisons) (doc : Json) :
    ∃ b, doc.satisfies filter.predicate = .ok b := by
  have hfits : Filter.Fits doc (fun name => doc.resolve? (predicateField name)) filter.leaves := by
    refine fun name hname => ⟨?_, rfl⟩
    unfold predicateField
    cases PartField.ofName? name with
    | none => exact startsWithDollar_leaves hparse name hname
    | some f => exact startsWithDollar_of_isReserved f.isReserved_synthetic
  rw [Filter.satisfies_predicate filter hfits]
  exact Filter.exists_holds _ filter horder

/-- The stages of a filter pass if it compares no text and the parts it looks at are in range. -/
theorem passes_filterStages {expr : Json} {offset : Int64}
    (horder : ∀ filter ∈ Filter.ofJson? expr, Filter.ComparesByOrder filter.comparisons)
    (hrange : ∀ filter ∈ Filter.ofJson? expr, ∀ doc ∈ docs,
      filter.partsInRange offset doc = true) :
    Passes docs (Pipeline.filterStages expr offset) := by
  cases hparse : Filter.ofJson? expr with
  | none =>
    rw [filterStages_of_none hparse]
    exact .nil
  | some filter =>
    have hparts : Passes docs (filter.parts.flatMap (computePart offset)) :=
      .flatMap fun f hf => passes_computePart (startsWithDollar_parts hparse f hf) fun doc hdoc =>
        Filter.partsInRange_iff.mp (hrange filter hparse doc hdoc) f hf
    have hmatch : Passes docs [.single "$match" filter.predicate] :=
      .keepMatching fun doc _ => exists_satisfies hparse (horder filter hparse) doc
    simp only [Pipeline.filterStages, Pipeline.compiledStages, CompiledFilter.ofJson,
      CompiledFilter.after, hparse]
    exact (hparts.append hmatch).append (passes_removal _)

/-! ## Narrowing -/

/-- The key can be asked for, whatever the value that is compared with it. -/
def CanAsk (key : Json) : Prop := ∀ value, ∃ holds, meets value key = .ok holds

theorem exists_allHold {α : Type} {check : α → Except CollectionError Bool} {items : List α}
    (h : ∀ item ∈ items, ∃ b, check item = .ok b) : ∃ b, allHold check items = .ok b := by
  induction items with
  | nil => exact ⟨true, rfl⟩
  | cons item items ih =>
    obtain ⟨b, hb⟩ := h item List.mem_cons_self
    rw [allHold, hb]
    cases b with
    | true => exact ih fun other hother => h other (List.mem_cons_of_mem _ hother)
    | false => exact ⟨false, rfl⟩

/-- The operators that have an answer, whatever value and operand they are given. -/
def answeringOperators : List String := ["$eq", "$ne", "$gt", "$gte", "$lt", "$lte", "$options"]

theorem exists_holdsOperator {op : String} (h : op ∈ answeringOperators) (letters : String)
    (value : Option Json) (operand : Json) :
    ∃ b, holdsOperator letters value op operand = .ok b := by
  simp only [answeringOperators, List.mem_cons, List.not_mem_nil, or_false] at h
  rcases h with rfl | rfl | rfl | rfl | rfl | rfl | rfl <;> exact ⟨_, rfl⟩

/-- A value that does not read as operators, or as such only that have an answer. -/
def isAskable (key : Json) : Bool :=
  (operators? key).all fun operators => operators.all fun entry => entry.1 ∈ answeringOperators

theorem canAsk_of_isAskable {key : Json} (h : isAskable key = true) : CanAsk key := by
  intro value
  rw [isAskable] at h
  unfold meets
  cases hkey : operators? key with
  | none => exact ⟨_, rfl⟩
  | some operators =>
    rw [hkey, Option.all_some, List.all_eq_true] at h
    exact exists_allHold fun entry hentry =>
      exists_holdsOperator (of_decide_eq_true (h entry hentry)) _ value entry.2

theorem isAskable_of_isKeyValue {key : Json} (h : IsKeyValue key) : isAskable key = true := by
  rw [isAskable, operators_of_isScalar h.isScalar, Option.all_none]

section Levels

variable {selector : String} {interval : Option GroupInterval} {offset : Int64}

/-- The buckets of a level are in range: its keys can be computed of all documents. -/
def BucketsInRange (docs : List Json) (selector : String) (interval : Option GroupInterval)
    (offset : Int64) : Prop :=
  ∀ bucket ∈ interval, bucket.isBucketed = true → ∀ doc ∈ docs,
    ∃ key, bucketReading bucket offset (valueAt selector doc) = .ok key

theorem exists_bucketReading {bucket : GroupInterval} {value : Json} (h : IsKeyValue value)
    (offset : Int64) : ∃ key, bucketReading bucket offset value = .ok key := by
  unfold bucketReading
  split
  · exact difference_of_no_date h.instant _
  · exact exists_partReading h _ offset
  · exact ⟨value, rfl⟩

/-- On the way the key of a bucketed level can be computed, too. -/
theorem BucketsInRange.stems (h : BucketsInRange docs selector interval offset)
    {bucket : GroupInterval} (hbucket : bucket ∈ interval) (hbucketed : bucket.isBucketed = true)
    {doc : Json} (hdoc : Stems docs doc) :
    ∃ key, bucketReading bucket offset (valueAt selector doc) = .ok key :=
  hdoc.forall_valueAt (h bucket hbucket hbucketed) fun _ hvalue =>
    exists_bucketReading hvalue offset

/-- The key stages of a bucketed level pass if its keys can be computed of all documents. -/
theorem passes_keyStages {bucket : GroupInterval} (hselector : startsWithDollar selector = false)
    (hrange : BucketsInRange docs selector (some bucket) offset)
    (hbucketed : bucket.isBucketed = true) (level : Nat) :
    Passes docs (groupKey selector (some bucket) level offset).stages := by
  obtain ⟨stages, hreads, hcomputes⟩ := computes_keyStages hselector hbucketed level offset
  exact .of_computes hreads hcomputes hasNoPoint_levelFields fun doc hdoc =>
    hrange.stems rfl hbucketed hdoc

/-- Matching a field against a key that can be asked for passes. -/
theorem passes_matchStages {field : String} (hfield : startsWithDollar field = false) {key : Json}
    (hkey : CanAsk key) : Passes docs (Pipeline.matchStages field key) :=
  .keepMatching fun doc _ => by
    rw [satisfies_single hfield]
    exact hkey _

/-- The stages that narrow to a key pass if the key can be asked for. -/
theorem passes_narrowingStages (hselector : startsWithDollar selector = false)
    (hrange : BucketsInRange docs selector interval offset) (level : Nat) {key : Json}
    (hkey : CanAsk key) : Passes docs (narrowingStages selector interval level offset key) := by
  rw [narrowingStages]
  cases hany : interval.any GroupInterval.isBucketed with
  | false =>
    rw [if_neg Bool.false_ne_true]
    exact passes_matchStages hselector hkey
  | true =>
    obtain ⟨bucket, rfl, hbucketed⟩ := (Option.any_eq_true _ _).mp hany
    rw [if_pos rfl]
    exact (passes_keyStages hselector hrange hbucketed level).append
      (passes_matchStages (startsWithDollar_keyField level) hkey)

end Levels

end GridQuery
