import Mathlib
import GridQuery.Proofs.Filtering
import GridQuery.Proofs.FlatRows
import GridQuery.Proofs.GroupedRows
import GridQuery.Proofs.Succeeding

/-!
# Groups and filters by a part of a date

A level computes a calendar part into its key field, and a filter computes it into a field of its
own. What both compute is one reading of the date, so the rows of a group are those that a filter for
its key finds, in the same order: a sort in front of the groups and one behind the filter arrange
documents alike.

Results:
* `partIn`: the part that a document has, null without a date.
* `aggregate_partFilter`: a filter for a part keeps the documents that have it.
* `succeeds_groupedByPart`: the groups of a level by a part, and their rows.
* `part_groups_agree`: each group has the rows of the filter for its key.
-/

namespace GridQuery

open Collection (aggregate_eq_ok aggregate_of_reads runStages runStages_append_eq_ok)
open Pipeline (groupKey keyField stripKeys)

/-! ## Requests -/

/-- Groups by a part of a date, with the rows of each group. -/
def groupedByPart (selector : String) (part : CalendarPart) (sort : List SortField) :
    LoadOptions where
  group := [⟨selector, false, true, some (.named part.name)⟩]
  sort := sort

/-- The filter expression that asks for a key as the part of a date. -/
def partComparison (selector : String) (part : CalendarPart) (key : Json) : Json :=
  .array [.string (selector ++ "." ++ part.name), .string "=", key]

/-- Rows in which the part of a date is the key. -/
def filteredByPart (selector : String) (part : CalendarPart) (key : Json) (sort : List SortField) :
    LoadOptions where
  filter := some (partComparison selector part key)
  sort := sort

/-! ## Names -/

theorem Filter.isFieldName_append {name : String} (h : isFieldName name = true) (rest : String) :
    isFieldName (name ++ rest) = true := by
  unfold isFieldName at h ⊢
  rw [String.toList_append]
  cases hlist : name.toList with
  | nil =>
    rw [hlist] at h
    cases h
  | cons c tail =>
    rw [hlist] at h
    exact h

/-- With a point behind it, a name is reserved only if it was before. -/
theorem isReserved_append_point {name : String} (h : isReserved name = false) (rest : String) :
    isReserved (name ++ "." ++ rest) = false := by
  by_contra hreserved
  rw [Bool.not_eq_false, isReserved_iff, String.toList_append, String.toList_append,
    List.append_assoc] at hreserved
  have hname : isReserved name = true := by
    rw [isReserved_iff]
    have hpoint : ".".toList = ['.'] := rfl
    rw [hpoint] at hreserved
    -- The third underscore stands in front of the point.
    match hlist : name.toList with
    | [] => simp [hlist] at hreserved
    | [a] => simp [hlist] at hreserved
    | [a, b] => simp [hlist] at hreserved
    | a :: b :: c :: tail => simpa [hlist] using hreserved
  rw [hname] at h
  cases h

/-! ## The part of a document -/

/-- The part of the date in a field; null where there is no date, or none in range. -/
def partIn (selector : String) (part : CalendarPart) (offset : Int64) (doc : Json) : Json :=
  (partReading part offset (valueAt selector doc)).toOption.getD .null

section Parts

variable {selector : String} {part : CalendarPart} {offset : Int64} {docs : List Json}

theorem partIn_of_reading {doc value : Json}
    (h : partReading part offset (valueAt selector doc) = .ok value) :
    partIn selector part offset doc = value := by
  rw [partIn, h]
  rfl

/-- The dates of the documents can be moved to the time zone. -/
def PartsInRange (docs : List Json) (selector : String) (part : CalendarPart) (offset : Int64) :
    Prop :=
  ∀ doc ∈ docs, ∃ value, partReading part offset (valueAt selector doc) = .ok value

theorem PartsInRange.reading (h : PartsInRange docs selector part offset) {doc : Json}
    (hdoc : doc ∈ docs) :
    partReading part offset (valueAt selector doc) = .ok (partIn selector part offset doc) := by
  obtain ⟨value, hvalue⟩ := h doc hdoc
  rw [partIn_of_reading hvalue, hvalue]

/-! ## The filter -/

theorem ofJson_partComparison (hname : Filter.isFieldName selector = true) (part : CalendarPart)
    (key : Json) : Filter.ofJson? (partComparison selector part key) =
      some (.compare (selector ++ "." ++ part.name) .eq key) :=
  Filter.ofJson_compare
    (Filter.isFieldName_append (Filter.isFieldName_append hname ".") part.name) .eq key

/-- The filter asks whether the part of a document has the text of the key. -/
theorem asks_partComparison (hname : Filter.isFieldName selector = true)
    (hpart : part.isDatePart = true) {doc value key : Json}
    (hvalue : partReading part offset (valueAt selector doc) = .ok value) (hkey : IsKeyValue key) :
    (Filter.compare (selector ++ "." ++ part.name) .eq key).asks offset doc =
      .ok (decide (value.keyText = key.keyText)) := by
  have hbase : selector ≠ "" := by
    rintro rfl
    cases hname
  exact Filter.asks_part (PartField.ofName?_append hbase hpart) hvalue hkey

/-- A filter for a part keeps the documents that have it. -/
theorem aggregate_partFilter (hdocs : ∀ doc ∈ docs, IsPlain doc)
    (hname : Filter.isFieldName selector = true) (hreserved : isReserved selector = false)
    (hpart : part.isDatePart = true) (hrange : PartsInRange docs selector part offset) {key : Json}
    (hkey : IsKeyValue key) :
    (Collection.mk docs).aggregate
        (Pipeline.filterStages (partComparison selector part key) offset) =
      .ok (docs.filter fun doc => (partIn selector part offset doc).keyText = key.keyText) := by
  have hasks : ∀ doc ∈ docs, (Filter.compare (selector ++ "." ++ part.name) .eq key).asks offset
      doc = .ok (decide ((partIn selector part offset doc).keyText = key.keyText)) :=
    fun doc hdoc => asks_partComparison hname hpart (hrange.reading hdoc) hkey
  have hleaves : ∀ name ∈ (Filter.compare (selector ++ "." ++ part.name) .eq key).leaves,
      name = selector ++ "." ++ part.name := fun name hmem => List.mem_singleton.mp hmem
  refine (run_filter (ofJson_partComparison hname part key) ?_ ?_ hdocs _).mpr ⟨?_, ?_⟩
  · intro name hmem
    rw [hleaves name hmem]
    exact isReserved_append_point hreserved part.name
  · -- There is one leaf only.
    intro first hfirst second hsecond f hf g hg _
    rw [hleaves first hfirst] at hf
    rw [hleaves second hsecond] at hg
    exact Option.some.inj (hf.symm.trans hg)
  · exact fun doc hdoc => ⟨_, hasks doc hdoc⟩
  · refine List.filter_congr fun doc hdoc => ?_
    rw [hasks doc hdoc]
    simp

/-! ## The groups -/

/-- The documents of a key, stripped of what has been computed into them, are those that have it as
    their part. -/
theorem map_stripKeys_docsOf {field : String} {reading : Json → Json} {inside computed : List Json}
    (h : List.Forall₂ (fun doc later => stripKeys later = doc ∧ valueAt field later = reading doc)
      inside computed) (key : Json) :
    (docsOf field computed key).map stripKeys =
      inside.filter fun doc => (reading doc).keyText = key.keyText := by
  induction h with
  | nil => rfl
  | @cons doc later _ _ hboth _ ih =>
    obtain ⟨hstrip, hvalue⟩ := hboth
    rw [docsOf] at ih ⊢
    by_cases hkey : (reading doc).keyText = key.keyText
    · rw [List.filter_cons_of_pos (by simpa [hvalue] using hkey),
        List.filter_cons_of_pos (by simpa using hkey), List.map_cons, ih, hstrip]
    · rw [List.filter_cons_of_neg (by simpa [hvalue] using hkey),
        List.filter_cons_of_neg (by simpa using hkey), ih]

/-- The key stages of a level by a part compute the part of every document. -/
theorem computed_parts (hdocs : ∀ doc ∈ docs, IsPlain doc)
    (hselector : startsWithDollar selector = false)
    (hrange : PartsInRange docs selector part offset) :
    ∃ stages computed, Reads (groupKey selector (some (.named part.name)) 0 offset).stages stages ∧
      runStages stages docs = .ok computed ∧
      (∀ later ∈ computed, IsKeyValue (valueAt (keyField 0) later)) ∧
      List.Forall₂ (fun doc later => stripKeys later = doc ∧
        valueAt (keyField 0) later = partIn selector part offset doc) docs computed := by
  have hbucketed : (GroupInterval.named part.name).isBucketed = true := by
    simp [GroupInterval.isBucketed, GroupInterval.part?, CalendarPart.ofName?_name]
  have hbucket : ∀ value, bucketReading (.named part.name) offset value =
      partReading part offset value := by
    intro value
    simp [bucketReading, GroupInterval.width?, GroupInterval.part?, CalendarPart.ofName?_name]
  obtain ⟨stages, hreads, hcomputes⟩ := computes_keyStages hselector hbucketed 0 offset
  have hobject : ∀ doc ∈ docs, doc.isObject = true := fun doc hdoc => (hdocs doc hdoc).isObject
  obtain ⟨computed, hcomputed⟩ : ∃ computed, runStages stages docs = .ok computed := by
    refine (isLocal_runStages hcomputes.looksAtOne).ok_iff.mpr fun doc hdoc => ?_
    obtain ⟨value, hvalue⟩ := hrange doc hdoc
    obtain ⟨later, hlater, -⟩ :=
      hcomputes.ok doc value (hobject doc hdoc) ((hbucket _).trans hvalue)
    exact ⟨[later], hlater⟩
  have hrun := hcomputes.run hobject hcomputed
  refine ⟨stages, computed, hreads, hcomputed, ?_, forall₂_imp_of_mem hrun ?_⟩
  · intro later hlater
    obtain ⟨doc, -, -, value, hvalue, hresolve⟩ := exists_of_mem_right hrun hlater
    rw [valueAt, hresolve]
    exact isKeyValue_bucketReading hbucketed hvalue
  · rintro doc hdoc later ⟨hsets, value, hvalue, hresolve⟩
    constructor
    · rw [hsets.stripKeys hasNoPoint_levelFields isKeyField_levelFields, (hdocs doc hdoc).stripKeys]
    · rw [valueAt, hresolve, Option.getD_some]
      exact (partIn_of_reading ((hbucket _).symm.trans hvalue)).symm

end Parts

section Requests

variable {e : Engine} {docs : List Json} {selector : String} {part : CalendarPart}
  {sort : List SortField} {sorts : List Stage} {arrange : List Json → List Json}

/-- The rows that have a key as their part, in the order of the sort. -/
def rowsOfPart (e : Engine) (selector : String) (part : CalendarPart)
    (sorted : List Json) (key : Json) : List Json :=
  (sorted.filter fun doc =>
    (partIn selector part e.config.timezoneOffset doc).keyText = key.keyText).map e.shownRow

/-- The flat request for a key answers the rows of its part. -/
theorem succeeds_filteredByPart (hrunner : e.runner = .ofCollection ⟨docs⟩)
    (hdocs : ∀ doc ∈ docs, IsPlain doc) (hname : Filter.isFieldName selector = true)
    (hreserved : isReserved selector = false) (hpart : part.isDatePart = true)
    (hrange : PartsInRange docs selector part e.config.timezoneOffset)
    (hsorts : Reads (Pipeline.sortStages sort) sorts) (harrange : Arranges sorts arrange)
    {key : Json} (hkey : IsKeyValue key) :
    Step.Succeeds (e.queryRows (filteredByPart selector part key sort))
      { data := .rows (rowsOfPart e selector part (arrange docs) key) } := by
  have hfilter := aggregate_partFilter hdocs hname hreserved hpart hrange hkey
  have hrows : (Collection.mk docs).aggregate
      (e.rowsPipeline (filteredByPart selector part key sort)) =
        .ok ((arrange docs).filter fun doc =>
          (partIn selector part e.config.timezoneOffset doc).keyText = key.keyText) := by
    have hpipeline : e.rowsPipeline (filteredByPart selector part key sort) =
        Pipeline.filterStages (partComparison selector part key) e.config.timezoneOffset ++
          Pipeline.sortStages sort ++ [] ++ [] := rfl
    rw [hpipeline, List.append_nil, List.append_nil, harrange.filter]
    exact aggregate_append_eq_ok.mpr ⟨_, sorts, hfilter, hsorts, harrange.run _⟩
  have hreport : Step.Succeeds (Engine.reportFilter (filteredByPart selector part key sort)) () :=
    Engine.outcome_reportFilter _
  unfold Engine.queryRows
  rw [hrunner]
  exact hreport.bind ((Step.Succeeds.execute hrows).bind (.pure _))

/-- The groups by a part are those of the documents once their parts are computed. -/
theorem aggregate_groupedByPart {stages : List Stage} {computed out : List Json}
    (hsorts : Reads (Pipeline.sortStages sort) sorts) (harrange : Arranges sorts arrange)
    (hreads : Reads (groupKey selector (some (.named part.name)) 0 e.config.timezoneOffset).stages
      stages)
    (hcomputed : runStages stages (arrange docs) = .ok computed)
    (hout : runStages (levelStages false false (keyField 0) (some .document)) computed = .ok out) :
    (Collection.mk docs).aggregate (e.levelPipeline (groupedByPart selector part sort)
      ⟨selector, false, true, some (.named part.name)⟩ 0 true [] []) = .ok out := by
  have hpipeline : e.levelPipeline (groupedByPart selector part sort)
      ⟨selector, false, true, some (.named part.name)⟩ 0 true [] [] =
    Pipeline.sortStages sort ++ [] ++ [] ++ Pipeline.groupingStages false true false
      (groupKey selector (some (.named part.name)) 0 e.config.timezoneOffset) none ++ [] := rfl
  have hlevel : Reads (Pipeline.groupingStages false true false
      (groupKey selector (some (.named part.name)) 0 e.config.timezoneOffset) none) _ :=
    reads_levelStages hreads rfl ofJson_currentDocument
  rw [hpipeline, List.append_nil, List.append_nil, List.append_nil,
    aggregate_of_reads (hsorts.append hlevel)]
  exact runStages_append_eq_ok.mpr ⟨_, harrange.run docs,
    runStages_append_eq_ok.mpr ⟨computed, hcomputed, hout⟩⟩

/-- The grouped request answers groups with the rows of their keys. -/
theorem succeeds_groupedByPart (hrunner : e.runner = .ofCollection ⟨docs⟩)
    (hdocs : ∀ doc ∈ docs, IsPlain doc) (hselector : startsWithDollar selector = false)
    (hrange : PartsInRange docs selector part e.config.timezoneOffset)
    (hsorts : Reads (Pipeline.sortStages sort) sorts) (harrange : Arranges sorts arrange) :
    ∃ groups, Step.Succeeds (e.queryGrouped (groupedByPart selector part sort))
        { data := .groups groups } ∧
      ∀ group ∈ groups, IsKeyValue group.key ∧
        group.items = .rows (rowsOfPart e selector part (arrange docs) group.key) := by
  have hmem : ∀ doc ∈ arrange docs, doc ∈ docs := fun doc hdoc =>
    (harrange.perm docs).mem_iff.mp hdoc
  obtain ⟨stages, computed, hreads, hcomputed, hvalues, hparts⟩ :=
    computed_parts (fun doc hdoc => hdocs doc (hmem doc hdoc)) hselector
      (fun doc hdoc => hrange doc (hmem doc hdoc))
  have hpushed : ∀ pushed ∈ some Expression.document, ∀ doc ∈ computed,
      ∃ value, pushed.eval doc = .ok value := by
    rintro pushed ⟨⟩ doc _
    exact ⟨doc, rfl⟩
  obtain ⟨out, hout⟩ := exists_run_levelStages hpushed false false (keyField 0)
  obtain ⟨keys, hkeys, hgroups⟩ := run_levelStages hout
  have hanswer := aggregate_groupedByPart hsorts harrange hreads hcomputed hout
  obtain ⟨found, hfound⟩ : ∃ found, out.mapM Group.ofJson = .ok found := by
    refine exists_mapM_eq_ok fun doc hdoc => ?_
    obtain ⟨key, -, hgroup⟩ := exists_of_mem_right hgroups hdoc
    obtain ⟨group, hread, -⟩ := hgroup.exists_group
    exact ⟨group, hread⟩
  refine ⟨found.map (Group.mapRows fun row => e.shownRow (stripKeys row)), ?_, ?_⟩
  · have hfetched := Engine.fetchGroups_succeeds hrunner 0 hanswer hfound
    have hlevels : Step.Succeeds (e.queryGroups (groupedByPart selector part sort)
        [⟨selector, false, true, some (.named part.name)⟩] 0 [] [])
        (found.map (Group.mapRows fun row => e.shownRow (stripKeys row))) := by
      rw [Engine.queryGroups]
      exact hfetched.bind ((Step.Succeeds.pure _).bind (.pure _))
    exact Engine.queryGrouped_succeeds hlevels (.pure _) (.pure _)
  · intro shown hshown
    obtain ⟨group, hgroup, rfl⟩ := List.mem_map.mp hshown
    obtain ⟨doc, hdoc, hread⟩ := exists_of_mem_right (mapM_eq_ok.mp hfound) hgroup
    obtain ⟨key, hkey, hisGroup⟩ := exists_of_mem_right hgroups hdoc
    have hitems := Group.items_of_pushed (f := id) (fun _ => rfl) hread hisGroup
    obtain ⟨rfl, -, -⟩ := Group.ofJson_eq_ok hread hisGroup
    rw [Group.key_mapRows]
    constructor
    · obtain ⟨later, hlater, hvalue⟩ := hkeys.exists_doc group.key hkey
      rw [← hvalue]
      exact hvalues later hlater
    · rw [Group.mapRows, hitems, List.map_id, rowsOfPart, ← map_stripKeys_docsOf hparts,
        List.map_map]
      rfl

/-- Groups by a part of a date have the rows of the filters for their keys.

    The documents have no reserved names, the field is one that a filter can name, and the dates can
    be moved to the time zone. Then the grouped request succeeds, each of its groups has rows, and
    from any session the flat request that filters for the key of the group, null without a date,
    answers these rows in their order. -/
theorem part_groups_agree (hrunner : e.runner = .ofCollection ⟨docs⟩)
    (hdocs : ∀ doc ∈ docs, IsPlain doc) (hname : Filter.isFieldName selector = true)
    (hreserved : isReserved selector = false) (hpart : part.isDatePart = true)
    (hrange : PartsInRange docs selector part e.config.timezoneOffset) (sort : List SortField)
    (s : Session) :
    ∃ groups s', e.query (groupedByPart selector part sort) s =
        (.ok { data := .groups groups }, s') ∧
      ∀ group ∈ groups, ∃ rows, group.items = .rows rows ∧
        ∀ t, ∃ t', e.query (filteredByPart selector part group.key sort) t =
          (.ok { data := .rows rows }, t') := by
  obtain ⟨sorts, hsorts⟩ := exists_reads_sortStages sort
  obtain ⟨arrange, harrange⟩ := arranges_sortStages hsorts
  have hselector := Filter.startsWithDollar_of_isFieldName hname
  obtain ⟨groups, hgrouped, hgroups⟩ :=
    succeeds_groupedByPart hrunner hdocs hselector hrange hsorts harrange
  obtain ⟨s', hs'⟩ := Engine.query_of_succeeds e (groupedByPart selector part sort) hgrouped s
  refine ⟨groups, s', hs', fun group hgroup => ?_⟩
  obtain ⟨hkey, hitems⟩ := hgroups group hgroup
  have hflat := succeeds_filteredByPart hrunner hdocs hname hreserved hpart hrange hsorts harrange
    hkey
  exact ⟨_, hitems,
    Engine.query_of_succeeds e (filteredByPart selector part group.key sort) hflat⟩

end Requests

/-- Two documents with dates of different years, and one without a date. -/
def partlyDatedDocuments : List Json := datedDocuments ++ [.single "n" (.ofUInt64 1)]

def overPartlyDated : Engine where
  runner := .ofCollection ⟨partlyDatedDocuments⟩

theorem partsInRange_partlyDated :
    PartsInRange partlyDatedDocuments "d" .year overPartlyDated.config.timezoneOffset := by
  intro doc hdoc
  simp only [partlyDatedDocuments, datedDocuments, List.cons_append, List.nil_append,
    List.mem_cons, List.not_mem_nil, or_false] at hdoc
  rcases hdoc with rfl | rfl | rfl
  · exact ⟨.ofInt64 2024, by decide +kernel⟩
  · exact ⟨.ofInt64 2023, by decide +kernel⟩
  · exact ⟨.null, by decide +kernel⟩

theorem part_groups_agree_partlyDated :
    ∃ groups s', overPartlyDated.query (groupedByPart "d" .year [⟨"d", true⟩]) {} =
        (.ok { data := .groups groups }, s') ∧
      ∀ group ∈ groups, ∃ rows, group.items = .rows rows ∧
        ∀ t, ∃ t', overPartlyDated.query
          (filteredByPart "d" .year group.key [⟨"d", true⟩]) t =
            (.ok { data := .rows rows }, t') := by
  have hrunner : overPartlyDated.runner = .ofCollection ⟨partlyDatedDocuments⟩ := rfl
  have hplain : ∀ doc ∈ partlyDatedDocuments, IsPlain doc := by decide
  have hname : Filter.isFieldName "d" = true := by decide
  have hreserved : isReserved "d" = false := by decide
  have hpart : CalendarPart.year.isDatePart = true := rfl
  exact part_groups_agree hrunner hplain hname hreserved hpart partsInRange_partlyDated
    [⟨"d", true⟩] {}

end GridQuery
