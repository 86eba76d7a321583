import Mathlib
import GridQuery.Proofs.Chains
import GridQuery.Proofs.FilterMeaning
import GridQuery.Proofs.PartFields

/-!
# Filtering documents

The stages of a filter compute the parts that it looks at, match its predicate and remove the parts
again. What is left are documents of the collection, as they were.

Results:
* `run_removal`: no computed field outlasts the stages of a filter.
* `run_filter_one`: one document goes through the stages as the filter says, or not at all.
* `filterStages_meaning`: the stages keep the documents of which the filter holds, and fail only
  where one of the documents has no answer.
-/

namespace GridQuery

open Collection (aggregate_of_reads runStages runStages_append runStages_append_eq_ok runStages_one)
open Pipeline (computePart constant filterStages writtenBy)

/-! ## Removing fields -/

/-- The fields that are removed, each with a zero. -/
def removedEntries (names : List String) : Entries :=
  Entries.ofList (names.map fun name => (name, constant 0))

/-- The stage that removes fields; none if there are no fields. -/
def removal (names : List String) : List Stage :=
  if (removedEntries names).isEmpty then []
  else [.project ((removedEntries names).map fun entry => (entry.1, .drop))]

theorem mem_removedEntries {names : List String} {entry : String × Json}
    (h : entry ∈ removedEntries names) : entry.1 ∈ names ∧ entry.2 = constant 0 := by
  obtain ⟨-, hmem, -⟩ := Entries.ofList_spec (names.map fun name => (name, constant 0))
  obtain ⟨name, hname, rfl⟩ := List.mem_map.mp (hmem entry h)
  exact ⟨hname, rfl⟩

theorem subset_keys_removedEntries (names : List String) :
    names ⊆ Entries.keys (removedEntries names) := by
  obtain ⟨-, -, hkeys⟩ := Entries.ofList_spec (names.map fun name => (name, constant 0))
  intro name hname
  refine hkeys name ?_
  rw [Entries.keys, List.map_map]
  exact List.mem_map.mpr ⟨name, hname, rfl⟩

theorem readEntries_zeros {entries : Entries} (h : ∀ entry ∈ entries, entry.2 = constant 0) :
    Stage.readEntries "$project" Projection.ofJson (.object entries) =
      .ok (entries.map fun entry => (entry.1, .drop)) := by
  rw [Stage.readEntries]
  refine mapM_total fun entry hentry => ?_
  simp only [h entry hentry, Projection.ofJson_zero]
  rfl

theorem reads_removal (names : List String) :
    Reads (if (removedEntries names).isEmpty then []
      else [.single "$project" (.object (removedEntries names))]) (removal names) := by
  unfold removal
  split_ifs
  · exact reads_nil
  · refine reads_one ?_
    have hzeros : ∀ entry ∈ removedEntries names, entry.2 = constant 0 := fun _ hentry =>
      (mem_removedEntries hentry).2
    have hread := readEntries_zeros hzeros
    simp only [Json.single, Stage.ofJson, Stage.ofEntry, hread]
    rfl

theorem project_drops {names : List String} {entries : Entries} :
    project (names.map fun name => (name, .drop)) (.object entries) =
      .ok (.object (names.foldl (fun entries name => Entries.swapRemove name entries)
        entries)) := by
  have hselects : selects (names.map fun name => (name, .drop)) = false := by
    simp [selects]
  rw [project, hselects]
  simp only [Bool.false_eq_true, if_false, List.foldl_map]

/-- The fields are removed one after the other. -/
theorem run_removal_object (names : List String) (entries : Entries) :
    runStages (removal names) [.object entries] =
      .ok [.object ((Entries.keys (removedEntries names)).foldl
        (fun entries name => Entries.swapRemove name entries) entries)] := by
  unfold removal
  split_ifs with hempty
  · rw [List.isEmpty_iff.mp hempty]
    rfl
  · have hstage : (removedEntries names).map (fun entry => (entry.1, Projection.drop)) =
        (Entries.keys (removedEntries names)).map fun name => (name, .drop) := by
      rw [Entries.keys, List.map_map]
      rfl
    rw [runStages_one, Stage.run, hstage, List.mapM_cons, project_drops]
    rfl

/-- Once the computed fields are removed, the document is as it was. -/
theorem run_removal {names : List String} {doc later : Json} (h : Extends names doc later)
    (hplain : IsPlain doc) (hreserved : ∀ name ∈ names, isReserved name = true) :
    runStages (removal names) [later] = .ok [doc] := by
  obtain ⟨entries, rfl, hrestored⟩ := h.removeAll hplain (subset_keys_removedEntries names)
    (by
      intro name hname
      obtain ⟨entry, hentry, rfl⟩ := List.mem_map.mp hname
      exact hreserved _ (mem_removedEntries hentry).1)
  rw [run_removal_object, hrestored]

/-! ## What a filter asks of a document -/

namespace Filter

/-- The value that a filter finds under a name: the part of a part field, and else what the document
    has there. -/
def leafValue (offset : Int64) (doc : Json) (name : String) : Option Json :=
  match PartField.ofName? name with
  | some f => (f.reading offset doc).toOption
  | none => doc.resolve? name

/-- All parts that a filter looks at can be computed of a document. -/
def partsInRange (offset : Int64) (filter : Filter) (doc : Json) : Bool :=
  filter.leaves.all fun name =>
    match PartField.ofName? name with
    | some f => (f.reading offset doc).isOk
    | none => true

/-- What a filter asks of a document. All parts are computed before it is looked at. -/
def asks (offset : Int64) (filter : Filter) (doc : Json) : Except Fault Bool :=
  if filter.partsInRange offset doc then (filter.holds (leafValue offset doc)).mapError .error
  else .error .dateOverflow

/-- No two part fields among the names share the field in which they are computed. -/
def DistinctParts (names : List String) : Prop :=
  ∀ name ∈ names, ∀ name' ∈ names, ∀ f ∈ PartField.ofName? name, ∀ f' ∈ PartField.ofName? name',
    f.synthetic = f'.synthetic → f = f'

/-- The part fields that a filter looks at. -/
def parts (filter : Filter) : List PartField :=
  (recordFields [] filter.leaves).filterMap PartField.ofName?

variable {filter : Filter}

theorem mem_parts {f : PartField} :
    f ∈ filter.parts ↔ ∃ name ∈ filter.leaves, PartField.ofName? name = some f := by
  simp only [parts, List.mem_filterMap, mem_recordFields, List.not_mem_nil, false_or]

/-- The parts of a filter are computed apart from each other. -/
theorem apart_parts (hreserved : ∀ name ∈ filter.leaves, isReserved name = false)
    (hdistinct : DistinctParts filter.leaves) : Apart filter.parts where
  base f hf := by
    obtain ⟨name, hname, hpart⟩ := mem_parts.mp hf
    exact PartField.isReserved_base hpart (hreserved name hname)
  synthetic := by
    refine (nodup_partFields (nodup_recordFields List.nodup_nil _)).imp_of_mem ?_
    intro f g hf hg hne hwritten
    obtain ⟨name, hname, hf⟩ := mem_parts.mp hf
    obtain ⟨name', hname', hg⟩ := mem_parts.mp hg
    unfold writtenBy at hwritten
    split_ifs at hwritten
    · rcases List.mem_pair.mp hwritten with h | h
      · exact hne (hdistinct name hname name' hname' f hf g hg h)
      · exact PartField.synthetic_ne_scratch hf g h
    · exact hne (hdistinct name hname name' hname' f hf g hg (List.mem_singleton.mp hwritten))

theorem partsInRange_iff {offset : Int64} {doc : Json} :
    filter.partsInRange offset doc = true ↔
      ∀ f ∈ filter.parts, ∃ value, f.reading offset doc = .ok value := by
  have hok : ∀ x : Except DateOverflow Json, x.isOk = true ↔ ∃ value, x = .ok value := by
    intro x
    cases x <;> simp [Except.isOk, Except.toBool]
  simp only [partsInRange, List.all_eq_true, mem_parts]
  constructor
  · rintro h f ⟨name, hname, hf⟩
    have hin := h name hname
    rw [hf] at hin
    exact (hok _).mp hin
  · intro h name hname
    cases hf : PartField.ofName? name with
    | none => rfl
    | some f => exact (hok _).mpr (h f ⟨name, hname, hf⟩)

/-- A comparison of a part with a key asks whether they have one text. -/
theorem asks_part {name : String} {f : PartField} (hf : PartField.ofName? name = some f)
    {offset : Int64} {doc value key : Json} (hvalue : f.reading offset doc = .ok value)
    (hkey : IsKeyValue key) : (Filter.compare name .eq key).asks offset doc =
      .ok (decide (value.keyText = key.keyText)) := by
  have hrange : (Filter.compare name .eq key).partsInRange offset doc = true := by
    simp only [partsInRange, leaves, List.all_cons, List.all_nil, hf, hvalue]
    rfl
  have hleaf : leafValue offset doc name = some value := by
    simp only [leafValue, hf, hvalue]
    rfl
  have hequals : equalsOperand (some value) key = decide (value.keyText = key.keyText) :=
    equalsOperand_scalar (isKeyValue_partReading hvalue).isScalar hkey.isScalar
  rw [asks, if_pos hrange, holds, hleaf, Comparison.holds, hequals]
  rfl

/-- Once the parts are computed, the predicate finds the values of the leaves. -/
theorem fits_of_parts {offset : Int64} {doc later : Json}
    (hnames : ∀ name ∈ filter.leaves, startsWithDollar name = false)
    (hreserved : ∀ name ∈ filter.leaves, isReserved name = false)
    (hinRange : filter.partsInRange offset doc = true)
    (hsets : Sets (filter.parts.flatMap writtenBy) doc later)
    (hread : ∀ f ∈ filter.parts, ∀ value, f.reading offset doc = .ok value →
      later.resolve? f.synthetic = some value) :
    Fits later (leafValue offset doc) filter.leaves := by
  intro name hname
  rw [predicateField, leafValue]
  cases hf : PartField.ofName? name with
  | none =>
    refine ⟨hnames name hname, hsets.resolve? hasNoPoint_written fun key hkey => ?_⟩
    exact firstKey_ne (hreserved name hname) (isReserved_written key hkey)
  | some f =>
    have hmem : f ∈ filter.parts := mem_parts.mpr ⟨name, hname, hf⟩
    obtain ⟨value, hvalue⟩ := partsInRange_iff.mp hinRange f hmem
    refine ⟨startsWithDollar_of_isReserved f.isReserved_synthetic, ?_⟩
    simp only [hread f hmem value hvalue, hvalue]
    rfl

end Filter

/-! ## The stages of a filter -/

/-- The stages that a filter is compiled to, behind those of its parts. -/
def filterTail (filter : Filter) : List Stage :=
  .keepMatching filter.predicate :: removal (filter.parts.flatMap writtenBy)

theorem reads_filterStages {expr : Json} {filter : Filter} (h : Filter.ofJson? expr = some filter)
    {offset : Int64} {partStages : List Stage}
    (hparts : Reads (filter.parts.flatMap (computePart offset)) partStages) :
    Reads (filterStages expr offset) (partStages ++ filterTail filter) := by
  simp only [filterStages, Pipeline.compiledStages, CompiledFilter.ofJson, CompiledFilter.after, h]
  rw [List.append_assoc]
  exact hparts.append (reads_cons rfl (reads_removal _))

theorem filterStages_of_none {expr : Json} (h : Filter.ofJson? expr = none) (offset : Int64) :
    filterStages expr offset = [] := by
  simp only [filterStages, Pipeline.compiledStages, CompiledFilter.ofJson, CompiledFilter.after, h]

theorem looksAtOne_removal (names : List String) :
    ∀ stage ∈ removal names, stage.LooksAtOne := by
  intro stage hstage
  unfold removal at hstage
  split_ifs at hstage
  · cases hstage
  · rw [List.mem_singleton.mp hstage]
    trivial

theorem looksAtOne_filterTail (filter : Filter) :
    ∀ stage ∈ filterTail filter, stage.LooksAtOne := by
  intro stage hstage
  rcases List.mem_cons.mp hstage with rfl | hstage
  · trivial
  · exact looksAtOne_removal _ stage hstage

/-- A document is matched with its parts, and stays without them. -/
theorem run_filterTail_one {filter : Filter} {doc later : Json} (hplain : IsPlain doc)
    (hsets : Sets (filter.parts.flatMap writtenBy) doc later) {out : List Json} :
    runStages (filterTail filter) [later] = .ok out ↔
      ∃ holds, later.satisfies filter.predicate = .ok holds ∧
        out = if holds then [doc] else [] := by
  have hrestored : runStages (removal (filter.parts.flatMap writtenBy)) [later] = .ok [doc] :=
    run_removal (hsets.extend (hplain.extends_self.mono (List.nil_subset _)) hplain
      (List.Subset.refl _) hasNoPoint_written isReserved_written) hplain isReserved_written
  have hnone : runStages (removal (filter.parts.flatMap writtenBy)) [] = .ok [] :=
    (isLocal_runStages (looksAtOne_removal _)).nil
  rw [filterTail, ← List.singleton_append, runStages_append_eq_ok]
  simp only [runStages_one, run_keepMatching_one]
  constructor
  · rintro ⟨_, ⟨holds, hholds, rfl⟩, hout⟩
    refine ⟨holds, hholds, ?_⟩
    cases holds with
    | true => exact Except.ok.inj (hout.symm.trans hrestored)
    | false => exact Except.ok.inj (hout.symm.trans hnone)
  · rintro ⟨holds, hholds, rfl⟩
    refine ⟨_, ⟨holds, hholds, rfl⟩, ?_⟩
    cases holds with
    | true => exact hrestored
    | false => exact hnone

/-- One document goes through the stages of a filter as the filter says. -/
theorem run_filter_one {filter : Filter} {offset : Int64} {partStages : List Stage}
    (hcomputes : ComputesParts partStages filter.parts offset)
    (hnames : ∀ name ∈ filter.leaves, startsWithDollar name = false)
    (hreserved : ∀ name ∈ filter.leaves, isReserved name = false)
    (hdistinct : Filter.DistinctParts filter.leaves) {doc : Json} (hplain : IsPlain doc)
    (out : List Json) :
    runStages (partStages ++ filterTail filter) [doc] = .ok out ↔
      ∃ holds, filter.asks offset doc = .ok holds ∧ out = if holds then [doc] else [] := by
  have hapart := Filter.apart_parts hreserved hdistinct
  have hobject := hplain.isObject
  cases hinRange : filter.partsInRange offset doc with
  | true =>
    obtain ⟨later, hlater, hread⟩ :=
      hcomputes.ok hapart doc hobject (Filter.partsInRange_iff.mp hinRange)
    obtain ⟨_, ⟨⟩, hsets⟩ := hcomputes.sets doc _ hobject hlater
    have hfits := Filter.fits_of_parts hnames hreserved hinRange hsets hread
    rw [runStages_append, hlater]
    refine (run_filterTail_one hplain hsets).trans ?_
    rw [Filter.satisfies_predicate filter hfits, Filter.asks, if_pos hinRange]
    simp only [mapError_eq_ok]
  | false =>
    obtain ⟨f, hf, e, he⟩ : ∃ f ∈ filter.parts, ∃ e, f.reading offset doc = .error e := by
      by_contra hnone
      push Not at hnone
      have hall : filter.partsInRange offset doc = true := by
        refine Filter.partsInRange_iff.mpr fun f hf => ?_
        cases hvalue : f.reading offset doc with
        | ok value => exact ⟨value, rfl⟩
        | error e => exact absurd hvalue (hnone f hf e)
      rw [hall] at hinRange
      cases hinRange
    rw [runStages_append, hcomputes.error hapart doc hobject f hf e he, Filter.asks, hinRange]
    constructor
    · nofun
    · rintro ⟨_, ⟨⟩, -⟩

theorem startsWithDollar_leaves {expr : Json} {filter : Filter}
    (h : Filter.ofJson? expr = some filter) :
    ∀ name ∈ filter.leaves, startsWithDollar name = false := fun name hname =>
  Filter.startsWithDollar_of_isFieldName (Filter.hasFieldNames_of_ofJson expr filter h name hname)

theorem startsWithDollar_parts {expr : Json} {filter : Filter}
    (h : Filter.ofJson? expr = some filter) :
    ∀ f ∈ filter.parts, startsWithDollar f.base = false := by
  intro f hf
  obtain ⟨name, hname, hpart⟩ := Filter.mem_parts.mp hf
  exact PartField.startsWithDollar_base hpart (startsWithDollar_leaves h name hname)

theorem looksAtOne_filter {filter : Filter} {offset : Int64} {partStages : List Stage}
    (h : ComputesParts partStages filter.parts offset) :
    ∀ stage ∈ partStages ++ filterTail filter, stage.LooksAtOne :=
  List.forall_mem_append.mpr ⟨h.looksAtOne, looksAtOne_filterTail filter⟩

/-- The documents that go through the stages of a filter. -/
theorem run_filter {expr : Json} {filter : Filter} (hparse : Filter.ofJson? expr = some filter)
    {offset : Int64} (hreserved : ∀ name ∈ filter.leaves, isReserved name = false)
    (hdistinct : Filter.DistinctParts filter.leaves) {docs : List Json}
    (hdocs : ∀ doc ∈ docs, IsPlain doc) (out : List Json) :
    (Collection.mk docs).aggregate (filterStages expr offset) = .ok out ↔
      (∀ doc ∈ docs, ∃ holds, filter.asks offset doc = .ok holds) ∧
        out = docs.filter fun doc => filter.asks offset doc = .ok true := by
  have hnames := startsWithDollar_leaves hparse
  obtain ⟨partStages, hparts, hcomputes⟩ := computes_parts offset (startsWithDollar_parts hparse)
  have hlocal := isLocal_runStages (looksAtOne_filter hcomputes)
  rw [aggregate_of_reads (reads_filterStages hparse hparts)]
  exact hlocal.filter_iff (fun doc hdoc =>
    run_filter_one hcomputes hnames hreserved hdistinct (hdocs doc hdoc)) out

/-- A filter has no answer for a document whose parts are out of range, and for one on which it
    comes to a pattern that is not valid. -/
theorem asks_error_iff {filter : Filter} {offset : Int64} {doc : Json} :
    (∃ fault, filter.asks offset doc = .error fault) ↔
      filter.partsInRange offset doc = false ∨ ∃ pattern reason,
        filter.holds (Filter.leafValue offset doc) = .error (.invalidPattern pattern reason) := by
  rw [Filter.asks]
  cases hinRange : filter.partsInRange offset doc with
  | false => simp
  | true =>
    rw [if_pos rfl]
    cases hholds : filter.holds (Filter.leafValue offset doc) with
    | ok b => simp [Except.mapError]
    | error e =>
      obtain ⟨pattern, reason, rfl⟩ := Filter.holds_error filter hholds
      exact iff_of_true ⟨_, rfl⟩ (Or.inr ⟨pattern, reason, rfl⟩)

/-- The stages of a filter keep the documents of which it holds, as they are and in order. They fail
    exactly if a part of a document is out of range, or a document leads the filter to a pattern
    that is not valid. What is no filter keeps all documents. -/
theorem filterStages_meaning {expr : Json} (offset : Int64) {docs : List Json}
    (hdocs : ∀ doc ∈ docs, IsPlain doc)
    (hreserved : ∀ filter ∈ Filter.ofJson? expr, ∀ name ∈ filter.leaves, isReserved name = false)
    (hdistinct : ∀ filter ∈ Filter.ofJson? expr, Filter.DistinctParts filter.leaves) :
    match Filter.ofJson? expr with
    | none => (Collection.mk docs).aggregate (filterStages expr offset) = .ok docs
    | some filter =>
      (∀ out, (Collection.mk docs).aggregate (filterStages expr offset) = .ok out ↔
        (∀ doc ∈ docs, ∃ holds, filter.asks offset doc = .ok holds) ∧
          out = docs.filter fun doc => filter.asks offset doc = .ok true) ∧
      ((∃ fault, (Collection.mk docs).aggregate (filterStages expr offset) = .error fault) ↔
        ∃ doc ∈ docs, filter.partsInRange offset doc = false ∨ ∃ pattern reason,
          filter.holds (Filter.leafValue offset doc) =
            .error (.invalidPattern pattern reason)) := by
  cases hparse : Filter.ofJson? expr with
  | none =>
    rw [filterStages_of_none hparse]
    rfl
  | some filter =>
    have hrun : ∀ out, (Collection.mk docs).aggregate (filterStages expr offset) = .ok out ↔ _ :=
      run_filter hparse (hreserved filter hparse) (hdistinct filter hparse) hdocs
    refine ⟨hrun, ?_⟩
    simp only [← asks_error_iff]
    constructor
    · rintro ⟨fault, hfault⟩
      by_contra hnone
      push Not at hnone
      have hall : ∀ doc ∈ docs, ∃ holds, filter.asks offset doc = .ok holds := by
        intro doc hdoc
        cases hasks : filter.asks offset doc with
        | ok holds => exact ⟨holds, rfl⟩
        | error e => exact absurd hasks (hnone doc hdoc e)
      rw [(hrun _).mpr ⟨hall, rfl⟩] at hfault
      cases hfault
    · rintro ⟨doc, hdoc, fault, hfault⟩
      cases hout : (Collection.mk docs).aggregate (filterStages expr offset) with
      | error e => exact ⟨e, rfl⟩
      | ok out =>
        obtain ⟨holds, hholds⟩ := ((hrun out).mp hout).1 doc hdoc
        rw [hfault] at hholds
        cases hholds

/-- Two documents with dates of different years. -/
def datedDocuments : List Json :=
  [.single "d" (.single "$date" (.string "2024-05-01T00:00:00Z")),
    .single "d" (.single "$date" (.string "2023-05-01T00:00:00Z"))]

theorem ofJson_yearComparison :
    Filter.ofJson? (.array [.string "d.year", .string "=", .ofUInt64 2024]) =
      some (.compare "d.year" .eq (.ofUInt64 2024)) :=
  Filter.ofJson_compare (by decide) .eq _

theorem filterStages_keep_year :
    (Collection.mk datedDocuments).aggregate
        (filterStages (.array [.string "d.year", .string "=", .ofUInt64 2024]) 0) =
      .ok [.single "d" (.single "$date" (.string "2024-05-01T00:00:00Z"))] := by
  have hplain : ∀ doc ∈ datedDocuments, IsPlain doc := by decide
  have hmeaning := filterStages_meaning 0 hplain
    (by
      rw [ofJson_yearComparison]
      rintro filter ⟨⟩
      decide)
    (by
      rw [ofJson_yearComparison]
      rintro filter ⟨⟩ name hname name' hname' f hf f' hf' -
      rw [List.mem_singleton.mp hname] at hf
      rw [List.mem_singleton.mp hname', hf] at hf'
      exact Option.some.inj hf')
  rw [ofJson_yearComparison] at hmeaning
  exact (hmeaning.1 _).mpr ⟨by decide +kernel, by decide +kernel⟩

/-! ## Documents stay as they are -/

/-- The stages look at one document at a time, and a document of the collection stays as it is or
    goes. -/
structure Keeps (stages : List Stage) : Prop where
  looksAtOne : ∀ stage ∈ stages, stage.LooksAtOne
  one : ∀ doc, IsPlain doc → ∀ out, runStages stages [doc] = .ok out → out = [doc] ∨ out = []

namespace Keeps

theorem nil : Keeps [] where
  looksAtOne := by simp
  one doc _ out h := Or.inl (Except.ok.inj h).symm

theorem append {a b : List Stage} (ha : Keeps a) (hb : Keeps b) : Keeps (a ++ b) where
  looksAtOne := List.forall_mem_append.mpr ⟨ha.looksAtOne, hb.looksAtOne⟩
  one doc hdoc out h := by
    obtain ⟨mid, hmid, hout⟩ := runStages_append_eq_ok.mp h
    rcases ha.one doc hdoc mid hmid with rfl | rfl
    · exact hb.one doc hdoc out hout
    · rw [(isLocal_runStages hb.looksAtOne).nil] at hout
      exact Or.inr (Except.ok.inj hout).symm

/-- Stages that keep documents filter them. -/
theorem run_eq_filter {stages : List Stage} (h : Keeps stages) :
    ∃ keeps : Json → Bool, ∀ docs, (∀ doc ∈ docs, IsPlain doc) →
      ∀ out, runStages stages docs = .ok out → out = docs.filter keeps := by
  have hlocal := isLocal_runStages h.looksAtOne
  refine ⟨fun doc => runStages stages [doc] = .ok [doc], fun docs hdocs => ?_⟩
  induction docs with
  | nil =>
    intro out hout
    rw [hlocal.nil] at hout
    exact (Except.ok.inj hout).symm
  | cons doc docs ih =>
    intro out hout
    obtain ⟨a, b, ha, hb, rfl⟩ := (hlocal.cons _ _ _).mp hout
    rw [ih (fun d hd => hdocs d (List.mem_cons_of_mem _ hd)) b hb]
    rcases h.one doc (hdocs doc List.mem_cons_self) a ha with rfl | rfl
    · simp [ha]
    · simp [ha]

end Keeps

/-- The stages of a filter keep documents, whatever fields the filter names. -/
theorem keeps_filterStages (expr : Json) (offset : Int64) :
    ∃ stages, Reads (filterStages expr offset) stages ∧ Keeps stages := by
  cases hparse : Filter.ofJson? expr with
  | none => exact ⟨[], filterStages_of_none hparse offset ▸ reads_nil, .nil⟩
  | some filter =>
    obtain ⟨partStages, hparts, hcomputes⟩ := computes_parts offset (startsWithDollar_parts hparse)
    refine ⟨_, reads_filterStages hparse hparts, looksAtOne_filter hcomputes, ?_⟩
    intro doc hdoc out hout
    obtain ⟨mid, hmid, hout⟩ := runStages_append_eq_ok.mp hout
    obtain ⟨later, rfl, hsets⟩ := hcomputes.sets doc mid hdoc.isObject hmid
    obtain ⟨holds, -, rfl⟩ := (run_filterTail_one hdoc hsets).mp hout
    cases holds with
    | true => exact Or.inl rfl
    | false => exact Or.inr rfl

/-- The stages of a search keep documents. -/
theorem keeps_searchStages (fields : Option SearchFields) (operation : Option String)
    (value : Option Json) (offset : Int64) :
    ∃ stages, Reads (Pipeline.searchStages fields operation value offset) stages ∧
      Keeps stages := by
  unfold Pipeline.searchStages
  split
  · split_ifs
    · exact ⟨[], reads_nil, .nil⟩
    · split
      · exact keeps_filterStages _ offset
      · exact ⟨[], reads_nil, .nil⟩
  · exact ⟨[], reads_nil, .nil⟩

end GridQuery
