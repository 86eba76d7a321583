import Mathlib
import GridQuery.Proofs.Computed
import GridQuery.Proofs.Counting
import GridQuery.Proofs.Sorting

/-!
# What the grouping stages answer

One document for each key text, with the rows of that text in their order. The groups share out all
documents, and each document is in one of them.

Results:
* `KeysOf.perm_flatMap`: the documents of all keys are all documents, each once.
* `run_groupingStages`: the answer has one group for each text among the keys of its documents.
-/

namespace GridQuery

open Collection (aggregate_of_reads runStages runStages_append runStages_append_eq_ok runStages_one)

/-! ## Distinct texts -/

theorem mem_firstAppearances {x : String} {l : List String} : x ∈ firstAppearances l ↔ x ∈ l := by
  induction l with
  | nil => rfl
  | cons y rest ih =>
    rw [firstAppearances, List.mem_cons, List.mem_cons, List.mem_filter, ih, decide_eq_true_eq]
    by_cases h : x = y <;> simp [h]

theorem nodup_firstAppearances (l : List String) : (firstAppearances l).Nodup := by
  induction l with
  | nil => exact .nil
  | cons y rest ih =>
    rw [firstAppearances, List.nodup_cons]
    exact ⟨by simp [List.mem_filter], ih.filter _⟩

/-! ## Keys of documents -/

/-- What stands in a field of a document, or null. -/
def valueAt (field : String) (doc : Json) : Json := (doc.resolve? field).getD .null

/-- The keys of the groups of documents: each text once, and each key that of a document. -/
structure KeysOf (field : String) (docs keys : List Json) : Prop where
  nodup : (keys.map Json.keyText).Nodup
  exists_doc : ∀ key ∈ keys, ∃ doc ∈ docs, valueAt field doc = key
  covers : ∀ doc ∈ docs, (valueAt field doc).keyText ∈ keys.map Json.keyText

/-- The documents of a key. -/
def docsOf (field : String) (docs : List Json) (key : Json) : List Json :=
  docs.filter fun doc => (valueAt field doc).keyText = key.keyText

/-- Filtering by the texts of a list without repetitions shares out the documents. -/
theorem perm_flatMap_filter {α β : Type} [DecidableEq β] (f : α → β) {texts : List β}
    (hnodup : texts.Nodup) (docs : List α) :
    (texts.flatMap fun t => docs.filter fun d => f d = t).Perm
      (docs.filter fun d => f d ∈ texts) := by
  induction texts with
  | nil => simp
  | cons t texts ih =>
    rw [List.nodup_cons] at hnodup
    rw [List.flatMap_cons]
    have hsplit := List.filter_append_perm (fun d => decide (f d = t))
      (docs.filter fun d => f d ∈ t :: texts)
    refine .trans ?_ hsplit
    rw [List.filter_filter, List.filter_filter]
    refine .append (.of_eq (List.filter_congr ?_))
      ((ih hnodup.2).trans (.of_eq (List.filter_congr ?_)))
    · intro d _
      by_cases h : f d = t <;> simp [h]
    · intro d _
      by_cases h : f d = t
      · simp [h, hnodup.1]
      · simp [h]

namespace KeysOf

variable {field : String} {docs keys : List Json}

theorem perm {keys' : List Json} (h : KeysOf field docs keys) (hperm : keys.Perm keys') :
    KeysOf field docs keys' where
  nodup := (hperm.map Json.keyText).nodup_iff.mp h.nodup
  exists_doc key hkey := h.exists_doc key (hperm.mem_iff.mpr hkey)
  covers doc hdoc := (hperm.map Json.keyText).mem_iff.mp (h.covers doc hdoc)

/-- The documents of all keys are all documents, each once. -/
theorem perm_flatMap (h : KeysOf field docs keys) :
    (keys.flatMap (docsOf field docs)).Perm docs := by
  have hshare := perm_flatMap_filter (fun doc => (valueAt field doc).keyText) h.nodup docs
  rw [List.filter_eq_self.mpr (by simpa using h.covers), List.flatMap_map] at hshare
  exact hshare

/-- Each key has a document. -/
theorem docsOf_ne_nil (h : KeysOf field docs keys) : ∀ key ∈ keys, docsOf field docs key ≠ [] := by
  intro key hkey
  obtain ⟨doc, hdoc, rfl⟩ := h.exists_doc key hkey
  exact List.ne_nil_of_mem (List.mem_filter.mpr ⟨hdoc, by simp⟩)

/-- Documents in another order have the same keys. -/
theorem docs_perm {docs' : List Json} (h : KeysOf field docs keys) (hperm : docs.Perm docs') :
    KeysOf field docs' keys where
  nodup := h.nodup
  exists_doc key hkey := by
    obtain ⟨doc, hdoc, heq⟩ := h.exists_doc key hkey
    exact ⟨doc, hperm.mem_iff.mp hdoc, heq⟩
  covers doc hdoc := h.covers doc (hperm.mem_iff.mpr hdoc)

/-- The keys of documents are as many as their texts, in whatever way they are found. -/
theorem length_eq {keys' : List Json} (h : KeysOf field docs keys) (h' : KeysOf field docs keys') :
    keys.length = keys'.length := by
  have hsub : ∀ {a b : List Json}, KeysOf field docs a → KeysOf field docs b →
      a.map Json.keyText ⊆ b.map Json.keyText := by
    intro a b ha hb text htext
    obtain ⟨key, hkey, rfl⟩ := List.mem_map.mp htext
    obtain ⟨doc, hdoc, rfl⟩ := ha.exists_doc key hkey
    exact hb.covers doc hdoc
  have hperm : (keys.map Json.keyText).Perm (keys'.map Json.keyText) :=
    (List.perm_ext_iff_of_nodup h.nodup h'.nodup).mpr fun _ => ⟨@hsub _ _ h h' _, @hsub _ _ h' h _⟩
  simpa using hperm.length_eq

end KeysOf

/-! ## Grouping -/

/-- The key of the group of a text: that of its first document. -/
def firstKeyOf (field : String) (docs : List Json) (text : String) : Json :=
  let members := docs.filter fun doc => (valueAt field doc).keyText = text
  ((members.head?).map (valueAt field)).getD .null

theorem groupOf_keyed (field : String) (docs : List Json) (text : String) :
    groupOf (docs.map fun doc => (valueAt field doc, doc)) text =
      (firstKeyOf field docs text, docs.filter fun doc => (valueAt field doc).keyText = text) := by
  simp only [groupOf, firstKeyOf, List.filter_map, List.head?_map, List.map_map, Option.map_map]
  simp [Function.comp_def]

theorem valueAt_firstKeyOf {field : String} {docs : List Json} {text : String}
    (h : text ∈ docs.map fun doc => (valueAt field doc).keyText) :
    ∃ doc ∈ docs, valueAt field doc = firstKeyOf field docs text ∧
      (firstKeyOf field docs text).keyText = text := by
  obtain ⟨doc, hdoc, htext⟩ := List.mem_map.mp h
  have hmem : doc ∈ docs.filter fun doc => (valueAt field doc).keyText = text :=
    List.mem_filter.mpr ⟨hdoc, by simpa using htext⟩
  obtain ⟨first, rest, hfirst⟩ := List.exists_cons_of_ne_nil (List.ne_nil_of_mem hmem)
  have hkey : firstKeyOf field docs text = valueAt field first := by
    rw [firstKeyOf, hfirst]
    rfl
  have hmem' : first ∈ docs.filter fun doc => (valueAt field doc).keyText = text :=
    hfirst ▸ List.mem_cons_self
  obtain ⟨hin, heq⟩ := List.mem_filter.mp hmem'
  exact ⟨first, hin, hkey.symm, by rw [hkey]; simpa using heq⟩

/-- The keys of the groups, in the order in which their texts first appear. -/
theorem keysOf_firstAppearances (field : String) (docs : List Json) :
    KeysOf field docs ((firstAppearances (docs.map fun doc => (valueAt field doc).keyText)).map
      (firstKeyOf field docs)) := by
  have htexts : ∀ text ∈ firstAppearances (docs.map fun doc => (valueAt field doc).keyText),
      ∃ doc ∈ docs, valueAt field doc = firstKeyOf field docs text ∧
        (firstKeyOf field docs text).keyText = text :=
    fun text htext => valueAt_firstKeyOf (mem_firstAppearances.mp htext)
  have hback : ((firstAppearances (docs.map fun doc => (valueAt field doc).keyText)).map
      (firstKeyOf field docs)).map Json.keyText =
        firstAppearances (docs.map fun doc => (valueAt field doc).keyText) := by
    rw [List.map_map]
    refine (List.map_congr_left fun text htext => ?_).trans (List.map_id _)
    obtain ⟨_, _, _, heq⟩ := htexts text htext
    exact heq
  refine ⟨?_, ?_, ?_⟩
  · rw [hback]
    exact nodup_firstAppearances _
  · intro key hkey
    obtain ⟨text, htext, rfl⟩ := List.mem_map.mp hkey
    obtain ⟨doc, hdoc, heq, -⟩ := htexts text htext
    exact ⟨doc, hdoc, heq⟩
  · intro doc hdoc
    rw [hback]
    exact mem_firstAppearances.mpr (List.mem_map_of_mem hdoc)

/-- What is accumulated of documents, each value under the name of its accumulator. -/
def accumulate (accumulators : List (String × Accumulator)) (docs : List Json) :
    Except DateOverflow (List (String × Json)) :=
  accumulators.mapM fun (name, a) => do return (name, ← a.over docs)

/-- One document for each text of the keys. -/
theorem groupDocuments_field (field : String) (accumulators : List (String × Accumulator))
    (docs : List Json) :
    groupDocuments (.field field) accumulators docs =
      (firstAppearances (docs.map fun doc => (valueAt field doc).keyText)).mapM fun text => do
        let fields ← accumulate accumulators
          (docs.filter fun doc => (valueAt field doc).keyText = text)
        return .object (Entries.ofList (("_id", firstKeyOf field docs text) :: fields)) := by
  have hkeyed : (docs.mapM fun doc => do return (← (Expression.field field).eval doc, doc)) =
      (.ok (docs.map fun doc => (valueAt field doc, doc)) : Except DateOverflow _) :=
    mapM_total fun doc _ => by simp only [Expression.eval]; rfl
  rw [groupDocuments, hkeyed]
  change (firstAppearances ((docs.map _).map _)).mapM _ = _
  simp only [List.map_map, groupOf_keyed]
  rfl

/-- Each group has its key under `_id` and the values of its accumulators. -/
theorem groupDocuments_eq_ok {field : String} {accumulators : List (String × Accumulator)}
    {docs out : List Json} (h : groupDocuments (.field field) accumulators docs = .ok out) :
    ∃ keys, KeysOf field docs keys ∧
      List.Forall₂ (fun key doc => ∃ fields,
        accumulate accumulators (docsOf field docs key) = .ok fields ∧
        doc = .object (Entries.ofList (("_id", key) :: fields))) keys out := by
  rw [groupDocuments_field] at h
  have htexts : ∀ text ∈ firstAppearances (docs.map fun doc => (valueAt field doc).keyText),
      (firstKeyOf field docs text).keyText = text := by
    intro text htext
    obtain ⟨_, _, _, heq⟩ := valueAt_firstKeyOf (mem_firstAppearances.mp htext)
    exact heq
  refine ⟨_, keysOf_firstAppearances field docs, List.forall₂_map_left_iff.mpr ?_⟩
  refine ((List.forall₂_and_left _ _).mpr ⟨htexts, mapM_eq_ok.mp h⟩).imp ?_
  rintro text doc ⟨htext, hdoc⟩
  obtain ⟨fields, hfields, hdoc⟩ := bind_eq_ok.mp hdoc
  refine ⟨fields, ?_, (pure_eq_ok.mp hdoc).symm⟩
  rw [docsOf, htext]
  exact hfields

/-- An accumulator has a value if its expression has one in every document. -/
theorem exists_over {a : Accumulator} {docs : List Json}
    (h : ∀ doc ∈ docs, ∃ value, a.expression.eval doc = .ok value) :
    ∃ value, a.over docs = .ok value := by
  obtain ⟨values, hvalues⟩ := exists_mapM_eq_ok h
  exact ⟨_, bind_eq_ok.mpr ⟨values, hvalues, rfl⟩⟩

theorem exists_accumulate {accumulators : List (String × Accumulator)} {docs : List Json}
    (h : ∀ pair ∈ accumulators, ∃ value, pair.2.over docs = .ok value) :
    ∃ fields, accumulate accumulators docs = .ok fields := by
  refine exists_mapM_eq_ok fun pair hpair => ?_
  obtain ⟨value, hvalue⟩ := h pair hpair
  exact ⟨(pair.1, value), bind_eq_ok.mpr ⟨value, hvalue, rfl⟩⟩

/-- There are groups if every accumulator has a value for every choice of documents. -/
theorem exists_groupDocuments {field : String} {accumulators : List (String × Accumulator)}
    {docs : List Json} (h : ∀ pair ∈ accumulators, ∀ members ⊆ docs,
      ∃ value, pair.2.over members = .ok value) :
    ∃ out, groupDocuments (.field field) accumulators docs = .ok out := by
  rw [groupDocuments_field]
  refine exists_mapM_eq_ok fun text _ => ?_
  obtain ⟨fields, hfields⟩ := exists_accumulate fun pair hpair =>
    h pair hpair (docs.filter fun doc => (valueAt field doc).keyText = text)
      (List.filter_subset_self _)
  exact ⟨_, bind_eq_ok.mpr ⟨fields, hfields, rfl⟩⟩

/-! ## The stages of a level -/

/-- The accumulators of a level: a count, unless it is taken separately, and the rows. -/
def levelAccumulators (countSeparately : Bool) (items : Option Expression) :
    List (String × Accumulator) :=
  (if countSeparately then [] else [("count", ⟨.sum, .literal (Pipeline.constant 1)⟩)]) ++
    (items.map fun e => ("items", ⟨.push, e⟩)).toList

/-- The fields of a group document. -/
def levelProjection (countSeparately includeItems : Bool) : List (String × Projection) :=
  [("_id", .drop), ("key", .compute (.field "_id"))] ++
    (if countSeparately then [] else [("count", .keep)]) ++
    (if includeItems then [("items", .keep)] else [])

/-- The stages of a level behind those of its key. -/
def levelStages (desc countSeparately : Bool) (field : String) (items : Option Expression) :
    List Stage :=
  [.group (.field field) (levelAccumulators countSeparately items),
    .project (levelProjection countSeparately items.isSome), .sort [("key", desc)]] ++
    (if items.isSome then [] else [.addFields [("items", .literal .null)]])

theorem startsWithDollar_keyField (level : Nat) :
    startsWithDollar (Pipeline.keyField level) = false :=
  startsWithDollar_of_isReserved (Pipeline.isReserved_keyField level)

theorem ofJson_one : Expression.ofJson (Pipeline.constant 1) =
    .ok (.literal (Pipeline.constant 1)) :=
  Expression.ofJson_number _

theorem ofJson_accumulator (kind : AccumulatorKind) (field : String) {operand : Json}
    {e : Expression} (h : Expression.ofJson operand = .ok e) :
    Accumulator.ofJson field (.single kind.operator operand) = .ok ⟨kind, e⟩ := by
  have hkind : AccumulatorKind.ofOperator? kind.operator = some kind := by
    cases kind <;> decide
  simp only [Json.single, Accumulator.ofJson, h, hkind]
  rfl

theorem ofJson_groupStage {key : Pipeline.GroupKey} {countSeparately : Bool} {pushed : Json}
    {items : Option Expression} (he : ∀ e ∈ items, Expression.ofJson pushed = .ok e) :
    Stage.ofJson (.single "$group" (.object (
      [("_id", Pipeline.reference key.field)] ++
        (if countSeparately then [] else [("count", .single "$sum" (Pipeline.constant 1))]) ++
        (if items.isSome then [("items", .single "$push" pushed)] else [])))) =
      .ok (.group (.field key.field) (levelAccumulators countSeparately items)) := by
  have hkey : Expression.ofJson (Pipeline.reference key.field) = .ok (.field key.field) :=
    Expression.ofJson_reference (startsWithDollar_keyField key.level)
  have hcount := ofJson_accumulator .sum "count" ofJson_one
  have hitems : ∀ e ∈ items, Accumulator.ofJson "items" (.single "$push" pushed) = .ok ⟨.push, e⟩ :=
    fun e hmem => ofJson_accumulator .push "items" (he e hmem)
  simp only [AccumulatorKind.operator] at hcount
  cases items <;> cases countSeparately <;>
    simp_all [Stage.ofJson, Stage.ofEntry, Stage.readGroup, Json.single, Entries.get?,
      levelAccumulators, bind, Except.bind, pure, Except.pure]

theorem ofJson_projectStage (countSeparately includeItems : Bool) :
    Stage.ofJson (.single "$project" (.object (
      [("_id", Pipeline.constant 0), ("key", Pipeline.reference "_id")] ++
        (if countSeparately then [] else [("count", Pipeline.constant 1)]) ++
        (if includeItems then [("items", Pipeline.constant 1)] else [])))) =
      .ok (.project (levelProjection countSeparately includeItems)) := by
  have hid : Projection.ofJson (Pipeline.reference "_id") = .ok (.compute (.field "_id")) := by
    have h : Expression.ofJson (Pipeline.reference "_id") = .ok (.field "_id") :=
      Expression.ofJson_reference rfl
    simp only [Pipeline.reference] at h
    simp only [Pipeline.reference, Projection.ofJson, h]
    rfl
  cases countSeparately <;> cases includeItems <;>
    simp [Stage.ofJson, Stage.ofEntry, Stage.readEntries, Json.single, levelProjection, hid,
      Projection.ofJson_zero, Projection.ofJson_one, bind, Except.bind, pure, Except.pure,
      Except.map]

theorem ofJson_sortByKey (desc : Bool) :
    Stage.ofJson (.single "$sort" (.single "key" (Pipeline.direction desc))) =
      .ok (.sort [("key", desc)]) := by
  simp [Stage.ofJson, Stage.ofEntry, Stage.readEntries, Json.single, descending_direction, bind,
    Except.bind, pure, Except.pure, Except.map]

/-- The stages of a level are read as its key stages and those behind them. -/
theorem reads_levelStages {desc includeItems countSeparately : Bool} {key : Pipeline.GroupKey}
    {projection : Option Json} {keyStages : List Stage} {items : Option Expression}
    (hkey : Reads key.stages keyStages) (hsome : items.isSome = includeItems)
    (hitems : ∀ e ∈ items,
      Expression.ofJson (projection.getD Pipeline.currentDocument) = .ok e) :
    Reads (Pipeline.groupingStages desc includeItems countSeparately key projection)
      (keyStages ++ levelStages desc countSeparately key.field items) := by
  subst hsome
  rw [Pipeline.groupingStages, Pipeline.groupStages, List.append_assoc, List.append_assoc]
  refine hkey.append (.append (b := [.project _, .sort _] ++ _)
    (reads_one (ofJson_groupStage hitems))
    (.append (reads_cons (ofJson_projectStage _ _) (reads_one (ofJson_sortByKey desc))) ?_))
  cases items with
  | none => exact reads_one (ofJson_addField _ (by simp [Expression.ofJson]))
  | some e => exact reads_nil

/-- What the stages of a level are read as. -/
theorem reads_groupingStages {desc includeItems countSeparately : Bool}
    {key : Pipeline.GroupKey} {projection : Option Json} {stages : List Stage}
    (h : Reads (Pipeline.groupingStages desc includeItems countSeparately key projection) stages) :
    ∃ keyStages items, Reads key.stages keyStages ∧ items.isSome = includeItems ∧
      (∀ e ∈ items, Expression.ofJson (projection.getD Pipeline.currentDocument) = .ok e) ∧
      stages = keyStages ++ levelStages desc countSeparately key.field items := by
  have hsplit := h
  rw [Pipeline.groupingStages, Pipeline.groupStages, List.append_assoc, List.append_assoc,
    reads_append] at hsplit
  obtain ⟨keyStages, rest, hkeyStages, hrest, -⟩ := hsplit
  obtain ⟨items, hsome, hitems⟩ : ∃ items : Option Expression, items.isSome = includeItems ∧
      ∀ e ∈ items, Expression.ofJson (projection.getD Pipeline.currentDocument) = .ok e := by
    cases includeItems with
    | false => exact ⟨none, rfl, by simp⟩
    | true =>
      cases hread : Expression.ofJson (projection.getD Pipeline.currentDocument) with
      | ok e => exact ⟨some e, rfl, by simp⟩
      | error e =>
        have hfails : Accumulator.ofJson "items"
            (.single "$push" (projection.getD Pipeline.currentDocument)) = .error e := by
          simp only [Json.single, Accumulator.ofJson, hread]
          rfl
        have hcount := ofJson_accumulator .sum "count" ofJson_one
        obtain ⟨group, -, hgroup, -⟩ := mapM_cons_eq_ok.mp hrest
        simp only [AccumulatorKind.operator, Json.single] at hcount hfails hgroup
        cases countSeparately <;>
          simp [Stage.ofJson, Stage.ofEntry, Stage.readGroup, Entries.get?, hfails, hcount, bind,
            Except.bind, pure, Except.pure] at hgroup
  exact ⟨keyStages, items, hkeyStages, hsome, hitems,
    h.unique (reads_levelStages hkeyStages hsome hitems)⟩

/-! ## The groups of a level -/

/-- The document of a group: its key, the number of its documents unless they are counted
    separately, and the rows that the pushed expression gives of them, in their order. -/
structure IsGroup (field : String) (docs : List Json) (countSeparately : Bool)
    (items : Option Expression) (key doc : Json) : Prop where
  key_eq : doc.get? "key" = some key
  count : doc.get? "count" =
    if countSeparately then none
    else some (.ofUInt64 (documentCount (docsOf field docs key).length))
  rows : ∀ e ∈ items, ∃ rows, ((docsOf field docs key).mapM fun d => e.eval d) = .ok rows ∧
    doc.get? "items" = some (.array rows)

theorem hasNoPoint_id : HasNoPoint "_id" := by
  unfold HasNoPoint
  decide

theorem hasNoPoint_items : HasNoPoint "items" := by
  unfold HasNoPoint
  decide

theorem hasNoPoint_count : HasNoPoint "count" := by
  unfold HasNoPoint
  decide

/-- The projection of a level moves the key and keeps the count and the rows. -/
theorem project_group {countSeparately includeItems : Bool} {doc shown key : Json}
    (h : project (levelProjection countSeparately includeItems) doc = .ok shown)
    (hkey : doc.get? "_id" = some key) :
    shown.get? "key" = some key ∧
      shown.get? "count" = (if countSeparately then none else doc.get? "count") ∧
      (includeItems = true → shown.get? "items" = doc.get? "items") := by
  have hid : doc.resolve? "_id" = some key := by rw [resolve?_of_noPoint hasNoPoint_id, hkey]
  have hitems : doc.resolve? "items" = doc.get? "items" := resolve?_of_noPoint hasNoPoint_items doc
  have hcount : doc.resolve? "count" = doc.get? "count" := resolve?_of_noPoint hasNoPoint_count doc
  cases countSeparately <;> cases includeItems <;> cases hcounted : doc.get? "count" <;>
    cases hrows : doc.get? "items" <;>
    simp_all [project, levelProjection, selects, dropsId, selectedEntries, Expression.eval?, bind,
      Except.bind, pure, Except.pure, Entries.ofList, Entries.insert] <;>
    subst h <;> simp [Json.get?, Json.object?, Entries.get?]

/-- The projection of a level is made of any document. -/
theorem exists_project_level (countSeparately includeItems : Bool) (doc : Json) :
    ∃ shown, project (levelProjection countSeparately includeItems) doc = .ok shown := by
  cases countSeparately <;> cases includeItems <;>
    exact ⟨_, rfl⟩

theorem keys_of_accumulated {accumulators : List (String × Accumulator)} {docs : List Json}
    {fields : List (String × Json)}
    (h : accumulate accumulators docs = .ok fields) :
    Entries.keys fields = accumulators.map Prod.fst := by
  induction accumulators generalizing fields with
  | nil =>
    cases h
    rfl
  | cons accumulator rest ih =>
    obtain ⟨entry, others, hentry, hothers, rfl⟩ := mapM_cons_eq_ok.mp h
    obtain ⟨value, -, hentry⟩ := bind_eq_ok.mp hentry
    rw [← pure_eq_ok.mp hentry, List.map_cons, ← ih hothers]
    rfl

/-- The document of a group has the values of its accumulators under their names. -/
theorem get?_of_accumulated {accumulators : List (String × Accumulator)} {docs : List Json}
    {fields : List (String × Json)}
    (hnodup : ("_id" :: accumulators.map Prod.fst).Nodup)
    (h : accumulate accumulators docs = .ok fields)
    {name : String} {a : Accumulator} (hmem : (name, a) ∈ accumulators) (key : Json) :
    ∃ value, a.over docs = .ok value ∧
      (Json.object (Entries.ofList (("_id", key) :: fields))).get? name = some value := by
  obtain ⟨entry, hentry, hvalue⟩ := exists_of_mem_right (mapM_eq_ok.mp h).flip hmem
  obtain ⟨value, hover, ⟨⟩⟩ := bind_eq_ok.mp hvalue
  refine ⟨value, hover, ?_⟩
  rw [← keys_of_accumulated h] at hnodup
  exact Entries.get?_ofList_of_mem hnodup (List.mem_cons_of_mem _ hentry)

theorem nodup_levelAccumulators (countSeparately : Bool) (items : Option Expression) :
    ("_id" :: (levelAccumulators countSeparately items).map Prod.fst).Nodup := by
  cases countSeparately <;> cases items <;> simp [levelAccumulators]

/-- The rows of a group, as they were accumulated. -/
theorem rows_of_push {e : Expression} {docs : List Json} {value : Json}
    (h : (Accumulator.mk .push e).over docs = .ok value) :
    ∃ rows, (docs.mapM fun d => e.eval d) = .ok rows ∧ value = .array rows := by
  obtain ⟨rows, hrows, hvalue⟩ := bind_eq_ok.mp h
  exact ⟨rows, hrows, (pure_eq_ok.mp hvalue).symm⟩

/-- A sum of ones counts the documents of a group. -/
theorem over_sum_of_ones (docs : List Json) :
    (Accumulator.mk .sum (.literal (Pipeline.constant 1))).over docs =
      .ok (.ofUInt64 (documentCount docs.length)) := by
  have hones : (docs.mapM fun d => (Expression.literal (Pipeline.constant 1)).eval d) =
      .ok (docs.map fun _ => Json.ofInt64 1) :=
    mapM_total fun _ _ => rfl
  rw [Accumulator.over, ← count_of_ones, ← List.map_const']
  simp only [hones]
  rfl

/-- What a grouping stage answers for a key, with its rows. -/
theorem isGroup_of_accumulated {countSeparately : Bool} {items : Option Expression}
    {field : String} {docs : List Json} {key shown : Json} {fields : List (String × Json)}
    (h : accumulate (levelAccumulators countSeparately items) (docsOf field docs key) = .ok fields)
    (hshown : project (levelProjection countSeparately items.isSome)
      (.object (Entries.ofList (("_id", key) :: fields))) = .ok shown) :
    IsGroup field docs countSeparately items key shown := by
  have hnodup := nodup_levelAccumulators countSeparately items
  have hid : "_id" ∉ Entries.keys fields := by
    rw [keys_of_accumulated h]
    exact (List.nodup_cons.mp hnodup).1
  obtain ⟨hkey, hcount, hitems⟩ := project_group hshown (Entries.get?_ofList_cons hid key)
  refine ⟨hkey, ?_, fun e he => ?_⟩
  · rw [hcount]
    cases countSeparately with
    | true => rfl
    | false =>
      obtain ⟨count, hover, hget⟩ := get?_of_accumulated hnodup h List.mem_cons_self key
      rw [over_sum_of_ones] at hover
      rw [if_neg Bool.false_ne_true, if_neg Bool.false_ne_true, hget, Except.ok.inj hover]
  · obtain rfl : items = some e := he
    obtain ⟨value, hover, hget⟩ := get?_of_accumulated hnodup h
      (List.mem_append_right _ List.mem_cons_self) key
    obtain ⟨rows, hrows, rfl⟩ := rows_of_push hover
    exact ⟨rows, hrows, by rw [hitems rfl, hget]⟩

/-- The answer of a level has one document for each key text of the documents. -/
theorem run_levelStages {desc countSeparately : Bool} {field : String} {items : Option Expression}
    {docs out : List Json}
    (h : runStages (levelStages desc countSeparately field items) docs = .ok out) :
    ∃ keys, KeysOf field docs keys ∧
      List.Forall₂ (IsGroup field docs countSeparately items) keys out := by
  obtain ⟨sorted, hsorted, hlast⟩ := runStages_append_eq_ok.mp h
  obtain ⟨shown, hshown, hsort⟩ := (runStages_append_eq_ok (a := [_, _]) (b := [_])).mp hsorted
  obtain ⟨grouped, hgroup, hproject⟩ := (runStages_append_eq_ok (a := [_]) (b := [_])).mp hshown
  rw [runStages_one] at hgroup hproject hsort
  obtain ⟨keys, hkeys, hgrouped⟩ := groupDocuments_eq_ok (mapError_eq_ok.mp hgroup)
  have hgroups : List.Forall₂ (IsGroup field docs countSeparately items) keys shown := by
    refine forall₂_trans ?_ hgrouped (mapM_eq_ok.mp (mapError_eq_ok.mp hproject))
    rintro key doc shown ⟨fields, hfields, rfl⟩ hshown
    exact isGroup_of_accumulated hfields hshown
  have hperm : sorted.Perm shown := by
    rw [← Except.ok.inj hsort]
    exact List.mergeSort_perm _ _
  obtain ⟨keys', hgroups', hperm'⟩ := List.perm_comp_forall₂ hperm hgroups.flip
  refine ⟨keys', hkeys.perm hperm'.symm, ?_⟩
  cases items with
  | some e =>
    cases hlast
    exact hgroups'.flip
  | none =>
    rw [if_neg (by simp), runStages_one] at hlast
    refine forall₂_trans ?_ hgroups'.flip (mapM_eq_ok.mp (mapError_eq_ok.mp hlast))
    intro key doc shown hgroup hshown
    cases hshown
    exact ⟨(Json.get?_setPath_of_ne hasNoPoint_items (by decide)).trans hgroup.key_eq,
      (Json.get?_setPath_of_ne hasNoPoint_items (by decide)).trans hgroup.count, by simp⟩

/-- Groups whose keys are in order before they are sorted stay as they are. -/
theorem run_levelStages_inOrder {desc countSeparately : Bool} {field : String}
    {items : Option Expression} {docs shown : List Json}
    (hshown : runStages [.group (.field field) (levelAccumulators countSeparately items),
      .project (levelProjection countSeparately items.isSome)] docs = .ok shown)
    (hordered : shown.Pairwise fun a b => inOrderBy [("key", desc)] a b = true) :
    runStages (levelStages desc countSeparately field items) docs =
      .ok (if items.isSome then shown else shown.map (·.setPath "items" .null)) := by
  have hsorted : runStages [.sort [("key", desc)]] shown = .ok shown :=
    congrArg Except.ok (List.mergeSort_of_pairwise hordered)
  refine runStages_append_eq_ok.mpr
    ⟨shown, (runStages_append_eq_ok (a := [_, _])).mpr ⟨shown, hshown, hsorted⟩, ?_⟩
  cases items with
  | some e => rfl
  | none => exact (runStages_one _ _).trans (mapError_eq_ok.mpr (mapM_total fun _ _ => rfl))

/-- What a level answers if the keys of its groups are in order before they are sorted. -/
theorem aggregate_inOrder {desc includeItems countSeparately : Bool} {key : Pipeline.GroupKey}
    {projection : Option Json} {keyStages : List Stage} {items : Option Expression}
    {docs shown : List Json} (hkey : Reads key.stages keyStages)
    (hsome : items.isSome = includeItems)
    (hitems : ∀ e ∈ items, Expression.ofJson (projection.getD Pipeline.currentDocument) = .ok e)
    (hshown : runStages (keyStages ++
      [.group (.field key.field) (levelAccumulators countSeparately items),
        .project (levelProjection countSeparately items.isSome)]) docs = .ok shown)
    (hordered : shown.Pairwise fun a b => inOrderBy [("key", desc)] a b = true) :
    (Collection.mk docs).aggregate
        (Pipeline.groupingStages desc includeItems countSeparately key projection) =
      .ok (if items.isSome then shown else shown.map (·.setPath "items" .null)) := by
  obtain ⟨computed, hcomputed, hgrouped⟩ := runStages_append_eq_ok.mp hshown
  rw [aggregate_of_reads (reads_levelStages hkey hsome hitems)]
  exact runStages_append_eq_ok.mpr
    ⟨computed, hcomputed, run_levelStages_inOrder hgrouped hordered⟩

/-- The accumulators of a level have values if the pushed expression has one in every document. -/
theorem exists_over_levelAccumulators {items : Option Expression} {docs : List Json}
    (h : ∀ e ∈ items, ∀ doc ∈ docs, ∃ value, e.eval doc = .ok value) {countSeparately : Bool} :
    ∀ pair ∈ levelAccumulators countSeparately items, ∀ members ⊆ docs,
      ∃ value, pair.2.over members = .ok value := by
  intro pair hpair members hmembers
  rcases List.mem_append.mp hpair with hcount | hitems
  · split_ifs at hcount
    · cases hcount
    · obtain rfl := List.mem_singleton.mp hcount
      exact ⟨_, over_sum_of_ones members⟩
  · rw [Option.mem_toList, Option.map_eq_some_iff] at hitems
    obtain ⟨e, he, rfl⟩ := hitems
    exact exists_over fun doc hdoc => h e he doc (hmembers hdoc)

/-- The stages of a level have an answer if the pushed expression has a value in every document. -/
theorem exists_run_levelStages {items : Option Expression} {docs : List Json}
    (h : ∀ e ∈ items, ∀ doc ∈ docs, ∃ value, e.eval doc = .ok value) (desc countSeparately : Bool)
    (field : String) :
    ∃ out, runStages (levelStages desc countSeparately field items) docs = .ok out := by
  obtain ⟨grouped, hgrouped⟩ : ∃ grouped, groupDocuments (.field field)
      (levelAccumulators countSeparately items) docs = .ok grouped :=
    exists_groupDocuments (exists_over_levelAccumulators h)
  obtain ⟨shown, hshown⟩ := exists_mapM_eq_ok fun doc (_ : doc ∈ grouped) =>
    exists_project_level countSeparately items.isSome doc
  obtain ⟨out, hout⟩ : ∃ out, runStages (if items.isSome then []
      else [.addFields [("items", .literal .null)]]) (shown.mergeSort (inOrderBy [("key", desc)])) =
        .ok out := by
    split_ifs
    · exact ⟨_, rfl⟩
    · obtain ⟨out, hout⟩ := exists_mapM_eq_ok
        (f := computeFields [("items", .literal .null)])
        fun doc (_ : doc ∈ shown.mergeSort (inOrderBy [("key", desc)])) => ⟨_, rfl⟩
      exact ⟨out, by rw [runStages_one]; exact mapError_eq_ok.mpr hout⟩
  refine ⟨out, runStages_append_eq_ok.mpr ⟨_, ?_, hout⟩⟩
  refine (runStages_append_eq_ok (a := [_, _]) (b := [_])).mpr ⟨shown, ?_, runStages_one _ _⟩
  refine (runStages_append_eq_ok (a := [_]) (b := [_])).mpr ⟨grouped, ?_, ?_⟩
  · rw [runStages_one]
    exact mapError_eq_ok.mpr hgrouped
  · rw [runStages_one]
    exact mapError_eq_ok.mpr hshown

/-- The whole grouping block: its keys are computed first, and then there is one group for each of
    their texts. -/
theorem run_groupingStages {desc includeItems countSeparately : Bool} {key : Pipeline.GroupKey}
    {projection : Option Json} {stages : List Stage} {docs out : List Json}
    (hreads : Reads (Pipeline.groupingStages desc includeItems countSeparately key projection)
      stages)
    (hrun : runStages stages docs = .ok out) :
    ∃ keyStages items computed keys, Reads key.stages keyStages ∧ items.isSome = includeItems ∧
      (∀ e ∈ items, Expression.ofJson (projection.getD Pipeline.currentDocument) = .ok e) ∧
      runStages keyStages docs = .ok computed ∧ KeysOf key.field computed keys ∧
      List.Forall₂ (IsGroup key.field computed countSeparately items) keys out := by
  obtain ⟨keyStages, items, hkey, hsome, hitems, rfl⟩ := reads_groupingStages hreads
  obtain ⟨computed, hcomputed, hlevel⟩ := runStages_append_eq_ok.mp hrun
  obtain ⟨keys, hkeys, hgroups⟩ := run_levelStages hlevel
  exact ⟨keyStages, items, computed, keys, hkey, hsome, hitems, hcomputed, hkeys, hgroups⟩

end GridQuery
