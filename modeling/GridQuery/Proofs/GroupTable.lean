import Mathlib
import GridQuery.Proofs.Gathering

/-!
# Grouping in one pass

Documents can be grouped in one pass over them. A table has, for each key text that has appeared, the
key of the first document with it and what the accumulators have gathered, and beside the table the
texts are listed in the order in which they appeared. After any number of documents, the table says
what grouping these documents would say.

Results:
* `GroupTable.Describes.add`: what one more document does to the table.
* `GroupTable.Describes.addAll`: the table after many documents.
* `exists_groupDocuments_iff`: grouping gives documents exactly if every key and every accumulated
  value can be computed.
* `groupInOnePass_eq`: one pass gives the documents that grouping gives.
-/

namespace GridQuery

open Std (HashMap)

/-! ## The table -/

/-- The groups while documents are gone through. -/
structure GroupTable where
  /-- The key texts in the order in which they first appeared. -/
  order : List String := []
  /-- Under each text, the key of its first document and what each accumulator has gathered. -/
  groups : HashMap String (Json × List Gathered) := ∅

namespace GroupTable

/-- The group that a key falls into, which starts with the key if its text has not appeared. -/
def groupFor (accumulators : List (String × Accumulator)) (table : GroupTable) (key : Json) :
    Json × List Gathered :=
  (table.groups[key.keyText]?).getD (key, accumulators.map fun (_, a) => .start a.kind)

/-- The texts that have appeared once this one has. -/
def orderWith (table : GroupTable) (text : String) : List String :=
  if table.groups.contains text then table.order else table.order ++ [text]

/-- Takes in one more document. -/
def add (key : Expression) (accumulators : List (String × Accumulator)) (table : GroupTable)
    (doc : Json) : Except DateOverflow GroupTable := do
  let value ← key.eval doc
  let (first, gathered) := table.groupFor accumulators value
  let gathered ← (accumulators.zip gathered).mapM fun ((_, a), g) => a.take g doc
  return {
    order := table.orderWith value.keyText
    groups := table.groups.insert value.keyText (first, gathered) }

/-- The document of a group. -/
def document (accumulators : List (String × Accumulator)) (group : Json × List Gathered) : Json :=
  .object (Entries.ofList (("_id", group.1) ::
    (accumulators.zip group.2).map fun ((name, _), g) => (name, g.finish)))

/-- The documents of texts in turn, each group being taken out of the table. -/
def collect (accumulators : List (String × Accumulator)) :
    List String → HashMap String (Json × List Gathered) → List Json
  | [], _ => []
  | text :: rest, groups =>
    match groups[text]? with
    | some group => document accumulators group :: collect accumulators rest (groups.erase text)
    | none => collect accumulators rest groups

end GroupTable

/-- Groups documents in one pass over them. -/
def groupInOnePass (key : Expression) (accumulators : List (String × Accumulator))
    (docs : List Json) : Except DateOverflow (List Json) := do
  let table ← docs.foldlM (GroupTable.add key accumulators) {}
  return GroupTable.collect accumulators table.order table.groups

/-! ## One more document -/

theorem firstAppearances_append_one (l : List String) (x : String) :
    firstAppearances (l ++ [x]) =
      if x ∈ l then firstAppearances l else firstAppearances l ++ [x] := by
  induction l with
  | nil => rfl
  | cons y l ih =>
    rw [List.cons_append, firstAppearances, ih, firstAppearances]
    by_cases hl : x ∈ l
    · rw [if_pos hl, if_pos (List.mem_cons_of_mem _ hl)]
    · by_cases hy : x = y
      · rw [if_neg hl, if_pos (hy ▸ List.mem_cons_self), List.filter_append]
        simp [hy]
      · rw [if_neg hl, if_neg (by simp [hl, hy]), List.filter_append]
        simp [hy]

/-- A text that has not appeared has no documents. -/
theorem filter_keyText_eq_nil {keyed : List (Json × Json)} {text : String}
    (h : text ∉ keyed.map (·.1.keyText)) : keyed.filter (·.1.keyText = text) = [] := by
  refine List.filter_eq_nil_iff.mpr fun pair hpair htext => h ?_
  exact List.mem_map.mpr ⟨pair, hpair, of_decide_eq_true htext⟩

theorem groupOf_append_one (keyed : List (Json × Json)) (key doc : Json) :
    groupOf (keyed ++ [(key, doc)]) key.keyText =
      (if key.keyText ∈ keyed.map (·.1.keyText) then (groupOf keyed key.keyText).1 else key,
        (groupOf keyed key.keyText).2 ++ [doc]) := by
  simp only [groupOf, List.filter_append]
  split_ifs with h
  · obtain ⟨pair, hpair, htext⟩ := List.mem_map.mp h
    obtain ⟨first, rest, hfilter⟩ := List.exists_cons_of_ne_nil (List.ne_nil_of_mem
      (List.mem_filter.mpr ⟨hpair, decide_eq_true htext⟩ :
        pair ∈ keyed.filter (·.1.keyText = key.keyText)))
    rw [hfilter]
    simp
  · rw [filter_keyText_eq_nil h]
    simp

theorem groupOf_append_of_ne (keyed : List (Json × Json)) {key : Json} {text : String}
    (h : key.keyText ≠ text) (doc : Json) :
    groupOf (keyed ++ [(key, doc)]) text = groupOf keyed text := by
  simp only [groupOf, List.filter_append]
  simp [h]

namespace GroupTable

variable {key : Expression} {accumulators : List (String × Accumulator)}

/-- The accumulators have gathered this from the documents. -/
def HaveGathered (accumulators : List (String × Accumulator)) (docs : List Json)
    (gathered : List Gathered) : Prop :=
  List.Forall₂ (fun pair g => pair.2.gather docs = .ok g) accumulators gathered

theorem haveGathered_nil (accumulators : List (String × Accumulator)) :
    HaveGathered accumulators [] (accumulators.map fun (_, a) => .start a.kind) :=
  List.forall₂_map_right_iff.mpr (List.forall₂_same.mpr fun _ _ => rfl)

theorem HaveGathered.append_one {docs : List Json} {doc : Json} {gathered gathered' : List Gathered}
    (h : HaveGathered accumulators docs gathered)
    (htake : (accumulators.zip gathered).mapM (fun ((_, a), g) => a.take g doc) = .ok gathered') :
    HaveGathered accumulators (docs ++ [doc]) gathered' := by
  unfold HaveGathered at *
  induction h generalizing gathered' with
  | nil =>
    cases htake
    exact .nil
  | cons hg _ ih =>
    obtain ⟨g', rest, hg', hrest, rfl⟩ := mapM_cons_eq_ok.mp htake
    refine .cons ?_ (ih hrest)
    rw [Accumulator.gather_append, hg]
    exact hg'

/-- What the table says of documents with their keys. -/
structure Describes (accumulators : List (String × Accumulator)) (keyed : List (Json × Json))
    (table : GroupTable) : Prop where
  order_eq : table.order = firstAppearances (keyed.map (·.1.keyText))
  contains_iff : ∀ text, table.groups.contains text = true ↔ text ∈ keyed.map (·.1.keyText)
  group : ∀ text first gathered, table.groups[text]? = some (first, gathered) →
    first = (groupOf keyed text).1 ∧ HaveGathered accumulators (groupOf keyed text).2 gathered

theorem describes_empty : Describes accumulators [] {} where
  order_eq := rfl
  contains_iff := by simp
  group := by simp

theorem groupOf_of_not_mem {keyed : List (Json × Json)} {text : String}
    (h : text ∉ keyed.map (·.1.keyText)) : groupOf keyed text = (.null, []) := by
  simp [groupOf, filter_keyText_eq_nil h]

namespace Describes

variable {keyed : List (Json × Json)} {table table' : GroupTable}

/-- The group that a key falls into starts with the key or with the first one of its text. -/
theorem groupFor (h : Describes accumulators keyed table) (value : Json) :
    (table.groupFor accumulators value).1 =
        (if value.keyText ∈ keyed.map (·.1.keyText) then (groupOf keyed value.keyText).1
          else value) ∧
      HaveGathered accumulators (groupOf keyed value.keyText).2
        (table.groupFor accumulators value).2 := by
  rw [GroupTable.groupFor]
  cases hget : table.groups[value.keyText]? with
  | some group =>
    have hmem : value.keyText ∈ keyed.map (·.1.keyText) := by
      rw [← h.contains_iff, HashMap.contains_eq_isSome_getElem?, hget]
      rfl
    rw [if_pos hmem]
    exact h.group _ _ _ hget
  | none =>
    have hmem : value.keyText ∉ keyed.map (·.1.keyText) := by
      rw [← h.contains_iff, HashMap.contains_eq_isSome_getElem?, hget]
      exact Bool.false_ne_true
    rw [if_neg hmem, groupOf_of_not_mem hmem]
    exact ⟨rfl, haveGathered_nil accumulators⟩

/-- One more document goes to the group of its key, and the other groups stay. -/
theorem add (h : Describes accumulators keyed table) {doc : Json}
    (hadd : table.add key accumulators doc = .ok table') :
    ∃ value, key.eval doc = .ok value ∧
      Describes accumulators (keyed ++ [(value, doc)]) table' := by
  obtain ⟨value, hvalue, hadd⟩ := bind_eq_ok.mp hadd
  obtain ⟨gathered, hgathered, hadd⟩ := bind_eq_ok.mp hadd
  obtain rfl := pure_eq_ok.mp hadd
  obtain ⟨hfirst, hbefore⟩ := h.groupFor value
  refine ⟨value, hvalue, ?_, ?_, ?_⟩
  · rw [List.map_append, List.map_singleton, firstAppearances_append_one, ← h.order_eq]
    simp only [orderWith, h.contains_iff]
  · intro text
    rw [HashMap.contains_insert, Bool.or_eq_true, h.contains_iff, beq_iff_eq, List.map_append,
      List.mem_append, List.map_singleton, List.mem_singleton, or_comm, eq_comm (b := text)]
  · intro text first others hget
    rw [HashMap.getElem?_insert] at hget
    split_ifs at hget with htext
    · obtain rfl := beq_iff_eq.mp htext
      obtain ⟨rfl, rfl⟩ := Prod.mk.inj (Option.some.inj hget)
      rw [groupOf_append_one]
      exact ⟨hfirst, hbefore.append_one hgathered⟩
    · rw [groupOf_append_of_ne keyed (by simpa using htext)]
      exact h.group text first others hget

/-- After many documents the table describes them all. -/
theorem addAll (h : Describes accumulators keyed table) {docs : List Json}
    (hadd : docs.foldlM (GroupTable.add key accumulators) table = .ok table') :
    ∃ keys, docs.mapM (fun doc => key.eval doc) = .ok keys ∧
      Describes accumulators (keyed ++ keys.zip docs) table' := by
  induction docs generalizing keyed table with
  | nil =>
    cases hadd
    exact ⟨[], rfl, by rwa [List.zip_nil_left, List.append_nil]⟩
  | cons doc docs ih =>
    obtain ⟨next, hnext, hadd⟩ := bind_eq_ok.mp (List.foldlM_cons.symm.trans hadd)
    obtain ⟨value, hvalue, hdescribes⟩ := h.add hnext
    obtain ⟨keys, hkeys, hall⟩ := ih hdescribes hadd
    refine ⟨value :: keys, mapM_cons_eq_ok.mpr ⟨value, keys, hvalue, hkeys, rfl⟩, ?_⟩
    rwa [List.append_assoc, List.singleton_append, ← List.zip_cons_cons] at hall

end Describes

/-! ## The documents of the groups -/

/-- Accumulators give what they have gathered. -/
theorem HaveGathered.accumulate {docs : List Json} {gathered : List Gathered}
    (h : HaveGathered accumulators docs gathered) :
    accumulate accumulators docs =
      .ok ((accumulators.zip gathered).map fun ((name, _), g) => (name, g.finish)) := by
  induction h with
  | nil => rfl
  | @cons pair g rest others hg _ ih =>
    have hvalue : pair.2.over docs = .ok g.finish := by
      rw [Accumulator.over_eq_gather, hg]
      rfl
    exact mapM_cons_eq_ok.mpr
      ⟨(pair.1, g.finish), _, bind_eq_ok.mpr ⟨_, hvalue, rfl⟩, ih, rfl⟩

/-- Each text is in the table once, so that taking groups out does not matter. -/
theorem forall₂_collect {R : String → Json → Prop} {texts : List String}
    {groups : HashMap String (Json × List Gathered)} (hnodup : texts.Nodup)
    (h : ∀ text ∈ texts, ∃ group, groups[text]? = some group ∧
      R text (document accumulators group)) :
    List.Forall₂ R texts (collect accumulators texts groups) := by
  induction texts generalizing groups with
  | nil => exact .nil
  | cons text texts ih =>
    rw [List.nodup_cons] at hnodup
    obtain ⟨group, hgroup, hR⟩ := h text List.mem_cons_self
    rw [collect, hgroup]
    refine .cons hR (ih hnodup.2 fun other hother => ?_)
    obtain ⟨group', hgroup', hR'⟩ := h other (List.mem_cons_of_mem _ hother)
    have hne : text ≠ other := fun heq => hnodup.1 (heq ▸ hother)
    exact ⟨group', by rw [HashMap.getElem?_erase]; simpa [hne] using hgroup', hR'⟩

end GroupTable

/-! ## All documents -/

/-- The document of the group of a text. -/
def groupDocument (accumulators : List (String × Accumulator)) (keyed : List (Json × Json))
    (text : String) : Except DateOverflow Json := do
  let fields ← accumulate accumulators (groupOf keyed text).2
  return .object (Entries.ofList (("_id", (groupOf keyed text).1) :: fields))

theorem mapM_withKey {key : Expression} {docs : List Json} {keyed : List (Json × Json)} :
    docs.mapM (fun doc => do return (← key.eval doc, doc)) = .ok keyed ↔
      ∃ keys, docs.mapM (fun doc => key.eval doc) = .ok keys ∧ keyed = keys.zip docs := by
  induction docs generalizing keyed with
  | nil => simp [pure, Except.pure, eq_comm]
  | cons doc docs ih =>
    simp only [mapM_cons_eq_ok, ih]
    constructor
    · rintro ⟨pair, rest, hpair, ⟨keys, hkeys, rfl⟩, rfl⟩
      obtain ⟨value, hvalue, rfl⟩ := map_eq_ok.mp hpair
      exact ⟨value :: keys, ⟨value, keys, hvalue, hkeys, rfl⟩, rfl⟩
    · rintro ⟨_, ⟨value, keys, hvalue, hkeys, rfl⟩, rfl⟩
      exact ⟨(value, doc), keys.zip docs, map_eq_ok.mpr ⟨value, hvalue, rfl⟩, ⟨keys, hkeys, rfl⟩,
        rfl⟩

theorem keyTexts_zip {keys docs : List Json} (h : keys.length = docs.length) :
    (keys.zip docs).map (·.1.keyText) = keys.map Json.keyText := by
  have hfirst := congrArg (List.map Json.keyText) (List.map_fst_zip h.le)
  rw [List.map_map] at hfirst
  exact hfirst

/-- Grouping computes all keys first and then the document of each text. -/
theorem groupDocuments_iff {key : Expression} {accumulators : List (String × Accumulator)}
    {docs out : List Json} :
    groupDocuments key accumulators docs = .ok out ↔
      ∃ keys, docs.mapM (fun doc => key.eval doc) = .ok keys ∧
        (firstAppearances (keys.map Json.keyText)).mapM
          (groupDocument accumulators (keys.zip docs)) = .ok out := by
  rw [groupDocuments, bind_eq_ok]
  constructor
  · rintro ⟨keyed, hkeyed, hout⟩
    obtain ⟨keys, hkeys, rfl⟩ := mapM_withKey.mp hkeyed
    rw [keyTexts_zip (mapM_eq_ok.mp hkeys).length_eq.symm] at hout
    exact ⟨keys, hkeys, hout⟩
  · rintro ⟨keys, hkeys, hout⟩
    refine ⟨keys.zip docs, mapM_withKey.mpr ⟨keys, hkeys, rfl⟩, ?_⟩
    rw [keyTexts_zip (mapM_eq_ok.mp hkeys).length_eq.symm]
    exact hout

/-- The key of a document and its accumulated values can be computed. -/
def Evaluates (key : Expression) (accumulators : List (String × Accumulator)) (doc : Json) : Prop :=
  (∃ value, key.eval doc = .ok value) ∧
    ∀ pair ∈ accumulators, ∃ value, pair.2.expression.eval doc = .ok value

section Evaluating

variable {key : Expression} {accumulators : List (String × Accumulator)} {docs : List Json}

/-- A document is among those of its text. -/
theorem mem_groupOf {keyed : List (Json × Json)} {pair : Json × Json} (h : pair ∈ keyed) :
    pair.2 ∈ (groupOf keyed pair.1.keyText).2 :=
  List.mem_map_of_mem (List.mem_filter.mpr ⟨h, decide_eq_true rfl⟩)

theorem subset_of_groupOf {keys : List Json} {text : String} :
    (groupOf (keys.zip docs) text).2 ⊆ docs := by
  intro doc hdoc
  obtain ⟨⟨value, _⟩, hpair, rfl⟩ := List.mem_map.mp hdoc
  exact (List.of_mem_zip (List.mem_filter.mp hpair).1).2

theorem exists_keyed {keys : List Json} (h : docs.mapM (fun doc => key.eval doc) = .ok keys)
    {doc : Json} (hdoc : doc ∈ docs) :
    ∃ value, key.eval doc = .ok value ∧ (value, doc) ∈ keys.zip docs := by
  have hforall := mapM_eq_ok.mp h
  clear h
  induction hforall with
  | nil => cases hdoc
  | @cons first value docs keys hvalue _ ih =>
    rcases List.mem_cons.mp hdoc with rfl | hdoc
    · exact ⟨value, hvalue, List.mem_cons_self⟩
    · obtain ⟨other, hother, hmem⟩ := ih hdoc
      exact ⟨other, hother, List.mem_cons_of_mem _ hmem⟩

/-- Grouping gives documents exactly if every key and every accumulated value can be computed. -/
theorem exists_groupDocuments_iff :
    (∃ out, groupDocuments key accumulators docs = .ok out) ↔
      ∀ doc ∈ docs, Evaluates key accumulators doc := by
  constructor
  · rintro ⟨out, hout⟩ doc hdoc
    obtain ⟨keys, hkeys, hgroups⟩ := groupDocuments_iff.mp hout
    obtain ⟨value, hvalue, hkeyed⟩ := exists_keyed hkeys hdoc
    have htext : value.keyText ∈ firstAppearances (keys.map Json.keyText) :=
      mem_firstAppearances.mpr (List.mem_map_of_mem (List.of_mem_zip hkeyed).1)
    obtain ⟨_, -, hgroup⟩ := exists_of_mem_right (mapM_eq_ok.mp hgroups).flip htext
    obtain ⟨fields, hfields, -⟩ := bind_eq_ok.mp hgroup
    refine ⟨⟨value, hvalue⟩, fun pair hpair => ?_⟩
    obtain ⟨_, -, hfield⟩ := exists_of_mem_right (mapM_eq_ok.mp hfields).flip hpair
    obtain ⟨_, hover, -⟩ := bind_eq_ok.mp hfield
    obtain ⟨values, hvalues, -⟩ := bind_eq_ok.mp hover
    obtain ⟨accumulated, -, hvalue⟩ :=
      exists_of_mem_right (mapM_eq_ok.mp hvalues).flip (mem_groupOf hkeyed)
    exact ⟨accumulated, hvalue⟩
  · intro h
    obtain ⟨keys, hkeys⟩ := exists_mapM_eq_ok fun doc hdoc => (h doc hdoc).1
    obtain ⟨out, hout⟩ := exists_mapM_eq_ok
      (f := groupDocument accumulators (keys.zip docs)) fun text
        (_ : text ∈ firstAppearances (keys.map Json.keyText)) => by
      obtain ⟨fields, hfields⟩ := exists_accumulate fun pair hpair => exists_over
        fun doc hdoc => (h doc (subset_of_groupOf hdoc)).2 pair hpair
      exact ⟨_, bind_eq_ok.mpr ⟨fields, hfields, rfl⟩⟩
    exact ⟨out, groupDocuments_iff.mpr ⟨keys, hkeys, hout⟩⟩

theorem GroupTable.exists_add {doc : Json} (h : Evaluates key accumulators doc)
    (table : GroupTable) : ∃ table', table.add key accumulators doc = .ok table' := by
  obtain ⟨⟨value, hvalue⟩, haccumulated⟩ := h
  obtain ⟨gathered, hgathered⟩ := exists_mapM_eq_ok
    (f := fun pair : (String × Accumulator) × Gathered => pair.1.2.take pair.2 doc)
    fun pair (hpair : pair ∈ accumulators.zip (table.groupFor accumulators value).2) => by
      obtain ⟨accumulated, h⟩ := haccumulated pair.1 (List.of_mem_zip hpair).1
      exact ⟨pair.2.add accumulated, bind_eq_ok.mpr ⟨accumulated, h, rfl⟩⟩
  exact ⟨_, bind_eq_ok.mpr ⟨value, hvalue, bind_eq_ok.mpr ⟨gathered, hgathered, rfl⟩⟩⟩

/-- The pass comes to its end if every key and every accumulated value can be computed. -/
theorem GroupTable.exists_addAll (h : ∀ doc ∈ docs, Evaluates key accumulators doc)
    (table : GroupTable) :
    ∃ table', docs.foldlM (GroupTable.add key accumulators) table = .ok table' := by
  induction docs generalizing table with
  | nil => exact ⟨table, rfl⟩
  | cons doc docs ih =>
    obtain ⟨next, hnext⟩ := exists_add (h doc List.mem_cons_self) table
    obtain ⟨table', htable'⟩ := ih (fun d hd => h d (List.mem_cons_of_mem _ hd)) next
    exact ⟨table', List.foldlM_cons.trans (bind_eq_ok.mpr ⟨next, hnext, htable'⟩)⟩

/-- What one pass collects are the documents of the texts. -/
theorem groupDocuments_of_onePass {out : List Json}
    (h : groupInOnePass key accumulators docs = .ok out) :
    groupDocuments key accumulators docs = .ok out := by
  obtain ⟨table, htable, hout⟩ := bind_eq_ok.mp h
  obtain rfl := pure_eq_ok.mp hout
  obtain ⟨keys, hkeys, hdescribes⟩ := GroupTable.describes_empty.addAll htable
  rw [List.nil_append] at hdescribes
  have horder : table.order = firstAppearances (keys.map Json.keyText) := by
    rw [hdescribes.order_eq, keyTexts_zip (mapM_eq_ok.mp hkeys).length_eq.symm]
  refine groupDocuments_iff.mpr ⟨keys, hkeys, mapM_eq_ok.mpr ?_⟩
  rw [← horder]
  refine GroupTable.forall₂_collect (horder ▸ nodup_firstAppearances _) fun text htext => ?_
  rw [hdescribes.order_eq, mem_firstAppearances, ← hdescribes.contains_iff,
    HashMap.contains_eq_isSome_getElem?, Option.isSome_iff_exists] at htext
  obtain ⟨group, hgroup⟩ := htext
  obtain ⟨hfirst, hgathered⟩ := hdescribes.group text group.1 group.2 hgroup
  refine ⟨group, hgroup, bind_eq_ok.mpr ⟨_, hgathered.accumulate, ?_⟩⟩
  rw [GroupTable.document, hfirst]
  rfl

/-- One pass over documents gives what grouping them gives. -/
theorem groupInOnePass_eq (key : Expression) (accumulators : List (String × Accumulator))
    (docs : List Json) :
    groupInOnePass key accumulators docs = groupDocuments key accumulators docs := by
  cases hpass : groupInOnePass key accumulators docs with
  | ok out => exact (groupDocuments_of_onePass hpass).symm
  | error overflow =>
    cases hgroups : groupDocuments key accumulators docs with
    | ok out =>
      -- Where grouping gives documents, the pass comes to its end.
      obtain ⟨table, htable⟩ :=
        GroupTable.exists_addAll (exists_groupDocuments_iff.mp ⟨out, hgroups⟩) {}
      rw [groupInOnePass, htable] at hpass
      cases hpass
    | error overflow' => rfl

end Evaluating

end GridQuery
