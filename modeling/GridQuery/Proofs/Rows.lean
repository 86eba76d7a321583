import Mathlib
import GridQuery.Proofs.Groups

/-!
# Rows

A row is a document, or the fields of it that are selected. A flat request selects them by a stage,
and a grouped one by the expression that is pushed for each document of a group; both give the same
row.

Results:
* `run_selectStages`: the rows of a flat request.
* `exists_pushed`, `eval_pushed`: the rows of a group.
* `stripKeys_rowOf`: the row of a document is the same when the fields of group keys stand in it.
-/

namespace GridQuery

open Collection (runStages runStages_one)
open Pipeline (reference selectProjection selectStages stripKeys)

/-! ## Keys in the order in which they first appear -/

theorem firstAppearances_of_nodup {l : List String} (h : l.Nodup) : firstAppearances l = l := by
  induction l with
  | nil => rfl
  | cons x rest ih =>
    rw [List.nodup_cons] at h
    rw [firstAppearances, ih h.2, List.filter_eq_self.mpr]
    intro y hy
    rw [decide_eq_true_eq]
    rintro rfl
    exact h.1 hy

theorem firstAppearances_cons_self (x : String) (l : List String) :
    firstAppearances (x :: firstAppearances l) = firstAppearances (x :: l) := by
  rw [firstAppearances, firstAppearances, firstAppearances_of_nodup (nodup_firstAppearances l)]

namespace Entries

theorem insert_eq_self {key : String} {value : Json} {entries : Entries} (hkey : key ∈ keys entries)
    (hvalue : ∀ entry ∈ entries, entry.1 = key → entry.2 = value) :
    insert key value entries = entries := by
  induction entries with
  | nil => cases hkey
  | cons entry rest ih =>
    rw [insert]
    split_ifs with hentry
    · rw [← hvalue entry List.mem_cons_self hentry, ← hentry]
    · rw [keys, List.map_cons, List.mem_cons] at hkey
      rw [ih (hkey.resolve_left (Ne.symm hentry)) fun e he =>
        hvalue e (List.mem_cons_of_mem _ he)]

/-- The entry of a name that has a value. -/
def entryOf (value : String → Option Json) (name : String) : Option (String × Json) :=
  (value name).map fun v => (name, v)

theorem entryOf_eq_some {value : String → Option Json} {name : String} {entry : String × Json} :
    entryOf value name = some entry ↔ value name = some entry.2 ∧ name = entry.1 := by
  simp only [entryOf, Option.map_eq_some_iff]
  constructor
  · rintro ⟨v, hv, rfl⟩
    exact ⟨hv, rfl⟩
  · rintro ⟨hv, rfl⟩
    exact ⟨_, hv, rfl⟩

/-- The entries of the names that are not seen yet, in the order in which they first appear. -/
def newEntries (value : String → Option Json) (seen names : List String) : Entries :=
  ((firstAppearances names).filter (· ∉ seen)).filterMap (entryOf value)

section NewEntries

variable {value : String → Option Json} {seen : List String} {name : String}

theorem newEntries_nil_left (names : List String) :
    newEntries value [] names = (firstAppearances names).filterMap (entryOf value) := by
  simp [newEntries]

/-- A name without a value adds nothing, whether it is seen or not. -/
theorem newEntries_cons_of_none (hvalue : entryOf value name = none) (names : List String) :
    newEntries value seen (name :: names) = newEntries value seen names := by
  have hdrop : ((name :: (firstAppearances names).filter (· ≠ name)).filter
        (· ∉ seen)).filterMap (entryOf value) =
      (((firstAppearances names).filter (· ≠ name)).filter (· ∉ seen)).filterMap
        (entryOf value) := by
    rw [List.filter_cons]
    split_ifs
    · rw [List.filterMap_cons_none hvalue]
    · rfl
  rw [newEntries, newEntries, firstAppearances, hdrop, List.filter_filter, List.filterMap_filter,
    List.filterMap_filter]
  refine List.filterMap_congr fun other _ => ?_
  by_cases hother : other = name
  · subst hother
    simp [hvalue]
  · simp [hother]

theorem newEntries_cons_of_mem (hmem : name ∈ seen) (names : List String) :
    newEntries value seen (name :: names) = newEntries value seen names := by
  rw [newEntries, newEntries, firstAppearances, List.filter_cons_of_neg (by simpa using hmem),
    List.filter_filter]
  congr 1
  refine List.filter_congr fun other _ => ?_
  by_cases hother : other = name
  · subst hother
    simp [hmem]
  · simp [hother]

theorem newEntries_cons_of_not_mem (hmem : name ∉ seen) {entry : String × Json}
    (hvalue : entryOf value name = some entry) (names : List String) :
    newEntries value seen (name :: names) = entry :: newEntries value (seen ++ [name]) names := by
  rw [newEntries, newEntries, firstAppearances, List.filter_cons_of_pos (by simpa using hmem),
    List.filterMap_cons_some hvalue, List.filter_filter]
  congr 2
  refine List.filter_congr fun other _ => ?_
  rw [Bool.eq_iff_iff]
  simp only [List.mem_append, List.mem_singleton, not_or, Bool.decide_and, Bool.and_eq_true,
    decide_eq_true_eq, ne_eq]

end NewEntries

/-- Inserting entries whose values go by their names adds the names that are not there yet. -/
theorem foldl_insert_entryOf (value : String → Option Json) (names : List String)
    {entries : Entries} (h : ∀ entry ∈ entries, value entry.1 = some entry.2) :
    (names.filterMap (entryOf value)).foldl (fun entries pair => insert pair.1 pair.2 entries)
        entries = entries ++ newEntries value (keys entries) names := by
  induction names generalizing entries with
  | nil => simp [newEntries, firstAppearances]
  | cons name names ih =>
    cases hvalue : value name with
    | none =>
      have hnone : entryOf value name = none := by rw [entryOf, hvalue]; rfl
      rw [List.filterMap_cons_none hnone, ih h, newEntries_cons_of_none hnone]
    | some v =>
      have hsome : entryOf value name = some (name, v) := by rw [entryOf, hvalue]; rfl
      rw [List.filterMap_cons_some hsome, List.foldl_cons]
      by_cases hmem : name ∈ keys entries
      · -- The entry that is there has the value of its name already.
        have hself : insert name v entries = entries := insert_eq_self hmem fun entry he hname => by
          have := h entry he
          rw [hname, hvalue] at this
          exact (Option.some.inj this).symm
        rw [hself, ih h, newEntries_cons_of_mem hmem]
      · have hkeys : keys (entries ++ [(name, v)]) = keys entries ++ [name] := by simp [keys]
        have hvalues : ∀ entry ∈ entries ++ [(name, v)], value entry.1 = some entry.2 := by
          intro entry hentry
          rcases List.mem_append.mp hentry with hentry | hentry
          · exact h entry hentry
          · rw [List.mem_singleton.mp hentry, hvalue]
        rw [insert_of_not_mem hmem, ih hvalues, hkeys, newEntries_cons_of_not_mem hmem hsome,
          List.append_assoc, List.singleton_append]

/-- Entries whose values go by their names stand in the order in which the names first appear. -/
theorem ofList_entryOf (value : String → Option Json) (names : List String) :
    ofList (names.filterMap (entryOf value)) =
      (firstAppearances names).filterMap (entryOf value) := by
  rw [ofList, foldl_insert_entryOf value names (by simp), List.nil_append]
  exact newEntries_nil_left names

end Entries

/-! ## Selected fields -/

/-- The selected fields of a document, with `_id` in front. -/
def selectedRow (names : List String) (doc : Json) : Json :=
  .object ((firstAppearances ("_id" :: names)).filterMap (Entries.entryOf doc.resolve?))

/-- The row of a document: the document itself if no fields are selected. -/
def rowOf (select : List String) (doc : Json) : Json :=
  if select.isEmpty then doc else selectedRow select doc

/-- The entries that give each name its own value. -/
def references (names : List String) : Entries := names.map fun name => (name, reference name)

theorem ofList_references (names : List String) :
    Entries.ofList (references names) = references (firstAppearances names) := by
  have hentries : ∀ l : List String,
      references l = l.filterMap (Entries.entryOf fun name => some (reference name)) := by
    intro l
    rw [references, ← List.filterMap_eq_map]
    rfl
  rw [hentries, hentries, Entries.ofList_entryOf]

theorem selectProjection_eq {select : List String} (h : select.isEmpty = false)
    (explicitId : Bool) : selectProjection select explicitId =
      some (.object (references (firstAppearances
        (if explicitId then "_id" :: select else select)))) := by
  rw [selectProjection, if_neg (by simp [h]), ← ofList_references]
  cases explicitId <;> rfl

/-! ## The stage of a flat request -/

theorem ofJson_computed {name : String} (h : startsWithDollar name = false) :
    Projection.ofJson (reference name) = .ok (.compute (.field name)) := by
  have hread := Expression.ofJson_reference h
  rw [reference] at hread ⊢
  simp only [Projection.ofJson, hread]
  rfl

theorem ofJson_selection {names : List String} (h : ∀ name ∈ names, startsWithDollar name = false) :
    Stage.ofJson (.single "$project" (.object (references names))) =
      .ok (.project (names.map fun name => (name, .compute (.field name)))) := by
  have hread : Stage.readEntries "$project" Projection.ofJson (.object (references names)) =
      .ok (names.map fun name => (name, .compute (.field name))) := by
    rw [Stage.readEntries, references, List.mapM_map]
    refine mapM_total fun name hname => ?_
    simp only [Function.comp_apply, ofJson_computed (h name hname)]
    rfl
  simp only [Json.single, Stage.ofJson, Stage.ofEntry, hread]
  rfl

theorem selectedEntries_eq (names : List String) (doc : Json) :
    selectedEntries doc (names.map fun name => (name, .compute (.field name))) =
      .ok (names.filterMap (Entries.entryOf doc.resolve?)) := by
  induction names with
  | nil => rfl
  | cons name names ih =>
    simp only [List.map_cons, selectedEntries, Expression.eval?, ih, List.filterMap_cons,
      Entries.entryOf]
    cases doc.resolve? name <;> rfl

/-- The stage keeps the selected fields, and `_id` in front of them. -/
theorem project_selection {names : List String} (h : names.isEmpty = false) (doc : Json) :
    project ((firstAppearances names).map fun name => (name, .compute (.field name))) doc =
      .ok (selectedRow names doc) := by
  have hselects : selects ((firstAppearances names).map fun name =>
      (name, Projection.compute (.field name))) = true := by
    cases names with
    | nil => cases h
    | cons name names => simp [selects, firstAppearances]
  have hdrops : dropsId ((firstAppearances names).map fun name =>
      (name, Projection.compute (.field name))) = false := by
    simp [dropsId]
  have hid : ((doc.get? "_id").map fun value => ("_id", value)).toList =
      ["_id"].filterMap (Entries.entryOf doc.resolve?) := by
    rw [← resolve?_of_noPoint hasNoPoint_id, List.filterMap_cons, Entries.entryOf]
    cases doc.resolve? "_id" <;> rfl
  unfold project
  rw [hselects, if_pos rfl, hdrops, if_neg (by simp), selectedEntries_eq]
  simp only [bind, Except.bind, pure, Except.pure]
  rw [hid, ← List.filterMap_append, List.singleton_append, Entries.ofList_entryOf,
    firstAppearances_cons_self]
  rfl

/-- The select stages give the row of each document. -/
theorem run_selectStages {select : List String}
    (h : ∀ name ∈ select, startsWithDollar name = false) :
    ∃ stages, Reads (selectStages select) stages ∧
      ∀ docs, runStages stages docs = .ok (docs.map (rowOf select)) := by
  cases hempty : select.isEmpty with
  | true =>
    refine ⟨[], ?_, fun docs => ?_⟩
    · rw [selectStages, selectProjection, if_pos hempty]
      exact reads_nil
    · have hrow : rowOf select = id := funext fun doc => if_pos hempty
      rw [hrow, List.map_id]
      rfl
  | false =>
    refine ⟨[.project ((firstAppearances select).map fun name => (name, .compute (.field name)))],
      ?_, fun docs => ?_⟩
    · rw [selectStages, selectProjection_eq hempty]
      exact reads_one (ofJson_selection fun name hname => h name (mem_firstAppearances.mp hname))
    · rw [runStages_one, Stage.run]
      refine mapError_eq_ok.mpr (mapM_total fun doc _ => ?_)
      rw [project_selection hempty, rowOf, if_neg (by simp [hempty])]

/-! ## The expression that is pushed -/

theorem ofEntries_references {names : List String}
    (h : ∀ name ∈ names, startsWithDollar name = false) :
    Expression.ofEntries (references names) =
      .ok (names.map fun name => (name, .field name)) := by
  induction names with
  | nil => simp [references, Expression.ofEntries]
  | cons name names ih =>
    have hrest := ih fun n hn => h n (List.mem_cons_of_mem _ hn)
    have hfirst := Expression.ofJson_reference (h name List.mem_cons_self)
    rw [references] at hrest ⊢
    simp only [List.map_cons, Expression.ofEntries, hrest, hfirst]
    rfl

theorem ofJson_references {names : List String}
    (h : ∀ name ∈ names, startsWithDollar name = false) :
    Expression.ofJson (.object (references names)) =
      .ok (.object (names.map fun name => (name, .field name))) := by
  have hoperator : ∀ name ∈ names, Expression.isOperator name = false := h
  match names with
  | [] => simp [references, Expression.ofJson, Expression.ofEntries, Except.map]
  | [name] =>
    have hread := Expression.ofJson_reference (h name List.mem_cons_self)
    rw [references, List.map_singleton, Expression.ofJson, if_neg (by simp [hoperator]), hread]
    rfl
  | first :: second :: rest =>
    have hfind : (references (first :: second :: rest)).find?
        (fun entry => Expression.isOperator entry.1) = none := by
      refine List.find?_eq_none.mpr fun entry hentry => ?_
      obtain ⟨name, hname, rfl⟩ := List.mem_map.mp hentry
      simp [hoperator name hname]
    have hread := ofEntries_references h
    simp only [references, List.map_cons] at hfind hread ⊢
    simp only [Expression.ofJson, hfind, hread]
    rfl

theorem evalEntries_eq (names : List String) (doc : Json) :
    Expression.evalEntries doc (names.map fun name => (name, .field name)) =
      .ok (names.filterMap (Entries.entryOf doc.resolve?)) := by
  induction names with
  | nil => rfl
  | cons name names ih =>
    simp only [List.map_cons, Expression.evalEntries, Expression.eval, ih, List.filterMap_cons,
      Entries.entryOf]
    cases doc.resolve? name <;> rfl

/-- What is pushed is read as an expression that gives the row of each document. -/
theorem exists_pushed {select : List String}
    (h : ∀ name ∈ select, startsWithDollar name = false) :
    ∃ e, Expression.ofJson ((selectProjection select true).getD Pipeline.currentDocument) =
      .ok e ∧ ∀ doc, e.eval doc = .ok (rowOf select doc) := by
  cases hempty : select.isEmpty with
  | true =>
    refine ⟨.document, ?_, fun doc => ?_⟩
    · rw [selectProjection, if_pos hempty, Option.getD_none]
      simp [Pipeline.currentDocument, Expression.ofJson, Expression.ofString]
    · rw [rowOf, if_pos hempty]
      rfl
  | false =>
    have hnames : ∀ name ∈ firstAppearances ("_id" :: select), startsWithDollar name = false := by
      intro name hname
      rcases List.mem_cons.mp (mem_firstAppearances.mp hname) with rfl | hname
      · rfl
      · exact h name hname
    refine ⟨.object ((firstAppearances ("_id" :: select)).map fun name => (name, .field name)), ?_,
      fun doc => ?_⟩
    · rw [selectProjection_eq hempty, Option.getD_some, if_pos rfl, ofJson_references hnames]
    · rw [Expression.eval, evalEntries_eq, rowOf, if_neg (by simp [hempty])]
      simp only [bind, Except.bind, pure, Except.pure]
      rw [Entries.ofList_entryOf, firstAppearances_of_nodup (nodup_firstAppearances _)]
      rfl

/-- The expression that is pushed gives the row of each document. -/
theorem eval_pushed {select : List String} (h : ∀ name ∈ select, startsWithDollar name = false)
    {e : Expression}
    (he : Expression.ofJson ((selectProjection select true).getD Pipeline.currentDocument) = .ok e)
    (doc : Json) : e.eval doc = .ok (rowOf select doc) := by
  obtain ⟨_, hread, heval⟩ := exists_pushed h
  obtain rfl := Except.ok.inj (hread.symm.trans he)
  exact heval doc

/-! ## Rows and key fields -/

theorem isPlain_selectedRow {names : List String} (h : ∀ name ∈ names, isReserved name = false)
    (doc : Json) : IsPlain (selectedRow names doc) := by
  refine ⟨_, rfl, fun key hkey => ?_⟩
  obtain ⟨entry, hentry, rfl⟩ := List.mem_map.mp hkey
  obtain ⟨name, hname, hsome⟩ := List.mem_filterMap.mp hentry
  rw [← (Entries.entryOf_eq_some.mp hsome).2]
  rcases List.mem_cons.mp (mem_firstAppearances.mp hname) with rfl | hname
  · decide
  · exact h name hname

theorem isPlain_rowOf {select : List String} (h : ∀ name ∈ select, isReserved name = false)
    {doc : Json} (hdoc : IsPlain doc) : IsPlain (rowOf select doc) := by
  unfold rowOf
  split_ifs
  · exact hdoc
  · exact isPlain_selectedRow h doc

/-- Fields of group keys that stand in a document do not show in its row. -/
theorem stripKeys_rowOf {select names : List String} (h : ∀ name ∈ select, isReserved name = false)
    {doc later : Json} (hsets : Sets names doc later) (hpoint : ∀ name ∈ names, HasNoPoint name)
    (hkey : ∀ name ∈ names, Pipeline.isKeyField name = true) :
    stripKeys (rowOf select later) = stripKeys (rowOf select doc) := by
  unfold rowOf
  split_ifs
  · exact hsets.stripKeys hpoint hkey
  · have hreserved : ∀ name ∈ names, isReserved name = true := fun name hname =>
      Pipeline.isReserved_of_isKeyField (hkey name hname)
    congr 1
    unfold selectedRow
    congr 1
    refine List.filterMap_congr fun name hname => ?_
    have hname' : isReserved name = false := by
      rcases List.mem_cons.mp (mem_firstAppearances.mp hname) with rfl | hname
      · decide
      · exact h name hname
    have hvalue : later.resolve? name = doc.resolve? name :=
      hsets.resolve? hpoint fun key hkeyMem => firstKey_ne hname' (hreserved key hkeyMem)
    rw [Entries.entryOf, Entries.entryOf, hvalue]

end GridQuery
