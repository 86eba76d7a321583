import Mathlib
import GridQuery.Proofs.Collapsing
import GridQuery.Proofs.FlatRows

/-!
# Rows are stored documents

Filters and keys compute fields into the documents on their way, under reserved names. A filter
removes what it has computed at once; the fields of keys stay until the rows are shown, behind the
fields of the document, and are left out then. So where no fields are selected, a row is a document
as it is stored, with its fields in their order. Only an object identifier may be shown as a text.

Results:
* `Shows`: a row shows a document.
* `Pipeline.SetsOnly`: what stages may do to documents without a lasting trace.
* `rows_of_queryGroups`: the rows of groups, by induction over the levels.
* `rows_unchanged`: every row of a response shows a stored document.
-/

namespace GridQuery

open Collection (aggregate_of_reads runStages runStages_append_eq_ok runStages_one)
open Pipeline (addField groupKey keyField stripKeys)

/-! ## Showing a document -/

/-- The row shows the document: it is the document itself, with one exception. Where identifiers are
    normalized, the text of an object identifier takes the place of the identifier. -/
inductive Shows (normalizes : Bool) : (doc row : Json) → Prop
  | same {doc : Json}
      (h : normalizes = true → ∀ text, doc.get? "_id" ≠ some (.single "$oid" (.string text))) :
      Shows normalizes doc doc
  | identifier {before after : Entries} {text : String} (h : normalizes = true)
      (hfirst : "_id" ∉ Entries.keys before) :
      Shows normalizes
        (.object (before ++ ("_id", .single "$oid" (.string text)) :: after))
        (.object (before ++ ("_id", .string text) :: after))

namespace Entries

/-- An entry that is found is the first one of its key. -/
theorem exists_of_get? {key : String} {value : Json} {entries : Entries}
    (h : get? key entries = some value) :
    ∃ before after, entries = before ++ (key, value) :: after ∧ key ∉ keys before := by
  induction entries with
  | nil => cases h
  | cons entry rest ih =>
    rw [get?] at h
    by_cases hkey : entry.1 = key
    · rw [if_pos hkey] at h
      refine ⟨[], rest, ?_, List.not_mem_nil⟩
      rw [← Option.some.inj h, ← hkey, List.nil_append]
    · rw [if_neg hkey] at h
      obtain ⟨before, after, rfl, hbefore⟩ := ih h
      refine ⟨entry :: before, after, rfl, ?_⟩
      show key ∉ entry.1 :: keys before
      rw [List.mem_cons, not_or]
      exact ⟨Ne.symm hkey, hbefore⟩

end Entries

theorem identifierText?_eq_some {value : Json} {text : String} :
    identifierText? value = some text ↔ value = .single "$oid" (.string text) := by
  constructor
  · intro h
    unfold identifierText? at h
    split at h
    · split_ifs at h with hkey
      rw [hkey, Option.some.inj h]
      rfl
    · cases h
  · rintro rfl
    rfl

/-- A document as the response shows it. -/
theorem shows_shownRow {e : Engine} (hnormalizer : e.normalizer = plainIdentifier) (doc : Json) :
    Shows e.config.normalizeIdentifiers doc (e.shownRow doc) := by
  unfold Engine.shownRow
  by_cases hnormalizes : e.config.normalizeIdentifiers = true
  · rw [if_pos hnormalizes, hnormalizer]
    cases doc with
    | object entries =>
      rw [plainIdentifier]
      cases hid : (Entries.get? "_id" entries).bind identifierText? with
      | none =>
        refine .same fun _ text hget => ?_
        have hfound : Entries.get? "_id" entries = some (.single "$oid" (.string text)) := hget
        rw [hfound, Option.bind_some, identifierText?_eq_some.mpr rfl] at hid
        cases hid
      | some text =>
        obtain ⟨value, hvalue, htext⟩ := Option.bind_eq_some_iff.mp hid
        obtain ⟨before, after, rfl, hfirst⟩ := Entries.exists_of_get? hvalue
        obtain rfl := identifierText?_eq_some.mp htext
        show Shows _ _ (.object (Entries.insert "_id" (.string text) _))
        rw [Entries.insert_append _ _ hfirst, Entries.insert, if_pos rfl]
        exact .identifier hnormalizes hfirst
    | null | bool _ | number _ | string _ | array _ =>
      refine .same fun _ text hget => ?_
      cases hget
  · rw [if_neg hnormalizes]
    exact .same fun h => absurd h hnormalizes

/-! ## Stages that only set fields -/

namespace Pipeline

/-- What a stage that computes a field is read as. -/
theorem reads_addField {name : String} {expression : Json} {stages : List Stage}
    (h : Reads [addField name expression] stages) :
    ∃ e, Expression.ofJson expression = .ok e ∧ stages = [.addFields [(name, e)]] := by
  obtain ⟨stage, rest, hstage, hrest, rfl⟩ := mapM_cons_eq_ok.mp h
  obtain rfl := Reads.unique hrest reads_nil
  cases he : Expression.ofJson expression with
  | ok e => exact ⟨e, rfl, by rw [Except.ok.inj (hstage.symm.trans (ofJson_addField name he))]⟩
  | error fault =>
    simp [addField, Json.single, Stage.ofJson, Stage.ofEntry, Stage.readEntries, he, bind,
      Except.bind, Except.map] at hstage

/-- Whatever the pipeline is read as, the documents after it come from those before it by setting
    fields of these names. -/
def SetsOnly (names : List String) (p : Pipeline) : Prop :=
  ∀ stages, Reads p stages → ∀ docs out, runStages stages docs = .ok out →
    ∀ later ∈ out, ∃ doc ∈ docs, Sets names doc later

namespace SetsOnly

variable {names : List String} {p q : Pipeline}

theorem nil (names : List String) : SetsOnly names [] := by
  intro stages hreads docs out hrun later hlater
  obtain rfl := hreads.unique reads_nil
  obtain rfl := Except.ok.inj hrun
  exact ⟨later, hlater, .same⟩

theorem append (hp : SetsOnly names p) (hq : SetsOnly names q) : SetsOnly names (p ++ q) := by
  intro stages hreads docs out hrun later hlater
  obtain ⟨a, b, ha, hb, rfl⟩ := reads_append.mp hreads
  obtain ⟨mid, hmid, hout⟩ := runStages_append_eq_ok.mp hrun
  obtain ⟨between, hbetween, hsecond⟩ := hq b hb mid out hout later hlater
  obtain ⟨doc, hdoc, hfirst⟩ := hp a ha docs mid hmid between hbetween
  exact ⟨doc, hdoc, hfirst.trans hsecond⟩

theorem mono {names' : List String} (h : SetsOnly names p) (hsub : names ⊆ names') :
    SetsOnly names' p := by
  intro stages hreads docs out hrun later hlater
  obtain ⟨doc, hdoc, hsets⟩ := h stages hreads docs out hrun later hlater
  exact ⟨doc, hdoc, hsets.mono hsub⟩

/-- A computed field is set, or it is left out where its value is missing. -/
theorem one {name : String} (hname : name ∈ names) (expression : Json) :
    SetsOnly names [addField name expression] := by
  intro stages hreads docs out hrun later hlater
  obtain ⟨e, -, rfl⟩ := reads_addField hreads
  rw [runStages_one, Stage.run, mapError_eq_ok] at hrun
  obtain ⟨doc, hdoc, hset⟩ := exists_of_mem_right (mapM_eq_ok.mp hrun) hlater
  refine ⟨doc, hdoc, ?_⟩
  obtain ⟨value?, -, hvalue⟩ := bind_eq_ok.mp hset
  cases value? with
  | none =>
    obtain rfl := Except.ok.inj hvalue
    exact .same
  | some value =>
    obtain rfl := Except.ok.inj hvalue
    exact .one hname doc value

end SetsOnly

theorem setsOnly_matchStages (names : List String) (field : String) (value : Json) :
    SetsOnly names (matchStages field value) := by
  intro stages hreads docs out hrun later hlater
  obtain rfl := hreads.unique (reads_matchStages field value)
  rw [runStages_one, Stage.run, mapError_eq_ok] at hrun
  exact ⟨later, (matching_sublist hrun).subset hlater, .same⟩

theorem setsOnly_partStages {names : List String} {target scratch : String}
    (htarget : target ∈ names) (hscratch : scratch ∈ names) (source : String) (part : CalendarPart)
    (offset : Int64) : SetsOnly names (partStages target source part offset scratch) := by
  cases part with
  | quarter => exact .append (p := [_]) (q := [_]) (.one hscratch _) (.one htarget _)
  | year | month | day | dayOfWeek | hour | minute | second => exact .one htarget _

/-- Computing the key of a level sets the fields of the level only, whatever its selector is. -/
theorem setsOnly_groupKey (selector : String) (interval : Option GroupInterval) (level : Nat)
    (offset : Int64) :
    SetsOnly (levelFields level) (groupKey selector interval level offset).stages := by
  have hkey : keyField level ∈ levelFields level := List.mem_cons_self
  have hscratch : quarterScratch ∈ levelFields level := List.mem_cons_of_mem _ List.mem_cons_self
  unfold groupKey
  simp only
  split
  · exact .one hkey _
  · exact setsOnly_partStages hkey hscratch _ _ _
  · exact .one hkey _

theorem setsOnly_narrowingStages (selector : String) (interval : Option GroupInterval)
    (level : Nat) (offset : Int64) (key : Json) :
    SetsOnly (levelFields level) (narrowingStages selector interval level offset key) := by
  unfold narrowingStages
  split_ifs
  · exact (setsOnly_groupKey selector interval level offset).append (setsOnly_matchStages _ _ _)
  · exact setsOnly_matchStages _ _ _

end Pipeline

open Pipeline (SetsOnly)

/-! ## The rows of groups -/

namespace Group

theorem mem_deepestRowsIn {part : List Json} {groups : List Group} :
    part ∈ deepestRowsIn groups ↔ ∃ group ∈ groups, part ∈ deepestRowsOf group.items := by
  induction groups with
  | nil => simp [deepestRowsIn]
  | cons group rest ih =>
    rw [deepestRowsIn, List.mem_append, ih, deepestRows_eq]
    simp

end Group

section Levels

variable {e : Engine} {o : LoadOptions} {docs : List Json} {level : Nat} {skip take : UInt64}
  {scope : Pipeline}

/-- Without the fields that key stages write, a document inside a scope is a stored one. -/
theorem Descends.stripKeys_mem {later : Json} (h : Descends docs level later)
    (hdocs : ∀ doc ∈ docs, IsPlain doc) : stripKeys later ∈ docs := by
  obtain ⟨doc, hdoc, hsets⟩ := h
  have hkeys : ∀ name ∈ fieldsAbove level, Pipeline.isKeyField name = true := by
    intro name hname
    obtain ⟨above, -, hname⟩ := mem_fieldsAbove hname
    exact isKeyField_levelFields name hname
  rw [hsets.stripKeys hasNoPoint_fieldsAbove hkeys, (hdocs doc hdoc).stripKeys]
  exact hdoc

/-- A sort and the filter behind it give stored documents. -/
theorem mem_of_sortedFilter (hdocs : ∀ doc ∈ docs, IsPlain doc) {sort : List SortField}
    {prepared : List Json}
    (h : (Collection.mk docs).aggregate (Pipeline.sortStages sort ++ e.filterStages o) =
      .ok prepared) : ∀ doc ∈ prepared, doc ∈ docs := by
  obtain ⟨arranged, filters, harranged, hfilters, hprepared⟩ := aggregate_append_eq_ok.mp h
  obtain ⟨sorts, hsorts, hsorted⟩ := Collection.aggregate_eq_ok.mp harranged
  obtain ⟨arrange, harrange⟩ := arranges_sortStages hsorts
  obtain rfl := Except.ok.inj ((harrange.run docs).symm.trans hsorted)
  have hmem : ∀ doc ∈ arrange docs, doc ∈ docs := fun doc hdoc =>
    (harrange.perm docs).mem_iff.mp hdoc
  have hkept : (Collection.mk (arrange docs)).aggregate (e.filterStages o) = .ok prepared := by
    rw [aggregate_of_reads hfilters, hprepared]
  have hsub := sublist_of_filterStages (fun doc hdoc => hdocs doc (hmem doc hdoc)) hkept
  exact fun doc hdoc => hmem doc (hsub.subset hdoc)

/-- The documents inside a scope are stored ones in which key fields of the levels above may stand. -/
theorem descends_of_scope (hdocs : ∀ doc ∈ docs, IsPlain doc)
    (hscope : SetsOnly (fieldsAbove level) scope) {sort : List SortField} {inside : List Json}
    (hinside : (Collection.mk docs).aggregate
      (Pipeline.sortStages sort ++ e.filterStages o ++ scope) = .ok inside) :
    ∀ doc ∈ inside, Descends docs level doc := by
  intro later hlater
  obtain ⟨prepared, scopeStages, hprepared, hscopeReads, hrun⟩ := aggregate_append_eq_ok.mp hinside
  obtain ⟨doc, hdoc, hscopeSets⟩ := hscope scopeStages hscopeReads prepared inside hrun later hlater
  exact ⟨doc, mem_of_sortedFilter hdocs hprepared doc hdoc, hscopeSets⟩

/-- The documents of which a level makes groups are stored ones in which key fields may stand. -/
theorem descends_of_computed {inside computed : List Json}
    (hinside : ∀ doc ∈ inside, Descends docs level doc) {keyStages : List Stage} {g : GroupLevel}
    (hreads : Reads (groupKey g.selector g.interval level e.config.timezoneOffset).stages
      keyStages)
    (hcomputed : runStages keyStages inside = .ok computed) :
    ∀ later ∈ computed, Descends docs (level + 1) later := by
  intro later hlater
  obtain ⟨doc, hdoc, hkeySets⟩ := Pipeline.setsOnly_groupKey g.selector g.interval level
    e.config.timezoneOffset keyStages hreads inside computed hcomputed later hlater
  exact (hinside doc hdoc).succ_of_sets hkeySets

/-- Where no fields are selected, the rows that are fetched for the groups of a level are stored
    documents once they are stripped. -/
theorem stripKeys_fetched_mem (hrunner : e.runner = .ofCollection ⟨docs⟩)
    (hdocs : ∀ doc ∈ docs, IsPlain doc) (hselect : o.select = [])
    (hscope : SetsOnly (fieldsAbove level) scope) {g : GroupLevel} {last : Bool}
    {found : List Group} (hfound : Step.Yields (e.fetchGroups level
      (e.levelPipeline o g level last (Pipeline.pagingStages skip take) scope)) found) :
    ∀ group ∈ found, ∀ rows, group.items = .rows rows → ∀ row ∈ rows, stripKeys row ∈ docs := by
  intro group hgroup rows hrows row hrow
  cases hpushes : last && g.isExpanded with
  | false =>
    rw [items_of_fetched hrunner hpushes hfound group hgroup] at hrows
    cases hrows
  | true =>
    obtain ⟨out, hout, hread⟩ := Engine.fetchGroups_yields hrunner hfound
    obtain ⟨inside, keyStages, computed, items, hinside, hreads, hcomputed, hsome, hitems,
      hgroups⟩ := level_of_aggregate hout
    rw [if_pos hpushes] at hinside
    rw [hpushes] at hsome
    obtain ⟨pushed, rfl⟩ := Option.isSome_iff_exists.mp hsome
    -- The documents themselves are pushed.
    obtain rfl : pushed = .document := by
      have hdocument := ofJson_currentDocument .document rfl
      have hread := hitems pushed rfl
      rw [hselect] at hread
      exact Except.ok.inj (hread.symm.trans hdocument)
    obtain ⟨doc, hdoc, hof⟩ := exists_of_mem_right (mapM_eq_ok.mp hread) hgroup
    obtain ⟨key, -, hkey⟩ := hgroups doc hdoc
    rw [Group.items_of_pushed (f := id) (fun _ => rfl) hof hkey, List.map_id] at hrows
    obtain rfl := GroupItems.rows.inj hrows
    have hdescends := descends_of_scope hdocs hscope hinside
    exact (descends_of_computed hdescends hreads hcomputed row
      (List.mem_of_mem_filter hrow)).stripKeys_mem hdocs

/-- Narrowing to a group of a level sets the fields of the level at most. -/
theorem setsOnly_narrowed (hscope : SetsOnly (fieldsAbove level) scope) (g : GroupLevel)
    (key : Json) : SetsOnly (fieldsAbove (level + 1)) (scope ++ e.narrowingStages g level key) := by
  rw [fieldsAbove_succ]
  exact (hscope.mono (List.subset_append_left _ _)).append
    ((Pipeline.setsOnly_narrowingStages _ _ _ _ _).mono (List.subset_append_right _ _))

/-- The rows of a group that has been filled are stored documents as the response shows them, if
    those of the groups inside it are. -/
theorem rows_of_filled (hrunner : e.runner = .ofCollection ⟨docs⟩)
    (hdocs : ∀ doc ∈ docs, IsPlain doc) (hselect : o.select = [])
    (hscope : SetsOnly (fieldsAbove level) scope) {g : GroupLevel} {inner : List GroupLevel}
    {found : List Group} (hfound : Step.Yields (e.fetchGroups level
      (e.levelPipeline o g level inner.isEmpty (Pipeline.pagingStages skip take) scope)) found)
    {group full : Group} (hgroup : group ∈ found) {narrowed : Pipeline}
    (hinner : ∀ sub, Step.Yields (e.queryGroups o inner (level + 1) [] narrowed) sub →
      ∀ part ∈ Group.deepestRowsIn sub, ∀ row ∈ part, ∃ doc ∈ docs, row = e.shownRow doc)
    (h : e.Filled o g level narrowed group inner full) :
    ∀ part ∈ Group.deepestRowsOf full.items, ∀ row ∈ part, ∃ doc ∈ docs, row = e.shownRow doc := by
  intro part hpart row hrow
  have hrows := stripKeys_fetched_mem hrunner hdocs hselect hscope hfound group hgroup
  cases h with
  | shown =>
    cases hcontent : group.items with
    | absent =>
      rw [Group.mapRows, hcontent] at hpart
      simp only [hcontent] at hpart
      cases hpart
    | groups sub =>
      have hbare := (Engine.fetchGroups_bare hfound group hgroup).2
      rw [Group.groups?, hcontent] at hbare
      cases hbare
    | rows rows =>
      rw [Group.mapRows, hcontent] at hpart
      obtain rfl : part = rows.map fun row => e.shownRow (stripKeys row) :=
        List.mem_singleton.mp hpart
      obtain ⟨fetchedRow, hmem, rfl⟩ := List.mem_map.mp hrow
      exact ⟨stripKeys fetchedRow, hrows rows hcontent fetchedRow hmem, rfl⟩
  | kept hcollapsed =>
    have hclosed : (true && g.isExpanded) = false := by rw [hcollapsed, Bool.true_and]
    rw [items_of_fetched hrunner hclosed hfound group hgroup] at hpart
    cases hpart
  | @opened _ _ sub _ hsub => exact hinner sub hsub part hpart row hrow
  | @closed _ _ n _ =>
    have habsent := items_of_fetched hrunner (Bool.false_and _) hfound group hgroup
    rw [show (group.withCount n).items = .absent from habsent] at hpart
    cases hpart

/-- The rows of the groups inside a scope are stored documents as the response shows them. -/
theorem rows_of_queryGroups (hrunner : e.runner = .ofCollection ⟨docs⟩)
    (hdocs : ∀ doc ∈ docs, IsPlain doc) (hselect : o.select = []) {levels : List GroupLevel}
    {groups : List Group} (hscope : SetsOnly (fieldsAbove level) scope)
    (h : Step.Yields (e.queryGroups o levels level (Pipeline.pagingStages skip take) scope)
      groups) :
    ∀ part ∈ Group.deepestRowsIn groups, ∀ row ∈ part, ∃ doc ∈ docs, row = e.shownRow doc := by
  induction levels generalizing level skip take scope groups with
  | nil => exact absurd h Engine.not_yields_nil
  | cons g inner ih =>
    obtain ⟨found, filled, hfound, hfilled, hsummarized⟩ := Engine.queryGroups_yields h
    intro part hpart
    obtain ⟨group, hgroup, hpart⟩ := Group.mem_deepestRowsIn.mp hpart
    obtain ⟨fetched, hfetched, full, hfill, hitems, -⟩ :=
      Engine.mem_queryGroups hfilled hsummarized hgroup
    rw [hitems] at hpart
    refine rows_of_filled hrunner hdocs hselect hscope hfound hfetched (fun sub hsub => ?_) hfill
      part hpart
    rw [← pagingStages_none] at hsub
    exact ih (setsOnly_narrowed hscope g fetched.key) hsub

end Levels

/-! ## Requests -/

/-- The rows of a response, at the top or inside groups. -/
def ResponseData.allRows : ResponseData → List Json
  | .rows shown => shown
  | .groups tree => (Group.deepestRowsIn tree).flatten

section Requests

variable {e : Engine} {o : LoadOptions} {docs : List Json}

/-- The rows of a flat request without selected fields are stored documents. -/
theorem mem_of_rowsPipeline (hdocs : ∀ doc ∈ docs, IsPlain doc) (hselect : o.select = [])
    {rows : List Json} (h : (Collection.mk docs).aggregate (e.rowsPipeline o) = .ok rows) :
    ∀ row ∈ rows, row ∈ docs := by
  have hnone : Pipeline.selectStages o.select = [] := by
    rw [hselect]
    rfl
  rw [Engine.rowsPipeline, hnone, List.append_nil] at h
  obtain ⟨sorted, paging, hsorted, hpaging, hpaged⟩ := aggregate_append_eq_ok.mp h
  obtain ⟨kept, sorts, hkept, hsorts, hrun⟩ := aggregate_append_eq_ok.mp hsorted
  obtain ⟨arrange, harrange⟩ := arranges_sortStages hsorts
  obtain rfl := Except.ok.inj ((harrange.run kept).symm.trans hrun)
  obtain ⟨stages, hreads, hpages⟩ := exists_reads_pagingStages o.skip o.take
  obtain rfl := hpaging.unique hreads
  obtain ⟨page, hpage, hsub⟩ := hpages (arrange kept)
  obtain rfl := Except.ok.inj (hpage.symm.trans hpaged)
  intro row hrow
  have hmem : row ∈ kept := (harrange.perm kept).mem_iff.mp (hsub.subset hrow)
  exact (sublist_of_filterStages hdocs hkept).subset hmem

/-- Every row of a response shows a stored document, if no fields are selected and the documents have
    no reserved names. -/
theorem rows_unchanged (hrunner : e.runner = .ofCollection ⟨docs⟩)
    (hnormalizer : e.normalizer = plainIdentifier) (hdocs : ∀ doc ∈ docs, IsPlain doc)
    (hselect : o.select = []) {s s' : Session} {r : Response} (h : e.query o s = (.ok r, s')) :
    ∀ row ∈ r.data.allRows, ∃ doc ∈ docs, Shows e.config.normalizeIdentifiers doc row := by
  suffices hshown : ∀ row ∈ r.data.allRows, ∃ doc ∈ docs, row = e.shownRow doc by
    intro row hrow
    obtain ⟨doc, hdoc, rfl⟩ := hshown row hrow
    exact ⟨doc, hdoc, shows_shownRow hnormalizer doc⟩
  have hsteps := e.steps_yields o h
  unfold Engine.steps at hsteps
  split_ifs at hsteps with hgrouped
  · obtain ⟨groups, counted, hgroups, hcounted, htotals⟩ := Engine.queryGrouped_yields hsteps
    rw [Engine.data_of_totals hcounted htotals]
    intro row hrow
    obtain ⟨part, hpart, hmem⟩ := List.mem_flatten.mp hrow
    exact rows_of_queryGroups hrunner hdocs hselect (.nil _) hgroups part hpart row hmem
  · obtain ⟨kept, rows, -, hrows, htotals⟩ := parts_of_queryRows hrunner hsteps
    have hdata : r.data = .rows (rows.map e.shownRow) := Engine.data_of_addTotals htotals
    rw [hdata]
    intro row hrow
    obtain ⟨doc, hdoc, rfl⟩ := List.mem_map.mp hrow
    exact ⟨doc, mem_of_rowsPipeline hdocs hselect hrows doc hdoc, rfl⟩

end Requests

/-- The rows of two levels show the two documents. -/
theorem rows_unchanged_twoLevels :
    ∃ r s', overTwoDocuments.query twoLevels {} = (.ok r, s') ∧
      ∀ row ∈ r.data.allRows, ∃ doc ∈ twoDocuments, Shows true doc row := by
  obtain ⟨s', hquery⟩ := Engine.query_of_succeeds (e := overTwoDocuments) (o := twoLevels)
    queryGrouped_twoLevels {}
  have hplain : ∀ doc ∈ twoDocuments, IsPlain doc := by decide
  exact ⟨_, s', hquery, rows_unchanged rfl rfl hplain rfl hquery⟩

end GridQuery
