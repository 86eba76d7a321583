import Mathlib
import GridQuery.Proofs.Levels
import GridQuery.Proofs.Reordering
import GridQuery.Proofs.Rows
import GridQuery.Proofs.Scopes
import GridQuery.Proofs.Steps

/-!
# Grouped rows are the flat rows

A grouped request reads its rows scope by scope, and a flat one reads them all at once. Both come
from the same documents, which are filtered and sorted in the one order or in the other.

Results:
* `Group.deepestRows`: the rows of the deepest groups.
* `spreads_queryGroups`: the groups of a scope spread out its documents.
* `grouped_rows_perm`: the rows of a grouped request are those of the flat request, and within each
  deepest group they are in the order of the flat request.
-/

namespace GridQuery

open Collection (aggregate_eq_ok aggregate_of_reads runStages runStages_append_eq_ok)
open Pipeline (groupKey keyField stripKeys)

/-! ## The rows of a tree of groups -/

namespace Group

mutual

/-- The rows of the deepest groups, a list for each of them, from left to right. -/
def deepestRows : Group → List (List Json)
  | mk _ _ items _ => deepestRowsOf items

def deepestRowsOf : GroupItems → List (List Json)
  | .absent => []
  | .rows rows => [rows]
  | .groups groups => deepestRowsIn groups

def deepestRowsIn : List Group → List (List Json)
  | [] => []
  | group :: rest => deepestRows group ++ deepestRowsIn rest

end

theorem deepestRows_eq (group : Group) : group.deepestRows = deepestRowsOf group.items := by
  cases group
  rfl

/-- Groups with the same items have the same rows. -/
theorem deepestRowsIn_congr {groups groups' : List Group}
    (h : List.Forall₂ (fun a b : Group => b.items = a.items) groups groups') :
    deepestRowsIn groups' = deepestRowsIn groups := by
  induction h with
  | nil => rfl
  | cons hitems _ ih =>
    rw [deepestRowsIn, deepestRowsIn, ih, deepestRows_eq, deepestRows_eq, hitems]

/-- The count of a group document; it is zero where the documents are counted separately. -/
theorem countOf_isGroup {field : String} {docs : List Json} {countSeparately : Bool}
    {pushed : Option Expression} {key doc : Json}
    (h : IsGroup field docs countSeparately pushed key doc) :
    countOf doc =
      .ok (if countSeparately then 0 else documentCount (docsOf field docs key).length) := by
  rw [countOf, h.count]
  cases countSeparately with
  | true => rfl
  | false =>
    simp only [Bool.false_eq_true, if_false, Json.ofUInt64]
    rw [← Json.ofUInt64, Json.uint64?_ofUInt64]

/-- The group that is read of a group document has its key, its count and its rows. -/
theorem ofJson_eq_ok {field : String} {docs : List Json} {countSeparately : Bool}
    {pushed : Option Expression} {key doc : Json} {group : Group} (h : ofJson doc = .ok group)
    (hgroup : IsGroup field docs countSeparately pushed key doc) :
    group.key = key ∧
      (countSeparately = false →
        group.count = documentCount (docsOf field docs key).length) ∧
      ∀ e ∈ pushed, ∃ rows,
        ((docsOf field docs key).mapM fun d => e.eval d) = .ok rows ∧ group.items = .rows rows := by
  rw [ofJson, hgroup.key_eq] at h
  obtain ⟨count, hcount, rfl⟩ := map_eq_ok.mp h
  refine ⟨rfl, ?_, fun e he => ?_⟩
  · rintro rfl
    exact (Except.ok.inj ((countOf_isGroup hgroup).symm.trans hcount)).symm
  · obtain ⟨rows, hrows, hitems⟩ := hgroup.rows e he
    refine ⟨rows, hrows, ?_⟩
    rw [items, itemsOf, hitems]

/-- The rows of a group are what is pushed of its documents. -/
theorem items_of_pushed {field : String} {docs : List Json} {countSeparately : Bool}
    {pushed : Expression} {f : Json → Json} (heval : ∀ d, pushed.eval d = .ok (f d))
    {key doc : Json} {group : Group} (h : ofJson doc = .ok group)
    (hgroup : IsGroup field docs countSeparately (some pushed) key doc) :
    group.items = .rows ((docsOf field docs key).map f) := by
  obtain ⟨-, -, hrows⟩ := ofJson_eq_ok h hgroup
  obtain ⟨rows, hmapM, hitems⟩ := hrows pushed rfl
  rw [mapM_total fun d _ => heval d] at hmapM
  rw [hitems, Except.ok.inj hmapM]

end Group

/-- Groups spread out rows: all the rows are in the deepest groups, and those of each deepest group
    are in their order. -/
structure Spreads (groups : List Group) (rows : List Json) : Prop where
  perm : (Group.deepestRowsIn groups).flatten.Perm rows
  sublist : ∀ part ∈ Group.deepestRowsIn groups, part.Sublist rows

/-- Groups for each key that spread out the rows of the key spread out all rows. -/
theorem spreads_of_keys {keys : List Json} {groups : List Group} {part : Json → List Json}
    {rows : List Json}
    (h : List.Forall₂ (fun key group => group.deepestRows.flatten.Perm (part key) ∧
      ∀ deepest ∈ group.deepestRows, deepest.Sublist (part key)) keys groups)
    (hperm : (keys.flatMap part).Perm rows) (hsublist : ∀ key ∈ keys, (part key).Sublist rows) :
    Spreads groups rows := by
  suffices hall : (Group.deepestRowsIn groups).flatten.Perm (keys.flatMap part) ∧
      ∀ deepest ∈ Group.deepestRowsIn groups, ∃ key ∈ keys, deepest.Sublist (part key) by
    refine ⟨hall.1.trans hperm, fun deepest hdeepest => ?_⟩
    obtain ⟨key, hkey, hsub⟩ := hall.2 deepest hdeepest
    exact hsub.trans (hsublist key hkey)
  clear hperm hsublist
  induction h with
  | nil => exact ⟨.nil, by simp [Group.deepestRowsIn]⟩
  | @cons key group keys groups hgroup _ ih =>
    rw [Group.deepestRowsIn, List.flatten_append, List.flatMap_cons]
    refine ⟨hgroup.1.append ih.1, fun deepest hdeepest => ?_⟩
    rcases List.mem_append.mp hdeepest with hmem | hmem
    · exact ⟨key, List.mem_cons_self, hgroup.2 deepest hmem⟩
    · obtain ⟨other, hother, hsub⟩ := ih.2 deepest hmem
      exact ⟨other, List.mem_cons_of_mem _ hother, hsub⟩

/-! ## The steps of a grouped request -/

namespace Engine

variable {e : Engine} {o : LoadOptions}

/-- The groups that are fetched are those that the collection answers. -/
theorem fetchGroups_yields {docs : List Json} (hrunner : e.runner = .ofCollection ⟨docs⟩)
    {level : Nat} {pipeline : Pipeline} {groups : List Group}
    (h : Step.Yields (fetchGroups e level pipeline) groups) :
    ∃ out, (Collection.mk docs).aggregate pipeline = .ok out ∧
      out.mapM Group.ofJson = .ok groups := by
  obtain ⟨out, hout, h⟩ := h.bind
  obtain ⟨found, hfound, h⟩ := h.bind
  obtain ⟨_, -, h⟩ := h.bind
  obtain ⟨_, -, h⟩ := h.bind
  rw [h.pure]
  rw [hrunner] at hout
  exact ⟨out, hout.execute, hfound.checked⟩

/-- Groups that the collection answers are fetched. -/
theorem fetchGroups_succeeds {docs out : List Json} (hrunner : e.runner = .ofCollection ⟨docs⟩)
    {pipeline : Pipeline} {groups : List Group} (level : Nat)
    (hanswer : (Collection.mk docs).aggregate pipeline = .ok out)
    (hread : out.mapM Group.ofJson = .ok groups) :
    Step.Succeeds (fetchGroups e level pipeline) groups := by
  rw [fetchGroups, hrunner]
  exact (Step.Succeeds.execute hanswer).bind ((Step.Succeeds.checked hread).bind
    ((Step.Succeeds.change _).bind ((Step.Succeeds.change _).bind (.pure groups))))

end Engine

/-! ## The documents of a request -/

/-- What the documents of a collection become before they are grouped: `kept` by the filter alone,
    and `sorted` by the sort and the filter. -/
structure Prepares (e : Engine) (o : LoadOptions) (docs kept sorted : List Json) : Prop where
  filters : ∃ stages, Reads (e.filterStages o) stages ∧ runStages stages docs = .ok kept
  sorts : ∃ stages, Reads (Pipeline.sortStages o.sort ++ e.filterStages o) stages ∧
    runStages stages docs = .ok sorted
  perm : kept.Perm sorted
  sublist : kept.Sublist docs

/-- The stages for search and filter keep documents. -/
theorem keeps_requestStages (e : Engine) (o : LoadOptions) :
    ∃ stages, Reads (e.filterStages o) stages ∧ Keeps stages := by
  obtain ⟨a, ha, hakeeps⟩ := keeps_searchStages o.searchFields o.searchOperation o.searchValue
    e.config.timezoneOffset
  unfold Engine.filterStages
  cases o.filter with
  | none => exact ⟨a ++ [], ha.append reads_nil, hakeeps.append .nil⟩
  | some filter =>
    obtain ⟨b, hb, hbkeeps⟩ := keeps_filterStages filter e.config.timezoneOffset
    exact ⟨a ++ b, ha.append hb, hakeeps.append hbkeeps⟩

/-- Filtering before and after a sort come to the same. -/
theorem prepares_of_run {e : Engine} {o : LoadOptions} {docs kept sorted : List Json}
    {filters sorts : List Stage} (hdocs : ∀ doc ∈ docs, IsPlain doc)
    (hfilters : Reads (e.filterStages o) filters) (hkept : runStages filters docs = .ok kept)
    (hsorts : Reads (Pipeline.sortStages o.sort) sorts)
    (hsorted : runStages sorts kept = .ok sorted) : Prepares e o docs kept sorted := by
  obtain ⟨_, hreads, hkeeps⟩ := keeps_requestStages e o
  obtain rfl := hfilters.unique hreads
  obtain ⟨arrange, harrange⟩ := arranges_sortStages hsorts
  obtain ⟨keeps, hfilter⟩ := hkeeps.run_eq_filter
  obtain rfl := hfilter docs hdocs kept hkept
  rw [harrange.run] at hsorted
  obtain rfl := Except.ok.inj hsorted
  have hboth : runStages (filters ++ sorts) docs = .ok (arrange (docs.filter keeps)) :=
    runStages_append_eq_ok.mpr ⟨_, hkept, harrange.run _⟩
  refine ⟨⟨_, hfilters, hkept⟩, ⟨_, hsorts.append hfilters, ?_⟩, (harrange.perm _).symm,
    List.filter_sublist⟩
  exact (harrange.run_swap hkeeps hdocs).mpr hboth

/-! ## The groups of a scope -/

/-- The row of a document as the response shows it. -/
def Engine.rowShown (e : Engine) (o : LoadOptions) (doc : Json) : Json :=
  e.shownRow (stripKeys (rowOf o.select doc))

/-- Level and documents fit: the selector is a name of its own, and a level of values finds neither
    arrays nor objects. -/
structure GroupLevel.Fits (g : GroupLevel) (docs : List Json) : Prop where
  dollar : startsWithDollar g.selector = false
  reserved : isReserved g.selector = false
  scalar : g.interval.any GroupInterval.isBucketed = false →
    ∀ doc ∈ docs, (valueAt g.selector doc).isScalar = true

/-- The scope narrows the sorted documents to those inside it, one by one. -/
structure Narrows (docs sorted : List Json) (level : Nat) (scope : Pipeline)
    (inside : List Json) : Prop where
  run : ∃ stages, Reads scope stages ∧ (∀ stage ∈ stages, stage.LooksAtOne) ∧
    runStages stages sorted = .ok inside
  descends : ∀ doc ∈ inside, Descends docs level doc

/-- The first level narrows to all documents. -/
theorem Prepares.narrows {e : Engine} {o : LoadOptions} {docs kept sorted : List Json}
    (h : Prepares e o docs kept sorted) : Narrows docs sorted 0 [] sorted where
  run := ⟨[], reads_nil, by simp, rfl⟩
  descends _ hdoc := .of_mem (h.sublist.subset (h.perm.mem_iff.mpr hdoc))

theorem rowShown_of_sets {e : Engine} {o : LoadOptions}
    (hselect : ∀ name ∈ o.select, isReserved name = false) {level : Nat} {doc later : Json}
    (h : Sets (levelFields level) doc later) : e.rowShown o later = e.rowShown o doc := by
  rw [Engine.rowShown, Engine.rowShown,
    stripKeys_rowOf hselect h hasNoPoint_levelFields isKeyField_levelFields]

/-- What a level answers for the documents that reach it. -/
theorem grouped_of_aggregate {before scope : Pipeline} {stages scopeStages : List Stage}
    {docs base inside out : List Json} (hbefore : Reads before stages)
    (hbase : runStages stages docs = .ok base) (hscope : Reads scope scopeStages)
    (hinside : runStages scopeStages base = .ok inside)
    {desc includeItems countSeparately : Bool} {key : Pipeline.GroupKey} {projection : Option Json}
    (h : (Collection.mk docs).aggregate (before ++ scope ++
      Pipeline.groupingStages desc includeItems countSeparately key projection) = .ok out) :
    ∃ keyStages items computed keys, Reads key.stages keyStages ∧ items.isSome = includeItems ∧
      (∀ e ∈ items, Expression.ofJson (projection.getD Pipeline.currentDocument) = .ok e) ∧
      runStages keyStages inside = .ok computed ∧ KeysOf key.field computed keys ∧
      List.Forall₂ (IsGroup key.field computed countSeparately items) keys out := by
  obtain ⟨all, hall, hrun⟩ := aggregate_eq_ok.mp h
  obtain ⟨_, grouping, hfirst, hgrouping, rfl⟩ := reads_append.mp hall
  obtain rfl := hfirst.unique (hbefore.append hscope)
  obtain ⟨reached, hreached, hout⟩ := runStages_append_eq_ok.mp hrun
  have hboth := runStages_append_eq_ok.mpr ⟨base, hbase, hinside⟩
  obtain rfl := Except.ok.inj (hreached.symm.trans hboth)
  exact run_groupingStages hgrouping hout

section Levels

variable {e : Engine} {o : LoadOptions} {docs kept sorted inside : List Json} {g : GroupLevel}
  {level : Nat} {scope : Pipeline} {found : List Group}

theorem Narrows.isObject (h : Narrows docs sorted level scope inside)
    (hdocs : ∀ doc ∈ docs, IsPlain doc) : ∀ doc ∈ inside, doc.isObject = true :=
  fun doc hdoc => (h.descends doc hdoc).isObject hdocs

/-- The rows of the groups of the last level, one list for each key. -/
theorem deepestRows_mapRows {field : String} {computed keys out : List Json}
    {countSeparately : Bool} {items : Option Expression} (hsome : items.isSome = true)
    (hselect : ∀ name ∈ o.select, startsWithDollar name = false)
    (hitems : ∀ e ∈ items, Expression.ofJson
      ((Pipeline.selectProjection o.select true).getD Pipeline.currentDocument) = .ok e)
    (hgroups : List.Forall₂ (IsGroup field computed countSeparately items) keys out)
    (hfound : out.mapM Group.ofJson = .ok found) :
    List.Forall₂ (fun key group => group.deepestRows =
      [(docsOf field computed key).map (e.rowShown o)]) keys
      (found.map (Group.mapRows fun row => e.shownRow (stripKeys row))) := by
  obtain ⟨pushed, rfl⟩ := Option.isSome_iff_exists.mp hsome
  have heval := eval_pushed hselect (hitems pushed rfl)
  rw [List.forall₂_map_right_iff]
  refine forall₂_trans ?_ hgroups (mapM_eq_ok.mp hfound)
  intro key doc group hgroup hread
  rw [Group.deepestRows_eq, Group.mapRows, Group.items_of_pushed heval hread hgroup]
  simp only [Group.items, Group.deepestRowsOf, List.map_map]
  rfl

/-- The last level spreads out the documents of a scope. -/
theorem spreads_lastLevel (hrunner : e.runner = .ofCollection ⟨docs⟩)
    (hdocs : ∀ doc ∈ docs, IsPlain doc) (hprepares : Prepares e o docs kept sorted)
    (hselect : ∀ name ∈ o.select, startsWithDollar name = false ∧ isReserved name = false)
    (hfits : g.Fits docs) (hexpanded : g.isExpanded = true)
    (hscope : Narrows docs sorted level scope inside)
    (hfound : Step.Yields (e.fetchGroups level (e.levelPipeline o g level true [] scope)) found) :
    Spreads (found.map (Group.mapRows fun row => e.shownRow (stripKeys row)))
      (inside.map (e.rowShown o)) := by
  obtain ⟨out, hout, hread⟩ := Engine.fetchGroups_yields hrunner hfound
  obtain ⟨before, hbefore, hsorted⟩ := hprepares.sorts
  obtain ⟨scopeStages, hscopeReads, -, hinside⟩ := hscope.run
  rw [Engine.levelPipeline, hexpanded, Bool.and_true, if_pos rfl, List.append_nil] at hout
  obtain ⟨keyStages, items, computed, keys, hkeyReads, hsome, hitems, hcomputed, hkeys, hgroups⟩ :=
    grouped_of_aggregate hbefore hsorted hscopeReads hinside hout
  have hsets := sets_of_keyStages hfits.dollar (hscope.isObject hdocs) hkeyReads hcomputed
  have hshown : computed.map (e.rowShown o) = inside.map (e.rowShown o) :=
    map_eq_of_forall₂ (hsets.imp fun _ _ h => rowShown_of_sets (fun name hname =>
      (hselect name hname).2) h)
  obtain ⟨hsublist, hperm⟩ := sharesOut_docsOf hkeys hshown
  have hrows := deepestRows_mapRows (e := e) hsome (fun name hname => (hselect name hname).1) hitems
    hgroups hread
  refine spreads_of_keys (hrows.imp fun key group hgroup => ?_) hperm hsublist
  rw [hgroup, List.flatten_singleton]
  exact ⟨.refl _, fun deepest hdeepest => List.mem_singleton.mp hdeepest ▸ .refl _⟩

/-- Before the scope, a level sorts and filters or filters only. -/
theorem Prepares.levelPipeline (h : Prepares e o docs kept sorted) (g : GroupLevel) (level : Nat)
    (last : Bool) (scope : Pipeline) :
    ∃ before stages base, e.levelPipeline o g level last [] scope = before ++ scope ++
        e.groupingStages g level (last && g.isExpanded) (!last)
          (Pipeline.selectProjection o.select true) ∧
      Reads before stages ∧ runStages stages docs = .ok base ∧ base.Perm sorted := by
  rw [Engine.levelPipeline, List.append_nil]
  cases last && g.isExpanded with
  | true =>
    obtain ⟨stages, hreads, hrun⟩ := h.sorts
    exact ⟨_, stages, sorted, rfl, hreads, hrun, .refl _⟩
  | false =>
    obtain ⟨stages, hreads, hrun⟩ := h.filters
    exact ⟨_, stages, kept, rfl, hreads, hrun, h.perm⟩

/-- The keys of a level share out the documents of its scope; a group of the last level counts those
    of its key. -/
theorem sharesOut_level {last : Bool} (shown : Json → Json)
    (hrunner : e.runner = .ofCollection ⟨docs⟩)
    (hdocs : ∀ doc ∈ docs, IsPlain doc) (hprepares : Prepares e o docs kept sorted)
    (hshown : ∀ doc later, Sets (levelFields level) doc later → shown later = shown doc)
    (hfits : g.Fits docs) (hscope : Narrows docs sorted level scope inside)
    (hfound : Step.Yields (e.fetchGroups level (e.levelPipeline o g level last [] scope)) found) :
    ∃ parts, SharesOut docs level shown (e.narrowingStages g level) inside
        (found.map Group.key) parts ∧
      (last = true →
        ∀ group ∈ found, group.count = documentCount (parts group.key).length) := by
  obtain ⟨out, hout, hread⟩ := Engine.fetchGroups_yields hrunner hfound
  obtain ⟨before, stages, base, hpipeline, hbefore, hbase, hperm⟩ :=
    hprepares.levelPipeline g level last scope
  obtain ⟨scopeStages, hscopeReads, hlooks, hinside⟩ := hscope.run
  obtain ⟨inside', hinside', hperm'⟩ := (isLocal_runStages hlooks).perm hperm.symm hinside
  rw [hpipeline] at hout
  obtain ⟨keyStages, items, computed, keys, hkeyReads, -, -, hcomputed, hkeys, hgroups⟩ :=
    grouped_of_aggregate hbefore hbase hscopeReads hinside' hout
  have hgroupOf : List.Forall₂ (fun key group => Group.key group = id key ∧
      (last = true → group.count = documentCount (docsOf (keyField level) computed key).length))
      keys found := by
    refine forall₂_trans ?_ hgroups (mapM_eq_ok.mp hread)
    intro key doc group hgroup hgroupRead
    obtain ⟨hkey, hcount, -⟩ := Group.ofJson_eq_ok hgroupRead hgroup
    exact ⟨hkey, fun hlast => hcount (by rw [hlast]; rfl)⟩
  have hfoundKeys : found.map Group.key = keys := by
    rw [map_eq_of_forall₂ (hgroupOf.imp fun _ _ h => h.1), List.map_id]
  obtain ⟨parts, hshares, hsizes⟩ : ∃ parts,
      SharesOut docs level shown (e.narrowingStages g level) inside keys parts ∧
        ∀ key, (docsOf (keyField level) computed key).length = (parts key).length := by
    unfold Engine.narrowingStages
    cases hany : g.interval.any GroupInterval.isBucketed with
    | true =>
      obtain ⟨interval, hinterval, hbucketed⟩ := (Option.any_eq_true _ _).mp hany
      rw [hinterval] at hkeyReads ⊢
      exact sharesOut_bucketed hshown hfits.dollar hbucketed hdocs hscope.descends hperm'.symm
        hkeyReads hcomputed hkeys
    | false =>
      exact sharesOut_values hfits.dollar hfits.reserved hany (hfits.scalar hany) hdocs
        hscope.descends hperm'.symm hkeyReads hcomputed hkeys
  rw [hfoundKeys]
  refine ⟨parts, hshares, fun hlast group hgroup => ?_⟩
  obtain ⟨key, -, hkey, hcount⟩ := exists_of_mem_right hgroupOf hgroup
  rw [hcount hlast, hsizes, hkey]
  rfl

/-- Narrowing further, to the key of a group, is narrowing to its part. -/
theorem Narrows.append {keys : List Json} {parts : Json → List Json} {shown : Json → Json}
    {narrow : Json → Pipeline} (h : Narrows docs sorted level scope inside)
    (hshares : SharesOut docs level shown narrow inside keys parts) {key : Json}
    (hkey : key ∈ keys) : Narrows docs sorted (level + 1) (scope ++ narrow key) (parts key) where
  run := by
    obtain ⟨a, ha, halooks, harun⟩ := h.run
    obtain ⟨b, hb, hblooks, hbrun⟩ := hshares.runs key hkey
    exact ⟨a ++ b, ha.append hb, List.forall_mem_append.mpr ⟨halooks, hblooks⟩,
      runStages_append_eq_ok.mpr ⟨inside, harun, hbrun⟩⟩
  descends := hshares.descends key hkey

end Levels

/-- The last level is expanded, and the levels above it are read. -/
def ReadsRows (config : Config) (levels : List GroupLevel) : Prop :=
  (∀ g ∈ levels.getLast?, g.isExpanded = true) ∧
    ∀ g ∈ levels.dropLast, (config.materializeCollapsedGroups || g.isExpanded) = true

/-- The groups of a scope, down to the last level, spread out the rows of its documents. -/
theorem spreads_queryGroups {e : Engine} {o : LoadOptions} {docs kept sorted : List Json}
    (hrunner : e.runner = .ofCollection ⟨docs⟩) (hdocs : ∀ doc ∈ docs, IsPlain doc)
    (hprepares : Prepares e o docs kept sorted)
    (hselect : ∀ name ∈ o.select, startsWithDollar name = false ∧ isReserved name = false)
    {levels : List GroupLevel} (hlevels : levels ≠ []) (hreads : ReadsRows e.config levels)
    (hfits : ∀ g ∈ levels, g.Fits docs) {level : Nat} {scope : Pipeline} {inside : List Json}
    (hscope : Narrows docs sorted level scope inside) {groups : List Group}
    (h : Step.Yields (e.queryGroups o levels level [] scope) groups) :
    Spreads groups (inside.map (e.rowShown o)) := by
  induction levels generalizing level scope inside groups with
  | nil => exact absurd rfl hlevels
  | cons g inner ih =>
    obtain ⟨found, filled, hfound, hfilled, hsummarized⟩ := Engine.queryGroups_yields h
    have hrows : Group.deepestRowsIn groups = Group.deepestRowsIn filled :=
      Group.deepestRowsIn_congr (hsummarized.imp fun _ _ h => (Engine.summarizeGroup_yields h).1)
    have hfit := hfits g List.mem_cons_self
    suffices hspreads : Spreads filled (inside.map (e.rowShown o)) from
      ⟨hrows ▸ hspreads.perm, hrows ▸ hspreads.sublist⟩
    cases inner with
    | nil =>
      have hexpanded : g.isExpanded = true := hreads.1 g rfl
      have hshown : filled = found.map
          (Group.mapRows fun row => e.shownRow (stripKeys row)) := by
        rw [← List.map_id filled]
        refine map_eq_of_forall₂ (hfilled.imp fun group out hout => ?_)
        rw [Engine.fillGroup_last hout, if_pos hexpanded]
        rfl
      rw [hshown]
      exact spreads_lastLevel hrunner hdocs hprepares hselect hfit hexpanded hscope hfound
    | cons next rest =>
      have hopen := hreads.2 g List.mem_cons_self
      have hshown : ∀ doc later, Sets (levelFields level) doc later →
          e.rowShown o later = e.rowShown o doc := fun _ _ =>
        rowShown_of_sets fun name hname => (hselect name hname).2
      obtain ⟨parts, hshares, -⟩ := sharesOut_level (e.rowShown o) hrunner hdocs hprepares hshown
        hfit hscope hfound
      refine spreads_of_keys ?_ hshares.perm hshares.sublist
      rw [List.forall₂_map_left_iff]
      -- Each group holds the groups of its own scope, which spread out its part.
      refine forall₂_imp_of_mem hfilled fun group hgroup out hout => ?_
      obtain ⟨sub, hsub, rfl⟩ := Engine.fillGroup_open (List.cons_ne_nil next rest) hopen hout
      have hpart := ih nofun ⟨hreads.1, fun g' hg' => hreads.2 g' (List.mem_cons_of_mem _ hg')⟩
        (fun g' hg' => hfits g' (List.mem_cons_of_mem _ hg'))
        (hscope.append hshares (List.mem_map_of_mem hgroup)) hsub
      exact ⟨hpart.perm, hpart.sublist⟩

/-! ## Both requests -/

theorem pagingStages_none : Pipeline.pagingStages 0 0 = [] := rfl

/-- The rows of a flat request are those of the documents that are filtered and sorted. -/
theorem rows_of_queryRows {e : Engine} {o : LoadOptions} {docs : List Json}
    (hrunner : e.runner = .ofCollection ⟨docs⟩) (hdocs : ∀ doc ∈ docs, IsPlain doc)
    (hskip : o.skip = 0) (htake : o.take = 0)
    (hselect : ∀ name ∈ o.select, startsWithDollar name = false ∧ isReserved name = false)
    {r : Response} (h : Step.Yields (e.queryRows o) r) :
    ∃ kept sorted, Prepares e o docs kept sorted ∧
      r.data = .rows (sorted.map (e.rowShown o)) := by
  obtain ⟨_, -, h⟩ := h.bind
  obtain ⟨rows, hrows, h⟩ := h.bind
  rw [hrunner] at hrows
  have haggregate := hrows.execute
  rw [Engine.rowsPipeline, hskip, htake, pagingStages_none, List.append_nil] at haggregate
  obtain ⟨all, hall, hrun⟩ := aggregate_eq_ok.mp haggregate
  obtain ⟨_, selects, hfirst, hselects, rfl⟩ := reads_append.mp hall
  obtain ⟨filters, sorts, hfilters, hsorts, rfl⟩ := reads_append.mp hfirst
  obtain ⟨sorted, hsorted, hselected⟩ := runStages_append_eq_ok.mp hrun
  obtain ⟨kept, hkept, hsorted⟩ := runStages_append_eq_ok.mp hsorted
  have hprepares := prepares_of_run hdocs hfilters hkept hsorts hsorted
  obtain ⟨_, hreads, hrowsOf⟩ := run_selectStages fun name hname => (hselect name hname).1
  obtain rfl := hselects.unique hreads
  rw [hrowsOf] at hselected
  refine ⟨kept, sorted, hprepares, ?_⟩
  rw [Engine.data_of_addTotals h, ← Except.ok.inj hselected, List.map_map]
  refine congrArg ResponseData.rows (List.map_congr_left fun doc hdoc => ?_)
  have hplain := hdocs doc (hprepares.sublist.subset (hprepares.perm.mem_iff.mpr hdoc))
  rw [Engine.rowShown, (isPlain_rowOf (fun name hname => (hselect name hname).2) hplain).stripKeys]
  rfl

/-- Grouped and flat requests agree on their rows.

    The documents have no reserved names, the levels fit them and are read down to the rows, and
    nothing is skipped. Then the rows of the deepest groups are the rows of the flat request, each
    once, and those of each deepest group come in the order that they have there. -/
theorem grouped_rows_perm {e : Engine} {o : LoadOptions} {docs : List Json}
    (hrunner : e.runner = .ofCollection ⟨docs⟩) (hdocs : ∀ doc ∈ docs, IsPlain doc)
    (hgroup : o.group ≠ []) (hskip : o.skip = 0) (htake : o.take = 0)
    (hreads : ReadsRows e.config o.group)
    (hselect : ∀ name ∈ o.select, startsWithDollar name = false ∧ isReserved name = false)
    (hfits : ∀ g ∈ o.group, g.Fits docs) {s s' t t' : Session} {grouped flat : Response}
    (hgrouped : (e.queryGrouped o).outcome s = (.ok grouped, s'))
    (hflat : (e.queryRows { o with group := [] }).outcome t = (.ok flat, t')) :
    ∃ groups rows, grouped.data = .groups groups ∧ flat.data = .rows rows ∧
      (Group.deepestRowsIn groups).flatten.Perm rows ∧
      ∀ part ∈ Group.deepestRowsIn groups, part.Sublist rows := by
  obtain ⟨kept, sorted, hprepares, hrows⟩ :=
    rows_of_queryRows hrunner hdocs hskip htake hselect ⟨t, t', hflat⟩
  have hprepares : Prepares e o docs kept sorted :=
    ⟨hprepares.filters, hprepares.sorts, hprepares.perm, hprepares.sublist⟩
  obtain ⟨groups, counted, hgroups, hcounted, htotals⟩ :=
    Engine.queryGrouped_yields ⟨s, s', hgrouped⟩
  rw [hskip, htake, pagingStages_none] at hgroups
  have hspreads := spreads_queryGroups hrunner hdocs hprepares hselect hgroup hreads hfits
    hprepares.narrows hgroups
  exact ⟨groups, _, Engine.data_of_totals hcounted htotals, hrows, hspreads.perm,
    hspreads.sublist⟩

/-- Two documents that share the value of `a` and a bucket of `b`. -/
def twoDocuments : List Json :=
  [.object [("a", .ofUInt64 7), ("b", .ofUInt64 1)],
    .object [("a", .ofUInt64 7), ("b", .ofUInt64 2)]]

/-- Groups by `a`, and inside them by `b` in buckets of five. -/
def twoLevels : LoadOptions where
  group := [⟨"a", false, false, none⟩, ⟨"b", false, true, some (.numeric (.ofUInt64 5))⟩]

def overTwoDocuments : Engine where
  runner := .ofCollection ⟨twoDocuments⟩

/-- What the first level answers: the group of all documents. -/
theorem aggregate_firstLevel :
    (Collection.mk twoDocuments).aggregate (overTwoDocuments.levelPipeline twoLevels
        ⟨"a", false, false, none⟩ 0 false [] []) =
      .ok [.object [("key", .ofUInt64 7), ("items", .null)]] := by
  have hpipeline : overTwoDocuments.levelPipeline twoLevels ⟨"a", false, false, none⟩ 0 false
      [] [] = Pipeline.groupingStages false false true (groupKey "a" none 0 0) none := rfl
  have hreads : Reads (Pipeline.groupingStages false false true (groupKey "a" none 0 0) none) _ :=
    reads_levelStages (reads_keyStages_values rfl rfl 0 0) Option.isSome_none nofun
  rw [hpipeline, aggregate_of_reads hreads]
  decide +kernel

/-- What the second level answers inside that group: its only bucket, with both documents. -/
theorem aggregate_secondLevel :
    (Collection.mk twoDocuments).aggregate (overTwoDocuments.levelPipeline twoLevels
        ⟨"b", false, true, some (.numeric (.ofUInt64 5))⟩ 1 true []
        (overTwoDocuments.narrowingStages ⟨"a", false, false, none⟩ 0 (.ofUInt64 7))) =
      .ok [.object [("key", .ofUInt64 0), ("count", .ofUInt64 2),
        ("items", .array (twoDocuments.map (·.setPath "___group_key_1" (.ofUInt64 0))))]] := by
  have hpipeline : overTwoDocuments.levelPipeline twoLevels
      ⟨"b", false, true, some (.numeric (.ofUInt64 5))⟩ 1 true []
      (overTwoDocuments.narrowingStages ⟨"a", false, false, none⟩ 0 (.ofUInt64 7)) =
    Pipeline.narrowingStages "a" none 0 0 (.ofUInt64 7) ++ Pipeline.groupingStages false true false
      (groupKey "b" (some (.numeric (.ofUInt64 5))) 1 0) none ++ [] := rfl
  have hgrouping : Reads (Pipeline.groupingStages false true false
      (groupKey "b" (some (.numeric (.ofUInt64 5))) 1 0) none) _ :=
    reads_levelStages (reads_keyStages_five rfl 1) rfl ofJson_currentDocument
  rw [hpipeline, List.append_nil,
    aggregate_of_reads ((reads_narrowingStages_values rfl 0 0 _).append hgrouping)]
  decide +kernel

/-- The group of the second level, with its rows. -/
def bucketOfTwo : Group := .mk (.ofUInt64 0) 2 (.rows twoDocuments) none

theorem queryGroups_secondLevel :
    Step.Succeeds (overTwoDocuments.queryGroups twoLevels
      [⟨"b", false, true, some (.numeric (.ofUInt64 5))⟩] 1 []
      (overTwoDocuments.narrowingStages ⟨"a", false, false, none⟩ 0 (.ofUInt64 7)))
      [bucketOfTwo] := by
  have hfound := Engine.fetchGroups_succeeds (e := overTwoDocuments) rfl 1 aggregate_secondLevel rfl
  rw [Engine.queryGroups]
  exact hfound.bind ((Step.Succeeds.pure _).bind (.pure _))

theorem queryGroups_twoLevels :
    Step.Succeeds (overTwoDocuments.queryGroups twoLevels twoLevels.group 0 [] [])
      [.mk (.ofUInt64 7) 1 (.groups [bucketOfTwo]) none] := by
  have hfound := Engine.fetchGroups_succeeds (e := overTwoDocuments) rfl 0 aggregate_firstLevel rfl
  have hinner : Step.Succeeds ([Group.mk (.ofUInt64 7) 0 .absent none].mapM fun group => do
      return group.withGroups (← overTwoDocuments.queryGroups twoLevels
        [⟨"b", false, true, some (.numeric (.ofUInt64 5))⟩] 1 []
        (overTwoDocuments.narrowingStages ⟨"a", false, false, none⟩ 0 group.key)))
      [.mk (.ofUInt64 7) 1 (.groups [bucketOfTwo]) none] :=
    .mapM (.cons (queryGroups_secondLevel.bind (.pure _)) .nil)
  exact hfound.bind (hinner.bind (.pure _))

theorem queryGrouped_twoLevels :
    Step.Succeeds (overTwoDocuments.queryGrouped twoLevels)
      { data := .groups [.mk (.ofUInt64 7) 1 (.groups [bucketOfTwo]) none] } :=
  Engine.queryGrouped_succeeds queryGroups_twoLevels (.pure _) (.pure _)

theorem queryRows_twoLevels :
    Step.Succeeds (overTwoDocuments.queryRows { twoLevels with group := [] })
      { data := .rows twoDocuments } := by
  have hrows : (Collection.mk twoDocuments).aggregate [] = .ok twoDocuments := rfl
  exact (Step.Succeeds.pure _).bind ((Step.Succeeds.execute hrows).bind (.pure _))

theorem fits_twoLevels : ∀ g ∈ twoLevels.group, g.Fits twoDocuments := by
  simp only [twoLevels, List.mem_cons, List.not_mem_nil, or_false, forall_eq_or_imp, forall_eq]
  exact ⟨⟨rfl, rfl, fun _ => by decide⟩,
    ⟨rfl, rfl, fun hvalues => absurd hvalues (by decide +kernel)⟩⟩

theorem grouped_rows_of_twoLevels :
    ∃ (groups : List Group) (rows : List Json),
      ((overTwoDocuments.queryGrouped twoLevels).outcome {}).1 = .ok { data := .groups groups } ∧
      ((overTwoDocuments.queryRows { twoLevels with group := [] }).outcome {}).1 =
        .ok { data := .rows rows } ∧
      (Group.deepestRowsIn groups).flatten.Perm rows ∧
      ∀ part ∈ Group.deepestRowsIn groups, part.Sublist rows := by
  obtain ⟨s', hgrouped⟩ := queryGrouped_twoLevels {}
  obtain ⟨t', hflat⟩ := queryRows_twoLevels {}
  have hplain : ∀ doc ∈ twoDocuments, IsPlain doc := by decide
  have hreads : ReadsRows overTwoDocuments.config twoLevels.group :=
    ⟨by simp [twoLevels], by simp [twoLevels, overTwoDocuments]⟩
  obtain ⟨groups, rows, hgroups, hrows, hperm, hsublist⟩ := grouped_rows_perm rfl hplain (by decide)
    rfl rfl hreads (by simp [twoLevels]) fits_twoLevels hgrouped hflat
  cases hgroups
  cases hrows
  exact ⟨_, _, by rw [hgrouped], by rw [hflat], hperm, hsublist⟩

end GridQuery
