import Mathlib
import GridQuery.Proofs.Answering
import GridQuery.Proofs.GroupedRows
import GridQuery.Proofs.Passing

/-!
# Requests that never fail

What is stored makes no request fail, with one exception: a level of values is narrowed by putting
the key itself into a predicate, and a key that is an object of operators is read as those. So a
request succeeds if its keys can be asked for.

Results:
* `gives_groupingStages`: the groups of a level can be read, and their keys are of the kind that the
  stored values are.
* `neverFails_queryGroups`: the groups of all levels are answered if their keys can be asked for.
* `query_never_fails`: so is the request.
* `query_fails_on_identifier`: an identifier that is a key ends a request with an error.
-/

namespace GridQuery

open Collection (aggregate_of_reads runStages_append_eq_ok)
open Pipeline (groupKey keyField)

/-! ## Filters of a request -/

/-- What a request filters by: its search, if that is complete and not blank, and its filter. -/
def LoadOptions.expressions (o : LoadOptions) : List Json :=
  (match o.searchFields, o.searchOperation, o.searchValue with
    | some fields, some operation, some value =>
      if operation.isEmpty || Pipeline.isBlank value then []
      else (Pipeline.searchExpression fields operation value).toList
    | _, _, _ => []) ++ o.filter.toList

theorem filterStages_eq (e : Engine) (o : LoadOptions) :
    e.filterStages o =
      o.expressions.flatMap (Pipeline.filterStages · e.config.timezoneOffset) := by
  rw [Engine.filterStages, LoadOptions.expressions, List.flatMap_append]
  congr 1
  swap
  · cases o.filter <;> simp
  cases o.searchFields with
  | none => rfl
  | some fields =>
    cases o.searchOperation with
    | none => rfl
    | some operation =>
      cases o.searchValue with
      | none => rfl
      | some value =>
        dsimp only [Pipeline.searchStages]
        split_ifs
        · rfl
        · cases Pipeline.searchExpression fields operation value <;> simp

/-! ## Groups that can be read -/

section Groups

variable {docs : List Json} {g : GroupLevel} {level : Nat} {offset : Int64} {P : Json → Prop}

/-- All that may be the key of a level is of some kind: numbers and null and, if the level is one of
    values, what is stored under the selector or, where there is nothing, under the key field. -/
structure KeysAre (P : Json → Prop) (docs : List Json) (g : GroupLevel) (level : Nat) : Prop where
  computed : ∀ value, IsKeyValue value → P value
  stored : g.interval.any GroupInterval.isBucketed = false → ∀ doc ∈ docs,
    P (valueAt g.selector doc) ∧ P (valueAt (keyField level) doc)

theorem KeysAre.withKey (h : KeysAre P docs g level)
    (hvalues : g.interval.any GroupInterval.isBucketed = false) {doc : Json}
    (hdoc : Stems docs doc) :
    P (valueAt (keyField level) (withKey g.selector (keyField level) doc)) := by
  unfold GridQuery.withKey
  split
  · next value hvalue =>
    obtain ⟨entries, rfl, -⟩ := hdoc.names
    have hkey := hdoc.forall_valueAt (fun doc hdoc => (h.stored hvalues doc hdoc).1) h.computed
    rw [valueAt, hvalue, Option.getD_some] at hkey
    rwa [valueAt, Json.resolve?_setPath_self (Pipeline.hasNoPoint_keyField level),
      Option.getD_some]
  · exact hdoc.forall_valueAt (fun doc hdoc => (h.stored hvalues doc hdoc).2) h.computed

/-- The keys of a level are computed on the way, and they are of the kind that the stored values
    are. -/
theorem gives_keyStages (hselector : startsWithDollar g.selector = false)
    (hrange : BucketsInRange docs g.selector g.interval offset) (hkeys : KeysAre P docs g level) :
    Gives docs (groupKey g.selector g.interval level offset).stages fun computed =>
      ∀ doc ∈ computed, P (valueAt (keyField level) doc) := by
  cases hany : g.interval.any GroupInterval.isBucketed with
  | false =>
    refine ⟨_, reads_keyStages_values hselector hany level offset, fun way hway =>
      ⟨_, run_keyStages_values g.selector (keyField level) way, fun later hlater => ?_⟩⟩
    obtain ⟨doc, hdoc, rfl⟩ := List.mem_map.mp hlater
    exact hkeys.withKey hany (hway doc hdoc)
  | true =>
    obtain ⟨bucket, hbucket, hbucketed⟩ := (Option.any_eq_true _ _).mp hany
    rw [hbucket] at hrange ⊢
    obtain ⟨stages, hreads, hcomputes⟩ := computes_keyStages hselector hbucketed level offset
    obtain ⟨_, hreads', hrun⟩ := passes_keyStages hselector hrange hbucketed level
    obtain rfl := hreads.unique hreads'
    refine ⟨stages, hreads, fun way hway => ?_⟩
    obtain ⟨computed, hcomputed, -⟩ := hrun way hway
    refine ⟨computed, hcomputed, fun later hlater => ?_⟩
    obtain ⟨doc, hdoc, -, key, hkey, hlaterKey⟩ := exists_of_mem_right
      (hcomputes.run (fun doc hdoc => (hway doc hdoc).names.isObject) hcomputed) hlater
    rw [valueAt, hlaterKey]
    exact hkeys.computed key (isKeyValue_bucketReading hbucketed hkey)

/-- The documents are those of groups, with keys of some kind. -/
def AreGroups (P : Json → Prop) (out : List Json) : Prop :=
  ∀ doc ∈ out, ∃ group, Group.ofJson doc = .ok group ∧ P group.key

theorem AreGroups.exists_groups {out : List Json} (h : AreGroups P out) :
    ∃ groups, out.mapM Group.ofJson = .ok groups ∧ ∀ group ∈ groups, P group.key := by
  have hof : ∀ doc ∈ out, ∃ group, Group.ofJson doc = .ok group := fun doc hdoc =>
    (h doc hdoc).imp fun _ hgroup => hgroup.1
  obtain ⟨groups, hread⟩ := exists_mapM_eq_ok hof
  refine ⟨groups, hread, fun group hgroup => ?_⟩
  obtain ⟨doc, hdoc, hof⟩ := exists_of_mem_right (mapM_eq_ok.mp hread) hgroup
  obtain ⟨_, hof', hkey⟩ := h doc hdoc
  exact Except.ok.inj (hof'.symm.trans hof) ▸ hkey

theorem IsGroup.exists_group {field : String} {computed : List Json} {countSeparately : Bool}
    {items : Option Expression} {key doc : Json}
    (h : IsGroup field computed countSeparately items key doc) :
    ∃ group, Group.ofJson doc = .ok group ∧ group.key = key := by
  have hcount := Group.countOf_isGroup h
  refine ⟨.mk key (if countSeparately then 0
    else documentCount (docsOf field computed key).length) (Group.itemsOf doc) none, ?_, rfl⟩
  rw [Group.ofJson, h.key_eq]
  exact map_eq_ok.mpr ⟨_, hcount, rfl⟩

/-- What is pushed for the rows of a group can be read and has a value in every document. -/
def CanPush (projection : Option Json) : Prop :=
  ∃ e, Expression.ofJson (projection.getD Pipeline.currentDocument) = .ok e ∧
    ∀ doc, ∃ row, e.eval doc = .ok row

/-- The groups of a level can be read, and their keys are of the kind that the stored values are. -/
theorem gives_groupingStages (hselector : startsWithDollar g.selector = false)
    (hrange : BucketsInRange docs g.selector g.interval offset) (hkeys : KeysAre P docs g level)
    {includeItems : Bool} {projection : Option Json}
    (hpush : includeItems = true → CanPush projection) (desc countSeparately : Bool) :
    Gives docs (Pipeline.groupingStages desc includeItems countSeparately
      (groupKey g.selector g.interval level offset) projection) (AreGroups P) := by
  obtain ⟨items, hsome, hitems⟩ : ∃ items : Option Expression, items.isSome = includeItems ∧
      ∀ e ∈ items, Expression.ofJson (projection.getD Pipeline.currentDocument) = .ok e ∧
        ∀ doc, ∃ row, e.eval doc = .ok row := by
    cases includeItems with
    | false => exact ⟨none, rfl, by simp⟩
    | true =>
      obtain ⟨e, he⟩ := hpush rfl
      exact ⟨some e, rfl, fun _ hmem => Option.some.inj hmem ▸ he⟩
  obtain ⟨keyStages, hreads, hrun⟩ := gives_keyStages hselector hrange hkeys
  refine ⟨_, reads_levelStages hreads hsome fun e he => (hitems e he).1, fun way hway => ?_⟩
  obtain ⟨computed, hcomputed, hcomputedKeys⟩ := hrun way hway
  have hrows : ∀ e ∈ items, ∀ doc ∈ computed, ∃ row, e.eval doc = .ok row := fun e he doc _ =>
    (hitems e he).2 doc
  obtain ⟨out, hout⟩ := exists_run_levelStages hrows desc countSeparately (keyField level)
  obtain ⟨keys, hkeysOf, hgroups⟩ := run_levelStages hout
  refine ⟨out, runStages_append_eq_ok.mpr ⟨computed, hcomputed, hout⟩, fun doc hdoc => ?_⟩
  obtain ⟨key, hkey, hgroup⟩ := exists_of_mem_right hgroups hdoc
  obtain ⟨later, hlater, rfl⟩ := hkeysOf.exists_doc key hkey
  obtain ⟨group, hread, heq⟩ := hgroup.exists_group
  exact ⟨group, hread, heq ▸ hcomputedKeys later hlater⟩

/-- A page of groups is one of groups. -/
theorem Gives.page {p : Pipeline} (h : Gives docs p (AreGroups P)) (skip take : UInt64) :
    Gives docs (p ++ Pipeline.pagingStages skip take) (AreGroups P) := by
  obtain ⟨stages, hreads, hrun⟩ := h
  obtain ⟨paging, hpaging, hpage⟩ := exists_reads_pagingStages skip take
  refine ⟨stages ++ paging, hreads.append hpaging, fun way hway => ?_⟩
  obtain ⟨all, hall, hgroups⟩ := hrun way hway
  obtain ⟨out, hout, hsub⟩ := hpage all
  exact ⟨out, runStages_append_eq_ok.mpr ⟨all, hall, hout⟩, fun doc hdoc =>
    hgroups doc (hsub.subset hdoc)⟩

end Groups

/-! ## Requests -/

/-- A request that nothing but what is stored can make fail: no name begins with a dollar sign, no
    text is compared, and no date leaves the range. -/
structure Admissible (e : Engine) (o : LoadOptions) (docs : List Json) : Prop where
  levels : ∀ g ∈ o.group, startsWithDollar g.selector = false
  groupSummary : ∀ s ∈ o.groupSummary, startsWithDollar s.selector = false
  totalSummary : ∀ s ∈ o.totalSummary, startsWithDollar s.selector = false
  select : ∀ name ∈ o.select, startsWithDollar name = false
  order : ∀ expr ∈ o.expressions, ∀ filter ∈ Filter.ofJson? expr,
    Filter.ComparesByOrder filter.comparisons
  parts : ∀ expr ∈ o.expressions, ∀ filter ∈ Filter.ofJson? expr, ∀ doc ∈ docs,
    filter.partsInRange e.config.timezoneOffset doc = true
  buckets : ∀ g ∈ o.group, BucketsInRange docs g.selector g.interval e.config.timezoneOffset

/-- The keys of levels can be asked for. A level is narrowed to its keys if there are levels inside
    it or if its groups are summarized. If it is not bucketed, its keys are what is stored under its
    selector or, where there is nothing, under its key field. -/
def KeysCanBeAsked (docs : List Json) (summarized : Prop) : List GroupLevel → Nat → Prop
  | [], _ => True
  | g :: inner, level =>
    ((inner ≠ [] ∨ summarized) → g.interval.any GroupInterval.isBucketed = false →
      ∀ doc ∈ docs, isAskable (valueAt g.selector doc) = true ∧
        isAskable (valueAt (keyField level) doc) = true) ∧
    KeysCanBeAsked docs summarized inner (level + 1)

/-- From every session the step succeeds. -/
def Step.NeverFails {α : Type} (step : Step α) : Prop :=
  Step.Answers (fun _ => True) step fun _ => True

section Engine

variable {e : Engine} {o : LoadOptions} {docs : List Json}

theorem passes_requestStages (h : Admissible e o docs) : Passes docs (e.filterStages o) := by
  rw [filterStages_eq]
  exact .flatMap fun expr hexpr => passes_filterStages (h.order expr hexpr) (h.parts expr hexpr)

/-- The groups of a level inside a scope can be read. -/
theorem gives_levelPipeline (h : Admissible e o docs) {g : GroupLevel} (hg : g ∈ o.group)
    {level : Nat} {P : Json → Prop} (hkeys : KeysAre P docs g level) (last : Bool)
    {scope : Pipeline} (hscope : Passes docs scope) (skip take : UInt64) :
    Gives docs (e.levelPipeline o g level last (Pipeline.pagingStages skip take) scope)
      (AreGroups P) := by
  have hsort : Passes docs (if (last && g.isExpanded) = true then Pipeline.sortStages o.sort
      else []) := by
    split_ifs
    · exact passes_sortStages o.sort
    · exact .nil
  have hpush : CanPush (Pipeline.selectProjection o.select true) := by
    obtain ⟨row, hread, heval⟩ := exists_pushed h.select
    exact ⟨row, hread, fun doc => ⟨_, heval doc⟩⟩
  have hgrouping := gives_groupingStages (h.levels g hg) (h.buckets g hg) hkeys
    (fun _ : (last && g.isExpanded) = true => hpush) g.desc !last
  exact (((hsort.append (passes_requestStages h)).append hscope).andThen hgrouping).page skip take

/-- What counts the groups of a level inside a scope runs. -/
theorem gives_countedGroups (h : Admissible e o docs) {g : GroupLevel} (hg : g ∈ o.group)
    (level : Nat) (countSeparately : Bool) {p : Pipeline} (hp : Passes docs p) :
    Gives docs (p ++ e.groupingStages g level false countSeparately none)
      (AreGroups fun _ => True) :=
  hp.andThen (gives_groupingStages (h.levels g hg) (h.buckets g hg)
    ⟨fun _ _ => trivial, fun _ _ _ => ⟨trivial, trivial⟩⟩
    (fun hitems => absurd hitems Bool.false_ne_true) g.desc countSeparately)

variable (hrunner : e.runner = .ofCollection ⟨docs⟩) (hdocs : ∀ doc ∈ docs, HasNames doc)

include hrunner hdocs

theorem neverFails_count {p : Pipeline} {post : List Json → Prop} (h : Gives docs p post) :
    Step.NeverFails (Step.count e.runner (p ++ Pipeline.countStages)) := by
  obtain ⟨out, hout, -⟩ := h.aggregate hdocs
  rw [hrunner]
  exact (Step.Answers.count hout).imp fun _ _ => trivial

theorem neverFails_summarize {p : Pipeline} (hp : Passes docs p) {summaries : List Summary}
    (hsummaries : ∀ s ∈ summaries, startsWithDollar s.selector = false) :
    Step.NeverFails
      (Step.summarize e.runner summaries (p ++ Pipeline.summaryStages summaries)) := by
  obtain ⟨stages, hreads, hrun⟩ := exists_reads_summaryStages fun s hs _ => hsummaries s hs
  have hsummary : Gives docs (Pipeline.summaryStages summaries) fun _ => True :=
    ⟨stages, hreads, fun way _ => (hrun way).imp fun _ hout => ⟨hout, trivial⟩⟩
  obtain ⟨out, hout, -⟩ := (hp.andThen hsummary).aggregate hdocs
  rw [hrunner]
  exact (Step.Answers.summarize hout).imp fun _ _ => trivial

/-- The groups of a level are fetched, and their keys are of the kind that the stored values are. -/
theorem answers_fetchLevel (h : Admissible e o docs) {g : GroupLevel} (hg : g ∈ o.group)
    {level : Nat} {P : Json → Prop} (hkeys : KeysAre P docs g level) (last : Bool)
    {scope : Pipeline} (hscope : Passes docs scope) (skip take : UInt64) :
    Step.Answers (fun _ => True) (e.fetchGroups level
        (e.levelPipeline o g level last (Pipeline.pagingStages skip take) scope))
      fun found => ∀ group ∈ found, P group.key := by
  obtain ⟨out, hout, hgroups⟩ :=
    (gives_levelPipeline h hg hkeys last hscope skip take).aggregate hdocs
  obtain ⟨found, hread, hfound⟩ := hgroups.exists_groups
  refine (Engine.answers_fetchGroups hrunner level hout hread).imp ?_
  rintro _ rfl
  exact hfound

/-- A group is filled if the groups inside it are answered. -/
theorem answers_fillGroup_of_inner (h : Admissible e o docs) {g : GroupLevel}
    {inner : List GroupLevel} (hlevels : inner ⊆ o.group) {level : Nat} {narrowed : Pipeline}
    (hnarrowed : inner ≠ [] → Passes docs narrowed)
    (hinner : inner ≠ [] → Step.NeverFails (e.queryGroups o inner (level + 1) [] narrowed))
    (group : Group) :
    Step.Answers (fun _ => True) (e.fillGroup o g inner level narrowed group)
      fun full => full.key = group.key := by
  cases inner with
  | nil =>
    refine .pure ?_
    split_ifs
    · exact Group.key_mapRows _ group
    · rfl
  | cons next rest =>
    rw [Engine.fillGroup]
    split_ifs
    · exact (hinner (List.cons_ne_nil next rest)).bind fun groups _ => .pure rfl
    · have hcounted := gives_countedGroups h (hlevels List.mem_cons_self) (level + 1) true
        ((passes_requestStages h).append (hnarrowed (List.cons_ne_nil next rest)))
      exact (neverFails_count hrunner hdocs hcounted).bind fun count _ => .pure rfl

/-- A group is summarized if it can be narrowed to. -/
theorem neverFails_summarizeGroup (h : Admissible e o docs) {inside : Json → Pipeline}
    {group : Group} (hinside : o.groupSummary ≠ [] → Passes docs (inside group.key)) :
    Step.NeverFails (e.summarizeGroup o inside group) := by
  unfold Engine.summarizeGroup
  split_ifs with hempty
  · exact .pure trivial
  have hpasses := (passes_requestStages h).append (hinside (by simpa using hempty))
  refine (Step.Answers.acquireSummary fun _ _ => trivial).bind fun granted _ => ?_
  cases granted with
  | true =>
    exact (neverFails_summarize hrunner hdocs hpasses h.groupSummary).bind fun _ _ => .pure trivial
  | false => exact .measure _ (.pure trivial)

/-- The groups of all levels are answered if their keys can be asked for: what fills a group or
    summarizes it is narrowed to its key, and such a key was stored or is a number or null. -/
theorem neverFails_queryGroups (h : Admissible e o docs) {levels : List GroupLevel}
    (hne : levels ≠ []) (hlevels : levels ⊆ o.group) {level : Nat}
    (hkeys : KeysCanBeAsked docs (o.groupSummary ≠ []) levels level) {scope : Pipeline}
    (hscope : Passes docs scope) (skip take : UInt64) :
    Step.NeverFails (e.queryGroups o levels level (Pipeline.pagingStages skip take) scope) := by
  induction levels generalizing level scope skip take with
  | nil => exact absurd rfl hne
  | cons g inner ih =>
    have hg : g ∈ o.group := hlevels List.mem_cons_self
    have hinner : inner ⊆ o.group := fun _ hmem => hlevels (List.mem_cons_of_mem g hmem)
    obtain ⟨hstored, hinnerKeys⟩ := hkeys
    have hasked : KeysAre (fun key => inner ≠ [] ∨ o.groupSummary ≠ [] → isAskable key = true) docs
        g level :=
      ⟨fun _ hvalue _ => isAskable_of_isKeyValue hvalue, fun hvalues doc hdoc =>
        ⟨fun hnarrows => (hstored hnarrows hvalues doc hdoc).1,
          fun hnarrows => (hstored hnarrows hvalues doc hdoc).2⟩⟩
    rw [Engine.queryGroups_cons]
    refine (answers_fetchLevel hrunner hdocs h hg hasked inner.isEmpty hscope skip take).bind
      fun found hfound => ?_
    have hnarrowed : ∀ group ∈ found, inner ≠ [] ∨ o.groupSummary ≠ [] →
        Passes docs (scope ++ e.narrowingStages g level group.key) :=
      fun group hgroup hnarrows => hscope.append (passes_narrowingStages (h.levels g hg)
        (h.buckets g hg) level (canAsk_of_isAskable (hfound group hgroup hnarrows)))
    have hfill : ∀ group ∈ found, Step.Answers (fun _ => True)
        (e.fillGroup o g inner level (scope ++ e.narrowingStages g level group.key) group)
        fun full => full.key = group.key := by
      intro group hgroup
      refine answers_fillGroup_of_inner hrunner hdocs h hinner
        (fun hopen => hnarrowed group hgroup (.inl hopen)) (fun hopen => ?_) group
      rw [← pagingStages_none]
      exact ih hopen hinner hinnerKeys (hnarrowed group hgroup (.inl hopen)) 0 0
    -- The groups are summarized under the keys that they were fetched with.
    refine (Step.Answers.mapM_of_mem hfill).bind fun filled hfilled => ?_
    have hsummarize : ∀ full ∈ filled, Step.NeverFails (e.summarizeGroup o
        (fun key => scope ++ e.narrowingStages g level key) full) := by
      intro full hfull
      obtain ⟨group, hgroup, hkey⟩ := exists_of_mem_right hfilled hfull
      refine neverFails_summarizeGroup hrunner hdocs h fun hsummary => ?_
      rw [hkey]
      exact hnarrowed group hgroup (.inr hsummary)
    exact (Step.Answers.mapM_of_mem hsummarize).imp fun _ _ => trivial

theorem neverFails_addGroupCount (h : Admissible e o docs) (r : Response) :
    Step.NeverFails (e.addGroupCount o r) := by
  unfold Engine.addGroupCount
  split
  · next g rest hgroup =>
    split_ifs
    · have hcounted := gives_countedGroups h (hgroup ▸ List.mem_cons_self) 0 false
        (passes_requestStages h)
      exact (neverFails_count hrunner hdocs hcounted).bind fun _ _ => .pure trivial
    · exact .pure trivial
  · exact .pure trivial

theorem neverFails_addTotals (h : Admissible e o docs) (r : Response) :
    Step.NeverFails (e.addTotals o r) := by
  unfold Engine.addTotals
  split_ifs
  · exact .pure trivial
  refine (neverFails_count hrunner hdocs (passes_requestStages h)).bind fun total _ => ?_
  dsimp only
  split_ifs
  · exact (neverFails_summarize hrunner hdocs (passes_requestStages h) h.totalSummary).bind
      fun _ _ => .pure trivial
  · exact .pure trivial

/-- A flat request is answered. -/
theorem neverFails_queryRows (h : Admissible e o docs) : Step.NeverFails (e.queryRows o) := by
  obtain ⟨stages, hreads, hrun⟩ := run_selectStages h.select
  have hselect : Gives docs (Pipeline.selectStages o.select) fun _ => True :=
    ⟨stages, hreads, fun way _ => ⟨_, hrun way, trivial⟩⟩
  have hrows : Gives docs (e.rowsPipeline o) fun _ => True :=
    (((passes_requestStages h).append (passes_sortStages o.sort)).append
      (passes_pagingStages o.skip o.take)).andThen hselect
  obtain ⟨rows, hanswer, -⟩ := hrows.aggregate hdocs
  have hreport : Step.NeverFails (Engine.reportFilter o) := fun s _ =>
    ⟨(), (Engine.outcome_reportFilter o s).imp fun _ hreported => ⟨hreported, trivial, trivial⟩⟩
  refine hreport.bind fun _ _ => ?_
  rw [hrunner]
  exact (Step.Answers.execute hanswer).bind fun _ _ => neverFails_addTotals hrunner hdocs h _

/-- A request never fails because of what is stored, if its keys can be asked for. -/
theorem query_never_fails (h : Admissible e o docs)
    (hkeys : KeysCanBeAsked docs (o.groupSummary ≠ []) o.group 0) (s : Session) :
    ∃ r s', e.query o s = (.ok r, s') := by
  by_cases hgroup : o.group = []
  · obtain ⟨r, s', hrows, -⟩ := neverFails_queryRows hrunner hdocs h (Engine.start o s) trivial
    have hsteps : e.steps o = e.queryRows o := if_neg (by simp [LoadOptions.isGrouped, hgroup])
    refine ⟨r, Engine.conclude o (.ok r) s', ?_⟩
    rw [Engine.query_eq, hsteps, hrows]
  · have hanswer : Step.NeverFails (e.answerGroups o) :=
      (neverFails_queryGroups hrunner hdocs h hgroup (List.Subset.refl _) hkeys .nil o.skip
        o.take).bind fun _ _ => (neverFails_addGroupCount hrunner hdocs h _).bind fun counted _ =>
          neverFails_addTotals hrunner hdocs h counted
    obtain ⟨r, s', hquery, -⟩ := Engine.query_of_answers hgroup trivial hanswer s
    exact ⟨r, s', hquery⟩

end Engine

/-! ## An identifier as a key -/

/-- An object identifier. -/
def identifier : Json := .single "$oid" (.string "65f0c0ffee0000000000000a")

/-- A document with a reference and a number. -/
def referringDocuments : List Json := [.object [("ref", identifier), ("b", .ofUInt64 1)]]

def overReferring : Engine where
  runner := .ofCollection ⟨referringDocuments⟩

/-- Groups by the number, and inside them by the reference. -/
def byNumber : LoadOptions where
  group := [⟨"b", false, true, none⟩, ⟨"ref", false, true, none⟩]

/-- Groups by the reference, and inside them by the number. -/
def byReference : LoadOptions where
  group := [⟨"ref", false, true, none⟩, ⟨"b", false, true, none⟩]

theorem hasNames_referring : ∀ doc ∈ referringDocuments, HasNames doc := by
  simp only [referringDocuments, List.mem_singleton, forall_eq]
  exact ⟨_, rfl, by decide⟩

theorem admissible_byNumber : Admissible overReferring byNumber referringDocuments := by
  constructor
  case levels => decide
  all_goals simp [byNumber, LoadOptions.expressions, BucketsInRange]

theorem admissible_byReference : Admissible overReferring byReference referringDocuments := by
  constructor
  case levels => decide
  all_goals simp [byReference, LoadOptions.expressions, BucketsInRange]

/-- The last level is not narrowed to its keys, and identifiers may be among them. -/
theorem query_never_fails_byNumber : ∃ r s', overReferring.query byNumber {} = (.ok r, s') := by
  refine query_never_fails rfl hasNames_referring admissible_byNumber ⟨?_, ?_, trivial⟩ {}
  · exact fun _ _ => by decide
  · rintro (h | h) <;> exact absurd rfl h

theorem aggregate_references :
    (Collection.mk referringDocuments).aggregate (overReferring.levelPipeline byReference
        ⟨"ref", false, true, none⟩ 0 false [] []) =
      .ok [.object [("key", identifier), ("items", .null)]] := by
  have hpipeline : overReferring.levelPipeline byReference ⟨"ref", false, true, none⟩ 0 false
      [] [] = Pipeline.groupingStages false false true (groupKey "ref" none 0 0) none := rfl
  have hreads : Reads (Pipeline.groupingStages false false true (groupKey "ref" none 0 0) none) _ :=
    reads_levelStages (reads_keyStages_values rfl rfl 0 0) Option.isSome_none (by simp)
  rw [hpipeline, aggregate_of_reads hreads]
  decide +kernel

/-- The predicate that narrows to an identifier is read as an operator. -/
theorem aggregate_insideReference :
    (Collection.mk referringDocuments).aggregate (overReferring.levelPipeline byReference
        ⟨"b", false, true, none⟩ 1 true []
        (overReferring.narrowingStages ⟨"ref", false, true, none⟩ 0 identifier)) =
      .error (.error (.unsupportedOperator "$oid")) := by
  have hpipeline : overReferring.levelPipeline byReference ⟨"b", false, true, none⟩ 1 true []
      (overReferring.narrowingStages ⟨"ref", false, true, none⟩ 0 identifier) =
    Pipeline.narrowingStages "ref" none 0 0 identifier ++ Pipeline.groupingStages false true false
      (groupKey "b" none 1 0) none ++ [] := rfl
  have hgrouping : Reads (Pipeline.groupingStages false true false (groupKey "b" none 1 0) none)
      _ :=
    reads_levelStages (reads_keyStages_values rfl rfl 1 0) rfl ofJson_currentDocument
  rw [hpipeline, List.append_nil,
    aggregate_of_reads ((reads_narrowingStages_values rfl 0 0 _).append hgrouping)]
  decide +kernel

/-- The groups by the reference are answered, and those inside the first of them are refused. -/
theorem queryGrouped_byReference : Step.Fails (overReferring.queryGrouped byReference)
    (.error (.ofCollection (.unsupportedOperator "$oid"))) := by
  have hfound := Engine.fetchGroups_succeeds (e := overReferring) rfl 0 aggregate_references rfl
  have hinside : Step.Fails (overReferring.queryGroups byReference
      [⟨"b", false, true, none⟩] 1 []
      (overReferring.narrowingStages ⟨"ref", false, true, none⟩ 0 identifier))
      (.error (.ofCollection (.unsupportedOperator "$oid"))) := by
    rw [Engine.queryGroups_cons]
    exact ((Step.Fails.execute aggregate_insideReference).bind _).bind _
  have hlevels : Step.Fails (overReferring.queryGroups byReference byReference.group 0 [] [])
      (.error (.ofCollection (.unsupportedOperator "$oid"))) :=
    hfound.bind_fails ((((hinside.bind _).bind _)).bind _)
  exact (Step.Succeeds.pure _).bind_fails ((Step.Succeeds.change _).bind_fails (hlevels.bind _))

/-- An identifier that is the key of a level above others ends the request with an error. -/
theorem query_fails_on_identifier :
    Admissible overReferring byReference referringDocuments ∧
      (∀ doc ∈ referringDocuments, HasNames doc) ∧
      (overReferring.query byReference {}).1 =
        .error (.error (.ofCollection (.unsupportedOperator "$oid"))) :=
  ⟨admissible_byReference, hasNames_referring,
    Engine.query_of_fails overReferring byReference queryGrouped_byReference {}⟩

end GridQuery
