import Mathlib
import GridQuery.Proofs.GroupPages
import GridQuery.Proofs.KeyText
import GridQuery.Proofs.Meaning
import GridQuery.Proofs.NumericBuckets
import GridQuery.Proofs.UnchangedRows

/-!
# The order of sibling groups

The groups of a level are sorted by their keys after they have been told apart by the texts of the
keys. For nulls, booleans, numbers and strings the two notions agree, so that no key of a level comes
twice, not even as a number of the other kind. The keys of a bucketed level are numbers or null,
whatever its selector is.

Results:
* `pairwise_keys_levelStages`: the keys that a level answers are in order.
* `strict_of_scalars`: scalar keys in order with texts of their own are in strict order.
* `isKeyValue_bucketed`: the keys of a bucketed level are numbers or null.
* `siblings_strictly_ordered`: the keys of siblings are in strict order, at every level.
-/

namespace GridQuery

open Collection (runStages runStages_append_eq_ok runStages_one)
open Pipeline (SetsOnly extraction groupKey keyField reference)

/-! ## Keys in order -/

/-- No key after the other one, in the direction of a level. -/
def inKeyOrder (desc : Bool) (a b : Json) : Bool :=
  (if desc then (a.compare b).swap else a.compare b) ≠ .gt

theorem valueAt_key (doc : Json) : valueAt "key" doc = (doc.get? "key").getD .null := by
  have hpoint : HasNoPoint "key" := by
    unfold HasNoPoint
    decide
  rw [valueAt, resolve?_of_noPoint hpoint]

theorem inOrderBy_key (desc : Bool) (a b : Json) :
    inOrderBy [("key", desc)] a b = inKeyOrder desc (valueAt "key" a) (valueAt "key" b) := by
  simp [inOrderBy, inKeyOrder, compareBy, valueAt]

/-- What a level answers is in the order of its keys. -/
theorem pairwise_keys_levelStages {desc countSeparately : Bool} {field : String}
    {items : Option Expression} {docs out : List Json}
    (h : runStages (levelStages desc countSeparately field items) docs = .ok out) :
    (out.map (valueAt "key")).Pairwise fun a b => inKeyOrder desc a b = true := by
  obtain ⟨sorted, hsorted, hlast⟩ := runStages_append_eq_ok.mp h
  obtain ⟨shown, -, hsort⟩ := (runStages_append_eq_ok (a := [_, _]) (b := [_])).mp hsorted
  rw [runStages_one] at hsort
  have hpairwise : (sorted.map (valueAt "key")).Pairwise fun a b => inKeyOrder desc a b = true := by
    obtain rfl := Except.ok.inj hsort
    refine List.pairwise_map.mpr ?_
    simp only [← inOrderBy_key]
    exact List.pairwise_mergeSort (inOrderBy_trans _) (inOrderBy_total _) shown
  suffices hkeys : out.map (valueAt "key") = sorted.map (valueAt "key") by rwa [hkeys]
  cases items with
  | some e =>
    cases hlast
    rfl
  | none =>
    rw [if_neg (by simp), runStages_one] at hlast
    refine map_eq_of_forall₂ ?_
    refine (mapM_eq_ok.mp (mapError_eq_ok.mp hlast)).imp fun doc later hlater => ?_
    cases hlater
    rw [valueAt_key, valueAt_key, Json.get?_setPath_of_ne hasNoPoint_items (by decide)]

/-- Scalar keys in order are in strict order if no two of them have one text. -/
theorem strict_of_scalars {desc : Bool} {keys : List Json} (hnodup : (keys.map Json.keyText).Nodup)
    (hscalar : ∀ key ∈ keys, key.isScalar = true)
    (hordered : keys.Pairwise fun a b => inKeyOrder desc a b = true) :
    keys.Pairwise fun a b => a.compare b = if desc then .gt else .lt := by
  have htexts : keys.Pairwise fun a b => a.keyText ≠ b.keyText := List.pairwise_map.mp hnodup
  refine (htexts.and hordered).imp_of_mem ?_
  rintro a b ha hb ⟨htext, horder⟩
  have hne : a.compare b ≠ .eq := fun heq =>
    htext ((Json.keyText_scalar_iff (hscalar a ha) (hscalar b hb)).mpr (Json.isEqualTo_iff.mpr heq))
  cases desc <;> cases hcompare : a.compare b <;> simp_all [inKeyOrder]

/-! ## The keys of bucketed levels -/

/-- The expression always has a value, unless a date overflows, and the value is a number or null. -/
structure GivesKeyValues (e : Expression) : Prop where
  ne_field : ∀ path, e ≠ .field path
  isKeyValue : ∀ doc value, e.eval doc = .ok value → IsKeyValue value

theorem isKeyValue_eval_datePart {part : DatePart} {e : Expression} {doc value : Json}
    (h : (Expression.datePart part e).eval doc = .ok value) : IsKeyValue value := by
  rw [Expression.eval] at h
  obtain ⟨date, -, h⟩ := bind_eq_ok.mp h
  obtain rfl := pure_eq_ok.mp h
  exact isKeyValue_partOf part date

theorem givesKeyValues_datePart (part : DatePart) (e : Expression) :
    GivesKeyValues (.datePart part e) where
  ne_field := nofun
  isKeyValue _ _ := isKeyValue_eval_datePart

/-- A part that is counted from zero instead of one. -/
theorem givesKeyValues_fromZero (part : DatePart) (e : Expression) (one : Json) :
    GivesKeyValues (.binary .subtract (.datePart part e) (.literal one)) where
  ne_field := nofun
  isKeyValue doc value h := by
    rw [Expression.eval] at h
    obtain ⟨found, hfound, h⟩ := bind_eq_ok.mp h
    obtain ⟨_, -, h⟩ := bind_eq_ok.mp h
    exact isKeyValue_difference h (Or.inl (isKeyValue_eval_datePart hfound).instant)

theorem givesKeyValues_multiple (e : Expression) (width : Json) :
    GivesKeyValues (.binary .subtract e (.binary .mod e (.literal width))) where
  ne_field := nofun
  isKeyValue doc value h := by
    simp only [Expression.eval] at h
    obtain ⟨found, hfound, h⟩ := bind_eq_ok.mp h
    rw [hfound] at h
    exact isKeyValue_multiple h

theorem givesKeyValues_thirdOfField (field : String) : GivesKeyValues (thirdOfField field) where
  ne_field := nofun
  isKeyValue doc _ h := isKeyValue_thirdOf (eval_thirdOfField doc field ▸ h)

/-- What the part of a date is read as, whatever the date is read as. -/
theorem datePart_of_extraction {source : String} {part : CalendarPart} {offset : Int64}
    {e : Expression} (h : Expression.ofJson (extraction source part offset) = .ok e) :
    ∃ date, e = .datePart part.datePart date := by
  rw [extraction, ← part.operator_datePart, Json.single] at h
  cases hmoved : Expression.ofJson (.single "$subtract" (.array [reference source,
      .ofInt64 (offset * 60 * 1000)])) with
  | ok moved =>
    obtain rfl := Except.ok.inj ((Expression.ofJson_datePart hmoved).symm.trans h)
    exact ⟨moved, rfl⟩
  | error fault =>
    rw [Json.single] at hmoved
    cases hpart : part.datePart <;>
      simp [hpart, Json.single, Expression.ofJson, Expression.ofOperation, Expression.isOperator,
        DatePart.operator, DatePart.ofOperator?, DatePart.all, Operation.operator,
        Operation.ofOperator?, Operation.all, hmoved, Except.map] at h

/-- The stages of a part end in one that computes a number or null. -/
theorem lastStage_of_partStages {target source scratch : String} {part : CalendarPart}
    {offset : Int64} {stages : List Stage} (hscratch : startsWithDollar scratch = false)
    (h : Reads (Pipeline.partStages target source part offset scratch) stages) :
    ∃ before e, stages = before ++ [.addFields [(target, e)]] ∧ GivesKeyValues e := by
  cases part with
  | quarter =>
    obtain ⟨first, last, -, hlast, rfl⟩ := (reads_append (p := [_]) (q := [_])).mp h
    obtain ⟨e, he, rfl⟩ := Pipeline.reads_addField hlast
    obtain rfl := Except.ok.inj ((ofJson_thirdOfField hscratch).symm.trans he)
    exact ⟨_, _, rfl, givesKeyValues_thirdOfField scratch⟩
  | dayOfWeek =>
    obtain ⟨e, he, rfl⟩ := Pipeline.reads_addField h
    obtain ⟨found, hfound⟩ := ofJson_binary_eq_ok .subtract he
    obtain ⟨date, rfl⟩ := datePart_of_extraction hfound
    have hone := Expression.ofJson_number (.ofInt64 1)
    obtain rfl := Except.ok.inj ((Expression.ofJson_binary .subtract hfound hone).symm.trans he)
    exact ⟨[], _, rfl, givesKeyValues_fromZero _ date _⟩
  | _ =>
    obtain ⟨e, he, rfl⟩ := Pipeline.reads_addField h
    obtain ⟨date, rfl⟩ := datePart_of_extraction he
    exact ⟨[], _, rfl, givesKeyValues_datePart _ date⟩

/-- The key stages of a bucketed level end in one that computes a number or null, whatever the
    selector is. -/
theorem lastStage_of_bucketed {selector : String} {interval : GroupInterval} {level : Nat}
    {offset : Int64} {stages : List Stage} (hbucketed : interval.isBucketed = true)
    (h : Reads (groupKey selector (some interval) level offset).stages stages) :
    ∃ before e, stages = before ++ [.addFields [(keyField level, e)]] ∧ GivesKeyValues e := by
  simp only [groupKey, Option.bind_some] at h
  cases hwidth : interval.width? with
  | some width =>
    rw [hwidth] at h
    obtain ⟨e, he, rfl⟩ := Pipeline.reads_addField h
    obtain ⟨value, hvalue⟩ := ofJson_binary_eq_ok .subtract he
    have hread := Expression.ofJson_binary .subtract hvalue
      (Expression.ofJson_binary .mod hvalue (Expression.ofJson_number width))
    obtain rfl := Except.ok.inj (hread.symm.trans he)
    exact ⟨[], _, rfl, givesKeyValues_multiple value _⟩
  | none =>
    cases hpart : interval.part? with
    | some part =>
      rw [hwidth, hpart] at h
      exact lastStage_of_partStages
        (startsWithDollar_of_isReserved Pipeline.isReserved_quarterScratch) h
    | none => simp [GroupInterval.isBucketed, hwidth, hpart] at hbucketed

/-- The keys of a bucketed level are numbers or null. -/
theorem isKeyValue_bucketed {selector : String} {interval : GroupInterval} {level : Nat}
    {offset : Int64} {stages : List Stage} (hbucketed : interval.isBucketed = true)
    (h : Reads (groupKey selector (some interval) level offset).stages stages)
    {docs computed : List Json} (hrun : runStages stages docs = .ok computed)
    (hobject : ∀ later ∈ computed, later.isObject = true) :
    ∀ later ∈ computed, IsKeyValue (valueAt (keyField level) later) := by
  intro later hlater
  obtain ⟨before, e, rfl, hgives⟩ := lastStage_of_bucketed hbucketed h
  obtain ⟨between, -, hlast⟩ := runStages_append_eq_ok.mp hrun
  rw [runStages_one, Stage.run, mapError_eq_ok] at hlast
  obtain ⟨doc, -, hdoc⟩ := exists_of_mem_right (mapM_eq_ok.mp hlast) hlater
  have hisObject := hobject later hlater
  simp only [computeFields, Expression.eval?_of_ne_field hgives.ne_field] at hdoc
  cases hvalue : e.eval doc with
  | error overflow =>
    rw [hvalue] at hdoc
    cases hdoc
  | ok value =>
    rw [hvalue] at hdoc
    obtain rfl := Except.ok.inj hdoc
    cases doc with
    | object entries =>
      rw [valueAt, Json.resolve?_setPath_self (Pipeline.hasNoPoint_keyField level)]
      exact hgives.isKeyValue _ value hvalue
    | _ => cases hisObject

/-! ## The keys of levels of values -/

/-- The selector names a field of its own, and the documents have nothing there or a scalar. -/
structure FindsScalars (selector : String) (docs : List Json) : Prop where
  reserved : isReserved selector = false
  ne_variable : selector ≠ "$CURRENT" ∧ selector ≠ "$ROOT"
  scalar : ∀ doc ∈ docs, (valueAt selector doc).isScalar = true

/-- The keys of a level of values are the values of its documents. -/
theorem isScalar_values {selector : String} {interval : Option GroupInterval} {level : Nat}
    {offset : Int64} {stages : List Stage} {docs inside computed : List Json}
    (hvalues : interval.any GroupInterval.isBucketed = false) (hfinds : FindsScalars selector docs)
    (hdocs : ∀ doc ∈ docs, IsPlain doc) (hinside : ∀ doc ∈ inside, Descends docs level doc)
    (hreads : Reads (groupKey selector interval level offset).stages stages)
    (hrun : runStages stages inside = .ok computed) :
    ∀ later ∈ computed, (valueAt (keyField level) later).isScalar = true := by
  have hselector : startsWithDollar selector = false := by
    by_contra hdollar
    rw [Bool.not_eq_false] at hdollar
    rw [groupKey_values hvalues] at hreads
    obtain ⟨e, he, -⟩ := Pipeline.reads_addField hreads
    rcases (ofJson_reference_of_dollar hdollar he).2 with hcurrent | hroot
    · exact hfinds.ne_variable.1 hcurrent
    · exact hfinds.ne_variable.2 hroot
  obtain rfl := hreads.unique (reads_keyStages_values hselector hvalues level offset)
  rw [run_keyStages_values] at hrun
  obtain rfl := Except.ok.inj hrun
  intro later hlater
  obtain ⟨doc, hdoc, rfl⟩ := List.mem_map.mp hlater
  have hdescends := hinside doc hdoc
  obtain ⟨stored, hstored, hsame⟩ := hdescends.exists_resolve? hfinds.reserved
  rw [valueAt_withKey (Pipeline.hasNoPoint_keyField level) (hdescends.isObject hdocs)
    (hdescends.resolve?_keyField hdocs), valueAt, hsame]
  exact hfinds.scalar stored hstored

/-! ## The groups of a level -/

namespace Group

/-- The keys of sibling groups are in strict order, those of the groups and those inside them. The
    first of the levels is that of the groups. -/
def AreOrdered : List GroupLevel → List Group → Prop
  | [], _ => False
  | g :: inner, groups =>
    (groups.map key).Pairwise (fun a b => a.compare b = if g.desc then .gt else .lt) ∧
      ∀ group ∈ groups, ∀ inside, group.groups? = some inside → AreOrdered inner inside

end Group

section Levels

variable {e : Engine} {o : LoadOptions} {docs : List Json} {level : Nat} {skip take : UInt64}
  {scope : Pipeline} {g : GroupLevel}

/-- The keys of a level are scalars, if those of a level of values are. -/
theorem isScalar_keys
    (hlevel : g.interval.any GroupInterval.isBucketed = false → FindsScalars g.selector docs)
    (hdocs : ∀ doc ∈ docs, IsPlain doc) {inside computed keys : List Json}
    (hinside : ∀ doc ∈ inside, Descends docs level doc) {keyStages : List Stage}
    (hreads : Reads (groupKey g.selector g.interval level e.config.timezoneOffset).stages keyStages)
    (hrun : runStages keyStages inside = .ok computed)
    (hkeys : KeysOf (keyField level) computed keys) : ∀ key ∈ keys, key.isScalar = true := by
  suffices hcomputed : ∀ later ∈ computed, (valueAt (keyField level) later).isScalar = true by
    intro key hkey
    obtain ⟨later, hlater, rfl⟩ := hkeys.exists_doc key hkey
    exact hcomputed later hlater
  cases hany : g.interval.any GroupInterval.isBucketed with
  | true =>
    obtain ⟨interval, hinterval, hbucketed⟩ := (Option.any_eq_true _ _).mp hany
    have hobject : ∀ later ∈ computed, later.isObject = true := fun later hlater =>
      (descends_of_computed hinside hreads hrun later hlater).isObject hdocs
    rw [hinterval] at hreads
    exact fun later hlater => (isKeyValue_bucketed hbucketed hreads hrun hobject later hlater).isScalar
  | false => exact isScalar_values hany (hlevel hany) hdocs hinside hreads hrun

/-- The groups that are fetched for a level have their keys in strict order. -/
theorem strict_fetched (hrunner : e.runner = .ofCollection ⟨docs⟩)
    (hdocs : ∀ doc ∈ docs, IsPlain doc)
    (hlevel : g.interval.any GroupInterval.isBucketed = false → FindsScalars g.selector docs)
    (hscope : SetsOnly (fieldsAbove level) scope) {last : Bool} {found : List Group}
    (hfound : Step.Yields (e.fetchGroups level
      (e.levelPipeline o g level last (Pipeline.pagingStages skip take) scope)) found) :
    (found.map Group.key).Pairwise fun a b => a.compare b = if g.desc then .gt else .lt := by
  obtain ⟨out, hout, hread⟩ := Engine.fetchGroups_yields hrunner hfound
  obtain ⟨inside, keyStages, computed, items, all, hinside, hreads, hcomputed, -, -, hrun, hsub⟩ :=
    levelStages_of_aggregate hout
  obtain ⟨keys, hkeys, hgroups⟩ := run_levelStages hrun
  have hsort : (if last && g.isExpanded then Pipeline.sortStages o.sort else []) =
      Pipeline.sortStages (if last && g.isExpanded then o.sort else []) := by
    split_ifs <;> rfl
  rw [hsort] at hinside
  have hdescends := descends_of_scope hdocs hscope hinside
  have hall : all.map (valueAt "key") = keys.map id :=
    map_eq_of_forall₂ (hgroups.imp fun key doc hgroup => by
      rw [valueAt_key, hgroup.key_eq, Option.getD_some, id])
  have hfoundKeys : found.map Group.key = out.map (valueAt "key") :=
    map_eq_of_forall₂ ((mapM_eq_ok.mp hread).imp fun doc group hgroup => by
      rw [valueAt_key, Group.key_of_ofJson hgroup, Option.getD_some])
  rw [List.map_id] at hall
  have hstrict := strict_of_scalars hkeys.nodup
    (isScalar_keys hlevel hdocs hdescends hreads hcomputed hkeys)
    (hall ▸ pairwise_keys_levelStages hrun)
  rw [hfoundKeys]
  exact hstrict.sublist (hall ▸ hsub.map (valueAt "key"))

/-- The groups inside a group that has been filled are those of the levels inside it. -/
theorem inner_of_filled {g : GroupLevel} {inner : List GroupLevel} {narrowed : Pipeline}
    {group out : Group} (hbare : group.groups? = none)
    (h : e.Filled o g level narrowed group inner out) {inside : List Group}
    (hinside : out.groups? = some inside) :
    Step.Yields (e.queryGroups o inner (level + 1) [] narrowed) inside := by
  cases h with
  | shown =>
    rw [Group.groups?_mapRows, hbare] at hinside
    cases hinside
  | kept =>
    rw [hbare] at hinside
    cases hinside
  | @opened _ _ sub _ hsub =>
    obtain rfl : sub = inside := Option.some.inj hinside
    exact hsub
  | @closed _ _ n _ =>
    rw [show (group.withCount n).groups? = group.groups? from rfl, hbare] at hinside
    cases hinside

/-- The groups inside a scope are in strict order, at every level. -/
theorem areOrdered_queryGroups (hrunner : e.runner = .ofCollection ⟨docs⟩)
    (hdocs : ∀ doc ∈ docs, IsPlain doc) {levels : List GroupLevel}
    (hlevels : ∀ g ∈ levels, g.interval.any GroupInterval.isBucketed = false →
      FindsScalars g.selector docs) {groups : List Group}
    (hscope : SetsOnly (fieldsAbove level) scope)
    (h : Step.Yields (e.queryGroups o levels level (Pipeline.pagingStages skip take) scope)
      groups) : Group.AreOrdered levels groups := by
  induction levels generalizing level skip take scope groups with
  | nil => exact absurd h Engine.not_yields_nil
  | cons g inner ih =>
    obtain ⟨found, filled, hfound, hfilled, hsummarized⟩ := Engine.queryGroups_yields h
    have hfound' := strict_fetched hrunner hdocs (hlevels g List.mem_cons_self) hscope hfound
    -- Neither what fills a group nor its summary changes its key.
    have hfilledKeys : filled.map Group.key = found.map Group.key :=
      map_eq_of_forall₂ (hfilled.imp fun _ _ hfill => (Engine.fillGroup_yields hfill).key_eq)
    have hkeys : groups.map Group.key = filled.map Group.key :=
      map_eq_of_forall₂ (hsummarized.imp fun _ _ hsummary => by
        rcases Engine.summarizeGroup_cases hsummary with rfl | ⟨values, rfl, -⟩ <;> rfl)
    refine ⟨hkeys ▸ hfilledKeys ▸ hfound', fun group hgroup inside hinside => ?_⟩
    obtain ⟨fetched, hfetched, full, hfill, hitems, -⟩ :=
      Engine.mem_queryGroups hfilled hsummarized hgroup
    rw [Group.groups?, hitems, ← Group.groups?] at hinside
    have hsub := inner_of_filled (Engine.fetchGroups_bare hfound fetched hfetched).2 hfill hinside
    rw [← pagingStages_none] at hsub
    exact ih (fun next hnext => hlevels next (List.mem_cons_of_mem g hnext))
      (setsOnly_narrowed hscope g fetched.key) hsub

end Levels

/-! ## Requests -/

/-- In every response over a collection the keys of sibling groups are in strict order, at every
    level: ascending, or descending where the level asks for it. So no two siblings have equal keys.

    The documents are objects without reserved names, and they have scalars or nothing where a level
    of values looks. The selectors of bucketed levels may lead anywhere. -/
theorem siblings_strictly_ordered {e : Engine} {o : LoadOptions} {docs : List Json}
    (hrunner : e.runner = .ofCollection ⟨docs⟩) (hdocs : ∀ doc ∈ docs, IsPlain doc)
    (hgroup : o.group ≠ [])
    (hlevels : ∀ g ∈ o.group, g.interval.any GroupInterval.isBucketed = false →
      FindsScalars g.selector docs) {s s' : Session} {r : Response}
    (h : e.query o s = (.ok r, s')) :
    ∃ groups, r.data = .groups groups ∧ Group.AreOrdered o.group groups := by
  have hsteps := e.steps_yields o h
  rw [e.steps_grouped o hgroup] at hsteps
  obtain ⟨groups, counted, hgroups, hcounted, htotals⟩ := Engine.queryGrouped_yields hsteps
  exact ⟨groups, Engine.data_of_totals hcounted htotals,
    areOrdered_queryGroups hrunner hdocs hlevels (.nil _) hgroups⟩

/-- Two documents that are equal and are not written alike. -/
def equalDocuments : List Json :=
  [.object [("a", .ofUInt64 1)], .object [("a", .number Json.oneAsFloat)]]

def overEqualDocuments : Engine where
  runner := .ofCollection ⟨equalDocuments⟩

/-- Groups by a name that no document has. As a reference it is the whole document. -/
def byDocument : LoadOptions where
  group := [⟨"$CURRENT", false, false, none⟩]

theorem aggregate_byDocument :
    (Collection.mk equalDocuments).aggregate
        (overEqualDocuments.groupingStages ⟨"$CURRENT", false, false, none⟩ 0 false false none) =
      .ok (equalDocuments.map fun doc =>
        .object [("key", doc), ("count", .ofUInt64 1), ("items", .null)]) := by
  have hkey : Reads (groupKey "$CURRENT" none 0 0).stages [.addFields [(keyField 0, .document)]] :=
    reads_one (ofJson_addField _ (ofJson_currentDocument .document rfl))
  have hcounted : runStages ([.addFields [(keyField 0, .document)]] ++
      [.group (.field (keyField 0)) (levelAccumulators false none),
        .project (levelProjection false false)]) equalDocuments =
      .ok (equalDocuments.map fun doc => .object [("key", doc), ("count", .ofUInt64 1)]) := by
    decide +kernel
  exact aggregate_inOrder hkey Option.isSome_none nofun hcounted (by decide +kernel)

/-- The groups of equal documents. -/
def equalGroups : List Group := equalDocuments.map fun doc => .mk doc 1 .absent none

theorem steps_byDocument :
    Step.Succeeds (overEqualDocuments.steps byDocument) { data := .groups equalGroups } := by
  have hlevel : (Collection.mk equalDocuments).aggregate (overEqualDocuments.levelPipeline
      byDocument ⟨"$CURRENT", false, false, none⟩ 0 true [] []) = .ok _ := aggregate_byDocument
  have hrunner : overEqualDocuments.runner = .ofCollection ⟨equalDocuments⟩ := rfl
  have hfound := Engine.fetchGroups_succeeds hrunner 0 hlevel rfl
  exact Engine.queryGrouped_succeeds (hfound.bind ((Step.Succeeds.pure _).bind (.pure _))) (.pure _)
    (.pure _)

/-- Two siblings have equal keys: the selector finds nothing in either document, and as a reference it
    leads to the documents themselves. -/
theorem siblings_of_equal_documents :
    (∀ doc ∈ equalDocuments, IsPlain doc ∧ doc.resolve? "$CURRENT" = none) ∧
      isReserved "$CURRENT" = false ∧
      ∃ s', overEqualDocuments.query byDocument {} = (.ok { data := .groups equalGroups }, s') ∧
        equalGroups.map Group.key = equalDocuments ∧
        ¬equalGroups.Pairwise (fun a b => a.key.compare b.key = .lt) ∧
        ¬equalGroups.Pairwise (fun a b => a.key.compare b.key ≠ .eq) := by
  obtain ⟨s', hquery⟩ := Engine.query_of_succeeds _ _ steps_byDocument {}
  exact ⟨by decide, by decide, s', hquery, rfl, by decide +kernel, by decide +kernel⟩

/-- The two groups of numbers are in order. -/
theorem siblings_ordered_numbered :
    ∃ s', overTwoDocuments.query numberedGroups {} =
        (.ok { data := .groups twoGroups, groupCount := some 2 }, s') ∧
      (twoGroups.map Group.key).Pairwise (fun a b => a.compare b = .lt) := by
  obtain ⟨s', hquery⟩ :=
    Engine.query_of_succeeds overTwoDocuments numberedGroups steps_numberedGroups {}
  have hplain : ∀ doc ∈ twoDocuments, IsPlain doc := by decide
  have hfinds : ∀ g ∈ numberedGroups.group,
      g.interval.any GroupInterval.isBucketed = false → FindsScalars g.selector twoDocuments := by
    simp only [numberedGroups, List.mem_singleton, forall_eq]
    exact fun _ => ⟨by decide, by decide, by decide⟩
  obtain ⟨groups, hdata, hordered, -⟩ := siblings_strictly_ordered (e := overTwoDocuments)
    (o := numberedGroups) rfl hplain (by decide) hfinds hquery
  cases hdata
  exact ⟨s', hquery, hordered⟩

end GridQuery
