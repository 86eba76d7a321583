import Mathlib
import GridQuery.Proofs.Conditions
import GridQuery.Proofs.Groups

/-!
# Narrowing to one group

The groups inside a group come from the documents that are narrowed to its key. A bucketed level is
matched on its key, computed again; a level of values is matched on the field itself.

Results:
* `narrowing_bucketed`: the groups of a bucketed level share out the documents, and narrowing to a
  key gives the documents of its group.
* `narrowing_values_iff`: narrowing a level of values gives the documents of the group exactly if
  none of the documents goes astray.
-/

namespace GridQuery

open Collection (aggregate_eq_ok aggregate_of_reads runStages runStages_append_eq_ok runStages_one)
open Pipeline (groupKey groupingStages keyField matchStages narrowingStages)

/-! ## Matching one field -/

theorem reads_matchStages (field : String) (key : Json) :
    Reads (matchStages field key) [.keepMatching (.single field key)] :=
  reads_one rfl

/-- Matching a field keeps the documents whose field meets the condition. -/
theorem run_matchStages {field : String} (h : startsWithDollar field = false) {key : Json}
    {docs : List Json} {holds : Json → Bool}
    (hmeets : ∀ doc ∈ docs, meets (doc.resolve? field) key = .ok (holds doc)) :
    runStages [.keepMatching (.single field key)] docs = .ok (docs.filter holds) := by
  have hlocal : IsLocal (runStages [.keepMatching (.single field key)]) :=
    isLocal_runStages (by simp [Stage.LooksAtOne])
  rw [← List.map_id (docs.filter holds)]
  refine hlocal.filter_map fun doc hdoc => ?_
  rw [runStages_one, run_keepMatching_one]
  exact ⟨holds doc, by rw [satisfies_single h, hmeets doc hdoc], rfl⟩

/-! ## Bucketed levels -/

/-- Documents in which a field has been computed. -/
theorem Computes.run {stages : List Stage} {names : List String} {target : String}
    {reading : Json → Except DateOverflow Json} (h : Computes stages names target reading)
    {docs computed : List Json} (hdocs : ∀ doc ∈ docs, doc.isObject = true)
    (hrun : runStages stages docs = .ok computed) :
    List.Forall₂ (fun doc later => Sets names doc later ∧
      ∃ value, reading doc = .ok value ∧ later.resolve? target = some value) docs computed := by
  have hlocal := isLocal_runStages h.looksAtOne
  induction docs generalizing computed with
  | nil =>
    rw [hlocal.nil] at hrun
    cases hrun
    exact .nil
  | cons doc docs ih =>
    obtain ⟨a, b, ha, hb, rfl⟩ := (hlocal.cons _ _ _).mp hrun
    have hdoc := hdocs doc List.mem_cons_self
    have hrest := ih (fun d hd => hdocs d (List.mem_cons_of_mem _ hd)) hb
    cases hreading : reading doc with
    | error e =>
      rw [h.error doc e hdoc hreading] at ha
      cases ha
    | ok value =>
      obtain ⟨later, hlater, hsets, hresolve⟩ := h.ok doc value hdoc hreading
      rw [hlater] at ha
      cases ha
      exact .cons ⟨hsets, value, hreading, hresolve⟩ hrest

/-- Narrowing a bucketed level keeps the documents whose computed key has the text of the key. -/
theorem run_narrowingStages_bucketed {selector : String} {interval : GroupInterval} {level : Nat}
    {offset : Int64} (hselector : startsWithDollar selector = false)
    (hbucketed : interval.isBucketed = true) {keyStages : List Stage}
    (hreads : Reads (groupKey selector (some interval) level offset).stages keyStages)
    {docs computed : List Json} (hdocs : ∀ doc ∈ docs, doc.isObject = true)
    (hrun : runStages keyStages docs = .ok computed) {key : Json} (hkey : IsKeyValue key) :
    Reads (narrowingStages selector (some interval) level offset key)
        (keyStages ++ [.keepMatching (.single (keyField level) key)]) ∧
      runStages (keyStages ++ [.keepMatching (.single (keyField level) key)]) docs =
        .ok (docsOf (keyField level) computed key) := by
  obtain ⟨stages, hstages, hcomputes⟩ := computes_keyStages hselector hbucketed level offset
  obtain rfl := hreads.unique hstages
  constructor
  · rw [narrowingStages, Option.any_some, if_pos hbucketed]
    exact hreads.append (reads_matchStages _ key)
  · refine runStages_append_eq_ok.mpr ⟨computed, hrun, run_matchStages
      (startsWithDollar_keyField level) fun doc hdoc => ?_⟩
    obtain ⟨_, _, -, value, hvalue, hresolve⟩ := exists_of_mem_right
      (hcomputes.run hdocs hrun) hdoc
    have hscalar := isKeyValue_bucketReading hbucketed hvalue
    have hequals : equalsOperand (some value) key = decide (value.keyText = key.keyText) :=
      equalsOperand_scalar hscalar.isScalar hkey.isScalar
    rw [meets_of_no_operators (operators_of_isScalar hkey.isScalar), hresolve, hequals, valueAt,
      hresolve]
    rfl

/-- The keys of a bucketed level are numbers or null. -/
theorem isKeyValue_of_keysOf {selector : String} {interval : GroupInterval} {level : Nat}
    {offset : Int64} (hselector : startsWithDollar selector = false)
    (hbucketed : interval.isBucketed = true) {keyStages : List Stage}
    (hreads : Reads (groupKey selector (some interval) level offset).stages keyStages)
    {docs computed keys : List Json} (hdocs : ∀ doc ∈ docs, doc.isObject = true)
    (hrun : runStages keyStages docs = .ok computed)
    (hkeys : KeysOf (keyField level) computed keys) : ∀ key ∈ keys, IsKeyValue key := by
  intro key hkey
  obtain ⟨stages, hstages, hcomputes⟩ := computes_keyStages hselector hbucketed level offset
  obtain rfl := hreads.unique hstages
  obtain ⟨later, hlater, rfl⟩ := hkeys.exists_doc key hkey
  obtain ⟨_, _, -, value, hvalue, hresolve⟩ := exists_of_mem_right
    (hcomputes.run hdocs hrun) hlater
  rw [valueAt, hresolve]
  exact isKeyValue_bucketReading hbucketed hvalue

/-- The groups of a bucketed level share out its documents, and narrowing to a key keeps the
    documents of its group.

    The documents are those in which the key has been computed; each is a document of the collection
    with the fields of the level set. Whatever values they hold, the keys are numbers or null. -/
theorem narrowing_bucketed {selector : String} {interval : GroupInterval} {level : Nat}
    {offset : Int64} (hselector : startsWithDollar selector = false)
    (hbucketed : interval.isBucketed = true)
    {desc includeItems countSeparately : Bool} {projection : Option Json}
    {docs groups : List Json} (hdocs : ∀ doc ∈ docs, doc.isObject = true)
    (hgroups : (Collection.mk docs).aggregate (groupingStages desc includeItems countSeparately
      (groupKey selector (some interval) level offset) projection) = .ok groups) :
    ∃ computed keys : List Json,
      (Collection.mk docs).aggregate (groupKey selector (some interval) level offset).stages =
        .ok computed ∧
      List.Forall₂ (fun doc later => Sets (levelFields level) doc later ∧
        bucketReading interval offset (valueAt selector doc) =
          .ok (valueAt (keyField level) later)) docs computed ∧
      groups.map (Json.get? · "key") = keys.map some ∧
      (∀ key ∈ keys, IsKeyValue key ∧
        (Collection.mk docs).aggregate
            (narrowingStages selector (some interval) level offset key) =
          .ok (docsOf (keyField level) computed key)) ∧
      (keys.map Json.keyText).Nodup ∧
      (keys.flatMap (docsOf (keyField level) computed)).Perm computed := by
  obtain ⟨stages, hreads, hrun⟩ := aggregate_eq_ok.mp hgroups
  obtain ⟨keyStages, items, computed, keys, hkey, -, -, hcomputed, hkeys, hforall⟩ :=
    run_groupingStages hreads hrun
  obtain ⟨_, hstages, hcomputes⟩ := computes_keyStages hselector hbucketed level offset
  obtain rfl := hkey.unique hstages
  refine ⟨computed, keys, ?_, ?_, ?_, ?_, hkeys.nodup, hkeys.perm_flatMap⟩
  · rw [aggregate_of_reads hkey, hcomputed]
  · refine (hcomputes.run hdocs hcomputed).imp ?_
    rintro doc later ⟨hsets, value, hvalue, hresolve⟩
    refine ⟨hsets, ?_⟩
    rw [valueAt, hvalue, valueAt, hresolve]
    rfl
  · exact map_eq_of_forall₂ (hforall.imp fun _ _ hgroup => hgroup.key_eq)
  · intro key hkeyMem
    have hvalue := isKeyValue_of_keysOf hselector hbucketed hkey hdocs hcomputed hkeys key hkeyMem
    obtain ⟨hreads, hrun⟩ :=
      run_narrowingStages_bucketed hselector hbucketed hkey hdocs hcomputed hvalue
    exact ⟨hvalue, by rw [aggregate_of_reads hreads, hrun]⟩

/-- The key stages of a level of width five. -/
theorem reads_keyStages_five {field : String} (h : startsWithDollar field = false) (level : Nat) :
    Reads (groupKey field (some (.numeric (.ofUInt64 5))) level 0).stages
      [.addFields [(keyField level, .binary .subtract (.field field)
        (.binary .mod (.field field) (.literal (.ofUInt64 5))))]] := by
  have hwidth : (GroupInterval.numeric (.ofUInt64 5)).width? = some (.ofUInt64 5) := by
    decide +kernel
  have hstages : (groupKey field (some (.numeric (.ofUInt64 5))) level 0).stages =
      [Pipeline.addField (keyField level) (Pipeline.binary "$subtract" (Pipeline.reference field)
        (Pipeline.binary "$mod" (Pipeline.reference field) (.number (.ofUInt64 5))))] := by
    simp only [groupKey, Option.bind_some, hwidth]
  have hvalue := Expression.ofJson_reference h
  rw [hstages]
  exact reads_one (ofJson_addField (keyField level) (Expression.ofJson_binary .subtract hvalue
    (Expression.ofJson_binary .mod hvalue (Expression.ofJson_number (.ofUInt64 5)))))

theorem ofJson_currentDocument : ∀ e ∈ some Expression.document,
    Expression.ofJson (none.getD Pipeline.currentDocument) = .ok e := by
  simp [Pipeline.currentDocument, Expression.ofJson, Expression.ofString]

/-- A document without a number, and three with one, two of them in the same bucket of width
    five. -/
def scattered : List Json :=
  [.single "b" (.ofUInt64 1), .single "a" (.ofUInt64 7), .single "a" (.ofUInt64 12),
    .single "a" (.ofUInt64 9)]

/-- The same documents with their keys. -/
def scatteredKeyed : List Json :=
  [.object [("b", .ofUInt64 1), ("___group_key_0", .null)],
    .object [("a", .ofUInt64 7), ("___group_key_0", .ofUInt64 5)],
    .object [("a", .ofUInt64 12), ("___group_key_0", .ofUInt64 10)],
    .object [("a", .ofUInt64 9), ("___group_key_0", .ofUInt64 5)]]

theorem keyStages_of_scattered :
    (Collection.mk scattered).aggregate
        (groupKey "a" (some (.numeric (.ofUInt64 5))) 0 0).stages = .ok scatteredKeyed := by
  rw [aggregate_of_reads (reads_keyStages_five rfl 0)]
  decide +kernel

theorem groupingStages_of_scattered :
    (Collection.mk scattered).aggregate (groupingStages false true true
        (groupKey "a" (some (.numeric (.ofUInt64 5))) 0 0) none) =
      .ok ([.null, .ofUInt64 5, .ofUInt64 10].map fun key => .object
        [("key", key), ("items", .array (docsOf (keyField 0) scatteredKeyed key))]) :=
  aggregate_inOrder (reads_keyStages_five rfl 0) rfl ofJson_currentDocument (by decide +kernel)
    (by decide +kernel)

/-- Each of the three buckets is narrowed to its own documents, the one without a number too. -/
theorem narrowing_bucketed_of_scattered :
    let keys : List Json := [.null, .ofUInt64 5, .ofUInt64 10]
    let narrowed (key : Json) := (Collection.mk scattered).aggregate
      (narrowingStages "a" (some (.numeric (.ofUInt64 5))) 0 0 key)
    (∀ key ∈ keys, narrowed key = .ok (docsOf (keyField 0) scatteredKeyed key)) ∧
      (keys.flatMap (docsOf (keyField 0) scatteredKeyed)).Perm scatteredKeyed ∧
      keys.map (fun key => (docsOf (keyField 0) scatteredKeyed key).length) = [1, 2, 1] := by
  intro keys narrowed
  obtain ⟨computed, found, hcomputed, -, hfound, hnarrowed, -, hperm⟩ :=
    narrowing_bucketed rfl (by decide +kernel) (by simp [scattered, Json.single, Json.isObject])
      groupingStages_of_scattered
  obtain rfl : scatteredKeyed = computed :=
    Except.ok.inj (keyStages_of_scattered.symm.trans hcomputed)
  obtain rfl : keys = found := List.map_injective_iff.mpr (Option.some_injective _) hfound
  exact ⟨fun key hkey => (hnarrowed key hkey).2, hperm, by decide +kernel⟩

/-! ## Levels of values -/

/-- A document with the key of a level of values: the value of the selector, if there is one. -/
def withKey (selector field : String) (doc : Json) : Json :=
  match doc.resolve? selector with
  | some value => doc.setPath field value
  | none => doc

theorem groupKey_values {selector : String} {interval : Option GroupInterval}
    (h : interval.any GroupInterval.isBucketed = false) (level : Nat) (offset : Int64) :
    (groupKey selector interval level offset).stages =
      [Pipeline.addField (keyField level) (Pipeline.reference selector)] := by
  cases interval with
  | none => rfl
  | some interval =>
    simp only [Option.any_some, GroupInterval.isBucketed, Bool.or_eq_false_iff,
      Option.isSome_eq_false_iff, Option.isNone_iff_eq_none] at h
    simp only [groupKey, Option.bind_some, h.1, h.2]

theorem reads_keyStages_values {selector : String} {interval : Option GroupInterval}
    (hselector : startsWithDollar selector = false)
    (h : interval.any GroupInterval.isBucketed = false) (level : Nat) (offset : Int64) :
    Reads (groupKey selector interval level offset).stages
      [.addFields [(keyField level, .field selector)]] := by
  rw [groupKey_values h]
  exact reads_one (ofJson_addField _ (Expression.ofJson_reference hselector))

/-- The key stage of a level of values never fails. -/
theorem run_keyStages_values (selector field : String) (docs : List Json) :
    runStages [.addFields [(field, .field selector)]] docs =
      .ok (docs.map (withKey selector field)) := by
  rw [runStages_one, Stage.run]
  refine mapError_eq_ok.mpr (mapM_total fun doc _ => ?_)
  simp only [computeFields, Expression.eval?, withKey]
  cases doc.resolve? selector <;> rfl

theorem sets_withKey (selector : String) (level : Nat) (doc : Json) :
    Sets (levelFields level) doc (withKey selector (keyField level) doc) := by
  unfold withKey
  split
  · exact .one (by simp [levelFields]) doc _
  · exact .same

/-- The key of a document is its value, if the key field was not there before. -/
theorem valueAt_withKey {selector field : String} {doc : Json} (hpoint : HasNoPoint field)
    (hdoc : doc.isObject = true) (hnew : doc.resolve? field = none) :
    valueAt field (withKey selector field doc) = valueAt selector doc := by
  unfold withKey valueAt
  split
  · next value hvalue =>
    cases doc with
    | object entries => rw [Json.resolve?_setPath_self hpoint, hvalue]
    | _ => cases hdoc
  · next hvalue => rw [hnew, hvalue]

/-- A plain document has no reserved field. -/
theorem IsPlain.resolve?_reserved {doc : Json} (h : IsPlain doc) {name : String}
    (hpoint : HasNoPoint name) (hreserved : isReserved name = true) :
    doc.resolve? name = none := by
  obtain ⟨entries, rfl, hkeys⟩ := h
  rw [resolve?_of_noPoint hpoint]
  refine Entries.get?_eq_none fun hmem => ?_
  rw [hkeys name hmem] at hreserved
  cases hreserved

/-- The keys of a level of values are those of the values. -/
theorem KeysOf.of_withKey {selector : String} {level : Nat} {docs keys : List Json}
    (hdocs : ∀ doc ∈ docs, doc.isObject = true ∧ doc.resolve? (keyField level) = none)
    (h : KeysOf (keyField level) (docs.map (withKey selector (keyField level))) keys) :
    KeysOf selector docs keys where
  nodup := h.nodup
  exists_doc key hkey := by
    obtain ⟨later, hlater, rfl⟩ := h.exists_doc key hkey
    obtain ⟨doc, hdoc, rfl⟩ := List.mem_map.mp hlater
    obtain ⟨hobject, hnew⟩ := hdocs doc hdoc
    exact ⟨doc, hdoc,
      (valueAt_withKey (Pipeline.hasNoPoint_keyField level) hobject hnew).symm⟩
  covers doc hdoc := by
    obtain ⟨hobject, hnew⟩ := hdocs doc hdoc
    have h := h.covers _ (List.mem_map_of_mem hdoc)
    rwa [valueAt_withKey (Pipeline.hasNoPoint_keyField level) hobject hnew] at h

/-- The documents of a key, with the key written to them. -/
theorem docsOf_withKey {selector : String} {level : Nat} {docs : List Json}
    (hdocs : ∀ doc ∈ docs, doc.isObject = true ∧ doc.resolve? (keyField level) = none)
    (key : Json) :
    docsOf (keyField level) (docs.map (withKey selector (keyField level))) key =
      (docsOf selector docs key).map (withKey selector (keyField level)) := by
  rw [docsOf, docsOf, List.filter_map]
  refine congrArg _ (List.filter_congr fun doc hdoc => ?_)
  obtain ⟨hobject, hnew⟩ := hdocs doc hdoc
  rw [Function.comp_apply, valueAt_withKey (Pipeline.hasNoPoint_keyField level) hobject hnew]

theorem reads_narrowingStages_values {selector : String} {interval : Option GroupInterval}
    (h : interval.any GroupInterval.isBucketed = false) (level : Nat) (offset : Int64)
    (key : Json) :
    Reads (narrowingStages selector interval level offset key)
      [.keepMatching (.single selector key)] := by
  rw [narrowingStages, if_neg (by rw [h]; simp)]
  exact reads_matchStages selector key

/-- Narrowing a level of values keeps the documents whose value meets the key. -/
theorem run_narrowingStages_values {selector : String}
    (hselector : startsWithDollar selector = false) {docs kept : List Json} {key : Json}
    (h : runStages [.keepMatching (.single selector key)] docs = .ok kept) :
    (∀ doc ∈ docs, ∃ holds, meets (doc.resolve? selector) key = .ok holds) ∧
      kept = docs.filter fun doc => meets (doc.resolve? selector) key = .ok true := by
  have hlocal : IsLocal (runStages [.keepMatching (.single selector key)]) :=
    isLocal_runStages (by simp [Stage.LooksAtOne])
  have hmeets : ∀ doc ∈ docs, ∃ holds, meets (doc.resolve? selector) key = .ok holds := by
    intro doc hdoc
    obtain ⟨out, hout⟩ := hlocal.ok_iff.mp ⟨kept, h⟩ doc hdoc
    rw [runStages_one, run_keepMatching_one] at hout
    obtain ⟨holds, hholds, -⟩ := hout
    exact ⟨holds, by rw [← satisfies_single hselector, hholds]⟩
  have hrun : runStages [.keepMatching (.single selector key)] docs =
      .ok (docs.filter fun doc => meets (doc.resolve? selector) key = .ok true) := by
    refine run_matchStages hselector fun doc hdoc => ?_
    obtain ⟨holds, hholds⟩ := hmeets doc hdoc
    rw [hholds]
    cases holds <;> rfl
  rw [hrun] at h
  exact ⟨hmeets, (Except.ok.inj h).symm⟩

/-! ## Documents that go astray -/

/-- A document with this value at the selector is not treated alike by grouping, which goes by key
    texts, and by matching on the key. -/
inductive Strays (value : Option Json) (key : Json) : Prop
  /-- An array that holds the key is in a group of its own, but matches the key. -/
  | holdsKey {items : List Json} {item : Json} : value = some (.array items) →
      key.isArray = false → operators? key = none → item ∈ items → item.isEqualTo key = true →
      Strays value key
  /-- A value that equals the key but is written otherwise, as `[1.0]` and `[1]`. -/
  | writtenOtherwise {v : Json} : value = some v → (v.isArray = true → key.isArray = true) →
      operators? key = none → v.isEqualTo key = true → v.keyText ≠ key.keyText → Strays value key
  /-- Another instant of the same millisecond. -/
  | sameMillisecond {v : Json} {x y : Instant} : value = some v → v.instant? = some x →
      key.instant? = some y → x.millis = y.millis → x ≠ y → Strays value key
  /-- A key that reads as operators, where they do not hold of the key alone. -/
  | operators {conditions : Entries} {holds : Bool} : operators? key = some conditions →
      meets value key = .ok holds → holds ≠ decide (value = some key) → Strays value key

theorem isEqualTo_dates {a b : Json} {x y : Instant} (ha : a.instant? = some x)
    (hb : b.instant? = some y) : a.isEqualTo b = true ↔ x = y := by
  rw [Json.isEqualTo_iff, Json.compare_dates ha hb]
  constructor
  · intro h
    rw [Instant.compare, Ordering.then_eq_eq, Std.LawfulEqCmp.compare_eq_iff_eq,
      Std.LawfulEqCmp.compare_eq_iff_eq] at h
    cases x
    cases y
    simp_all
  · rintro rfl
    exact Std.ReflCmp.compare_self

/-- A key that reads as operators is no date. -/
theorem instant_of_operators {key : Json} {conditions : Entries}
    (h : operators? key = some conditions) : key.instant? = none := by
  cases key with
  | object entries =>
    simp only [operators?] at h
    split_ifs at h with hcondition
    simp only [Bool.and_eq_true, Bool.not_eq_true'] at hcondition
    unfold Json.instant?
    split
    · next name content heq =>
      cases heq
      refine if_neg ?_
      rintro rfl
      simp [Entries.contains, Entries.get?] at hcondition
    · rfl
  | _ => cases h

/-- The text of a key that reads as operators is that of the key alone. -/
theorem keyText_operators_iff {value : Option Json} {key : Json} {conditions : Entries}
    (h : operators? key = some conditions) :
    (value.getD .null).keyText = key.keyText ↔ value = some key := by
  have hkey := instant_of_operators h
  have hobject : ∃ entries, key = .object entries := by
    cases key with
    | object entries => exact ⟨entries, rfl⟩
    | _ => cases h
  obtain ⟨entries, rfl⟩ := hobject
  rw [Json.keyText_eq_iff, hkey]
  cases value with
  | none => simp [Json.instant?]
  | some v =>
    cases hv : v.instant? with
    | some x =>
      simp only [Option.getD_some, hv, Option.some.injEq, false_iff]
      rintro rfl
      rw [hkey] at hv
      cases hv
    | none => simp [hv]

/-- Without operators, a document goes astray by the value that it has. -/
theorem strays_iff_of_no_operators {value : Option Json} {key : Json}
    (hkey : operators? key = none) :
    Strays value key ↔ ∃ v, value = some v ∧
      ((∃ items item, v = .array items ∧ key.isArray = false ∧ item ∈ items ∧
          item.isEqualTo key = true) ∨
        ((v.isArray = true → key.isArray = true) ∧ v.isEqualTo key = true ∧
          v.keyText ≠ key.keyText) ∨
        ∃ x y, v.instant? = some x ∧ key.instant? = some y ∧ x.millis = y.millis ∧ x ≠ y) := by
  constructor
  · intro h
    cases h with
    | holdsKey hv hnot _ hmem hequal =>
      exact ⟨_, hv, Or.inl ⟨_, _, rfl, hnot, hmem, hequal⟩⟩
    | writtenOtherwise hv harray _ hequal htext =>
      exact ⟨_, hv, Or.inr (Or.inl ⟨harray, hequal, htext⟩)⟩
    | sameMillisecond hv hx hy hmillis hne =>
      exact ⟨_, hv, Or.inr (Or.inr ⟨_, _, hx, hy, hmillis, hne⟩)⟩
    | operators hconditions _ _ =>
      rw [hkey] at hconditions
      cases hconditions
  · rintro ⟨v, hv, ⟨items, item, rfl, hnot, hmem, hequal⟩ | ⟨harray, hequal, htext⟩ |
      ⟨x, y, hx, hy, hmillis, hne⟩⟩
    · exact .holdsKey hv hnot hkey hmem hequal
    · exact .writtenOtherwise hv harray hkey hequal htext
    · exact .sameMillisecond hv hx hy hmillis hne

/-- With operators, a document goes astray if they do not hold of the key alone. -/
theorem strays_iff_of_operators {value : Option Json} {key : Json} {conditions : Entries}
    (hkey : operators? key = some conditions) :
    Strays value key ↔
      ∃ holds, meets value key = .ok holds ∧ holds ≠ decide (value = some key) := by
  constructor
  · intro h
    cases h with
    | holdsKey _ _ hnone _ _ => rw [hkey] at hnone; cases hnone
    | writtenOtherwise _ _ hnone _ _ => rw [hkey] at hnone; cases hnone
    | sameMillisecond _ _ hy _ _ => rw [instant_of_operators hkey] at hy; cases hy
    | operators _ hholds hne => exact ⟨_, hholds, hne⟩
  · rintro ⟨holds, hholds, hne⟩
    exact .operators hkey hholds hne

/-- Where the key is matched as a value, grouping and matching part in two cases. -/
theorem strays_value_iff {v key : Json} (harray : v.isArray = true → key.isArray = true)
    (hkey : operators? key = none) :
    v.isEqualTo key = decide (v.keyText = key.keyText) ↔ ¬Strays (some v) key := by
  rw [strays_iff_of_no_operators hkey]
  constructor
  · rintro h ⟨_, ⟨⟩, ⟨items, item, rfl, hnot, -⟩ | ⟨-, hequal, htext⟩ |
      ⟨x, y, hx, hy, hmillis, hne⟩⟩
    · rw [harray rfl] at hnot
      cases hnot
    · rw [h] at hequal
      exact htext (of_decide_eq_true hequal)
    · have htext : v.keyText = key.keyText := by
        rw [Json.keyText_eq_iff, hx, hy]
        exact hmillis
      rw [decide_eq_true htext, isEqualTo_dates hx hy] at h
      exact hne h
  · intro h
    rw [Bool.eq_iff_iff, decide_eq_true_eq]
    constructor
    · intro hequal
      by_contra htext
      exact h ⟨v, rfl, Or.inr (Or.inl ⟨harray, hequal, htext⟩)⟩
    · intro htext
      cases hx : v.instant? with
      | none => exact Json.isEqualTo_of_keyText hx htext
      | some x =>
        have hmillis := Json.keyText_eq_iff.mp htext
        cases hy : key.instant? with
        | none => simp [hx, hy] at hmillis
        | some y =>
          rw [isEqualTo_dates hx hy]
          by_contra hne
          rw [hx, hy] at hmillis
          exact h ⟨v, rfl, Or.inr (Or.inr ⟨x, y, hx, hy, hmillis, hne⟩)⟩

theorem keyText_array_ne {items : List Json} {key : Json} (hnot : key.isArray = false) :
    (Json.array items).keyText ≠ key.keyText := by
  rw [ne_eq, Json.keyText_eq_iff]
  cases hy : key.instant? with
  | some y => exact id
  | none =>
    rintro (⟨m, n, hm, -⟩ | rfl)
    · cases hm
    · cases hnot

/-- Where the key is sought in an array, the two part if it is there. -/
theorem strays_array_iff {items : List Json} {key : Json} (hnot : key.isArray = false)
    (hkey : operators? key = none) :
    equalsOperand (some (.array items)) key = decide ((Json.array items).keyText = key.keyText) ↔
      ¬Strays (some (.array items)) key := by
  have hany : equalsOperand (some (.array items)) key = items.any (·.isEqualTo key) := by
    rw [equalsOperand, hnot]
    rfl
  rw [hany, decide_eq_false (keyText_array_ne hnot), List.any_eq_false,
    strays_iff_of_no_operators hkey]
  constructor
  · rintro h ⟨_, ⟨⟩, ⟨_, item, ⟨⟩, -, hmem, hequal⟩ | ⟨harray, -⟩ | ⟨x, _, hx, -⟩⟩
    · exact h item hmem hequal
    · rw [harray rfl] at hnot
      cases hnot
    · cases hx
  · intro h item hmem hequal
    exact h ⟨_, rfl, Or.inl ⟨items, item, rfl, hnot, hmem, hequal⟩⟩

theorem equalsOperand_as_value {v key : Json} (h : v.isArray = true → key.isArray = true) :
    equalsOperand (some v) key = v.isEqualTo key := by
  cases harray : v.isArray with
  | false => exact equalsOperand_of_not_array harray key
  | true =>
    cases v with
    | array items =>
      rw [equalsOperand, h rfl]
      rfl
    | _ => cases harray

/-- A document without a value goes astray no more than one with null. -/
theorem not_strays_none {key : Json} (hkey : operators? key = none) : ¬Strays none key := by
  rw [strays_iff_of_no_operators hkey]
  rintro ⟨_, ⟨⟩, -⟩

theorem not_strays_null {key : Json} (hkey : operators? key = none) :
    ¬Strays (some .null) key := by
  rw [strays_iff_of_no_operators hkey]
  rintro ⟨_, ⟨⟩, ⟨_, _, ⟨⟩, -⟩ | ⟨-, hequal, htext⟩ | ⟨x, _, hx, -⟩⟩
  · rw [isEqualTo_null] at hequal
    cases key with
    | null => exact htext rfl
    | _ => cases hequal
  · cases hx

/-- Grouping and matching treat a document alike exactly if it does not go astray. -/
theorem meets_iff_not_strays {value : Option Json} {key : Json} {holds : Bool}
    (h : meets value key = .ok holds) :
    holds = decide ((value.getD .null).keyText = key.keyText) ↔ ¬Strays value key := by
  cases hkey : operators? key with
  | some conditions =>
    rw [decide_eq_decide.mpr (keyText_operators_iff hkey), strays_iff_of_operators hkey, h]
    constructor
    · rintro heq ⟨_, ⟨⟩, hne⟩
      exact hne heq
    · intro hnot
      by_contra hne
      exact hnot ⟨holds, rfl, hne⟩
  | none =>
    rw [meets_of_no_operators hkey] at h
    obtain rfl := Except.ok.inj h
    cases value with
    | none =>
      have htext := (strays_value_iff (v := .null) nofun hkey).mpr (not_strays_null hkey)
      refine iff_of_true ?_ (not_strays_none hkey)
      rw [Option.getD_none, ← htext, isEqualTo_null]
      rfl
    | some v =>
      by_cases harray : v.isArray = true → key.isArray = true
      · rw [equalsOperand_as_value harray]
        exact strays_value_iff harray hkey
      · rw [Classical.not_imp, Bool.not_eq_true] at harray
        obtain ⟨items, rfl⟩ : ∃ items, v = .array items := by
          cases v with
          | array items => exact ⟨items, rfl⟩
          | _ => cases harray.1
        exact strays_array_iff harray.2 hkey

theorem filter_eq_filter_iff {α : Type} {p q : α → Bool} {l : List α} :
    l.filter p = l.filter q ↔ ∀ x ∈ l, p x = q x := by
  refine ⟨fun h x hx => ?_, List.filter_congr⟩
  have hmem : x ∈ l.filter p ↔ x ∈ l.filter q := by rw [h]
  rw [List.mem_filter, List.mem_filter, and_iff_right hx, and_iff_right hx] at hmem
  exact Bool.eq_iff_iff.mpr hmem

/-- Narrowing to a key gives the documents of its text, in order, exactly if none goes astray. -/
theorem run_narrowing_iff {selector : String} (hselector : startsWithDollar selector = false)
    {docs kept : List Json} {key : Json}
    (h : runStages [.keepMatching (.single selector key)] docs = .ok kept) :
    kept = docsOf selector docs key ↔ ∀ doc ∈ docs, ¬Strays (doc.resolve? selector) key := by
  obtain ⟨hmeets, rfl⟩ := run_narrowingStages_values hselector h
  rw [docsOf, filter_eq_filter_iff]
  refine forall₂_congr fun doc hdoc => ?_
  obtain ⟨holds, hholds⟩ := hmeets doc hdoc
  rw [← meets_iff_not_strays hholds, hholds, valueAt]
  cases holds <;> simp

/-- The groups of a level of values share out its documents by the texts of their values, and
    whenever narrowing to the key of a group gives an answer, the answer is the documents of that
    group, in order, exactly if no document goes astray. -/
theorem narrowing_values_iff {selector : String} {interval : Option GroupInterval} {level : Nat}
    {offset : Int64} (hselector : startsWithDollar selector = false)
    (hvalues : interval.any GroupInterval.isBucketed = false)
    {desc includeItems countSeparately : Bool} {projection : Option Json}
    {docs groups : List Json} (hdocs : ∀ doc ∈ docs, IsPlain doc)
    (hgroups : (Collection.mk docs).aggregate (groupingStages desc includeItems countSeparately
      (groupKey selector interval level offset) projection) = .ok groups) :
    ∃ keys : List Json,
      groups.map (Json.get? · "key") = keys.map some ∧
      (keys.map Json.keyText).Nodup ∧
      (keys.flatMap (docsOf selector docs)).Perm docs ∧
      ∀ key ∈ keys, ∀ kept,
        (Collection.mk docs).aggregate (narrowingStages selector interval level offset key) =
          .ok kept →
        (kept = docsOf selector docs key ↔
          ∀ doc ∈ docs, ¬Strays (doc.resolve? selector) key) := by
  obtain ⟨stages, hreads, hrun⟩ := aggregate_eq_ok.mp hgroups
  obtain ⟨keyStages, items, computed, keys, hkey, -, -, hcomputed, hkeys, hforall⟩ :=
    run_groupingStages hreads hrun
  obtain rfl := hkey.unique (reads_keyStages_values hselector hvalues level offset)
  rw [run_keyStages_values] at hcomputed
  obtain rfl := Except.ok.inj hcomputed
  have hvaluesOf : KeysOf selector docs keys := hkeys.of_withKey fun doc hdoc =>
    ⟨(hdocs doc hdoc).isObject, (hdocs doc hdoc).resolve?_reserved
      (Pipeline.hasNoPoint_keyField level) (Pipeline.isReserved_keyField level)⟩
  refine ⟨keys, ?_, hvaluesOf.nodup, hvaluesOf.perm_flatMap, ?_⟩
  · exact map_eq_of_forall₂ (hforall.imp fun _ _ hgroup => hgroup.key_eq)
  · intro key _ kept hkept
    rw [aggregate_of_reads (reads_narrowingStages_values hvalues level offset key)] at hkept
    exact run_narrowing_iff hselector hkept

/-- A document with the item `1` and one with the array `[1]`. -/
def itemAndArray : List Json :=
  [.single "a" (.ofUInt64 1), .single "a" (.array [.ofUInt64 1])]

/-- The groups of the two documents. -/
def groupsOfItemAndArray : List Json :=
  [.object [("key", .ofUInt64 1), ("items", .null)],
    .object [("key", .array [.ofUInt64 1]), ("items", .null)]]

theorem groupingStages_of_itemAndArray :
    (Collection.mk itemAndArray).aggregate (groupingStages false false true
      (groupKey "a" none 0 0) none) = .ok groupsOfItemAndArray := by
  have hshown : runStages ([.addFields [(keyField 0, .field "a")]] ++
      [.group (.field (keyField 0)) (levelAccumulators true none),
        .project (levelProjection true false)]) itemAndArray =
      .ok [.single "key" (.ofUInt64 1), .single "key" (.array [.ofUInt64 1])] := by
    decide +kernel
  exact aggregate_inOrder (reads_keyStages_values rfl rfl 0 0) Option.isSome_none nofun hshown
    (by decide +kernel)

theorem aggregate_narrowing_itemAndArray :
    (Collection.mk itemAndArray).aggregate (narrowingStages "a" none 0 0 (.ofUInt64 1)) =
        .ok itemAndArray ∧
      (Collection.mk itemAndArray).aggregate
          (narrowingStages "a" none 0 0 (.array [.ofUInt64 1])) =
        .ok (docsOf "a" itemAndArray (.array [.ofUInt64 1])) := by
  rw [aggregate_of_reads (reads_narrowingStages_values rfl 0 0 _),
    aggregate_of_reads (reads_narrowingStages_values rfl 0 0 _)]
  decide +kernel

/-- The array goes astray for the key `1`, and no document does for the key `[1]`. -/
theorem narrowing_values_of_itemAndArray :
    (∀ doc ∈ itemAndArray, ¬Strays (doc.resolve? "a") (.array [.ofUInt64 1])) ∧
      ∃ doc ∈ itemAndArray, Strays (doc.resolve? "a") (.ofUInt64 1) := by
  have hplain : ∀ doc ∈ itemAndArray, IsPlain doc := by decide
  obtain ⟨keys, hkeys, -, -, hiff⟩ :=
    narrowing_values_iff rfl rfl hplain groupingStages_of_itemAndArray
  obtain rfl : keys = [.ofUInt64 1, .array [.ofUInt64 1]] :=
    List.map_injective_iff.mpr (Option.some_injective Json) hkeys.symm
  obtain ⟨hitem, harray⟩ := aggregate_narrowing_itemAndArray
  refine ⟨(hiff _ (by simp) _ harray).mp rfl, ?_⟩
  by_contra hnone
  push Not at hnone
  exact absurd ((hiff _ (by simp) _ hitem).mpr hnone) (by decide +kernel)

/-- The key `1` has a group of one document, and narrowing to it keeps two. -/
theorem narrowing_keeps_array :
    ∃ groups : List Json,
      (Collection.mk itemAndArray).aggregate (groupingStages false false true
          (groupKey "a" none 0 0) none) = .ok groups ∧
        some (.ofUInt64 1) ∈ groups.map (Json.get? · "key") ∧
        (Collection.mk itemAndArray).aggregate
            (narrowingStages "a" none 0 0 (.ofUInt64 1)) = .ok itemAndArray ∧
        docsOf "a" itemAndArray (.ofUInt64 1) = [.single "a" (.ofUInt64 1)] :=
  ⟨_, groupingStages_of_itemAndArray, by decide +kernel, aggregate_narrowing_itemAndArray.1,
    by decide +kernel⟩

end GridQuery
