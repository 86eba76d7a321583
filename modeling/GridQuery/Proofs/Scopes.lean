import Mathlib
import GridQuery.Proofs.Narrowing

/-!
# Scopes

The groups inside a group come from the documents that the levels above have narrowed to it. These
are documents of the collection in which key fields of the levels above may stand, and nothing else
is new.

Results:
* `Descends`: a document inside a scope, and what of it is as it was in the collection.
* `sharesOut_bucketed`, `sharesOut_values`: narrowing to the keys of a level shares out the
  documents of a scope among the scopes inside it, to each as many as its group has.
-/

namespace GridQuery

open Collection (runStages runStages_append_eq_ok)
open Pipeline (groupKey keyField narrowingStages)

/-! ## Documents inside a scope -/

/-- The key fields of the levels above a level. -/
def fieldsAbove (level : Nat) : List String := (List.range level).flatMap levelFields

/-- A document of the collection in which key fields of the levels above may stand. -/
def Descends (docs : List Json) (level : Nat) (later : Json) : Prop :=
  ∃ doc ∈ docs, Sets (fieldsAbove level) doc later

theorem mem_fieldsAbove {level : Nat} {name : String} (h : name ∈ fieldsAbove level) :
    ∃ above < level, name ∈ levelFields above := by
  obtain ⟨above, habove, hname⟩ := List.mem_flatMap.mp h
  exact ⟨above, List.mem_range.mp habove, hname⟩

theorem hasNoPoint_fieldsAbove {level : Nat} : ∀ name ∈ fieldsAbove level, HasNoPoint name := by
  intro name hname
  obtain ⟨above, -, hname⟩ := mem_fieldsAbove hname
  exact hasNoPoint_levelFields name hname

theorem isReserved_fieldsAbove {level : Nat} :
    ∀ name ∈ fieldsAbove level, isReserved name = true := by
  intro name hname
  obtain ⟨above, -, hname⟩ := mem_fieldsAbove hname
  exact isReserved_levelFields name hname

theorem fieldsAbove_succ (level : Nat) :
    fieldsAbove (level + 1) = fieldsAbove level ++ levelFields level := by
  rw [fieldsAbove, List.range_succ, List.flatMap_append, List.flatMap_singleton]
  rfl

theorem keyField_injective {a b : Nat} (h : keyField a = keyField b) : a = b := by
  have htext : toString a = toString b := by
    have hlist := congrArg String.toList h
    rw [keyField, keyField, String.toList_append, String.toList_append] at hlist
    exact String.toList_inj.mp (List.append_cancel_left hlist)
  exact Nat.repr_injective htext

theorem keyField_ne_quarterScratch (level : Nat) : keyField level ≠ Pipeline.quarterScratch := by
  intro h
  have hlist := congrArg String.toList h
  rw [keyField, String.toList_append] at hlist
  have hlength := congrArg List.length hlist
  rw [List.length_append] at hlength
  have hprefix : Pipeline.keyPrefix.toList.length = 13 := by decide
  have hscratch : Pipeline.quarterScratch.toList.length = 6 := by decide
  omega

/-- The key field of a level is none of the fields of the levels above. -/
theorem keyField_not_mem_fieldsAbove (level : Nat) : keyField level ∉ fieldsAbove level := by
  intro hmem
  obtain ⟨above, habove, hname⟩ := mem_fieldsAbove hmem
  rcases List.mem_pair.mp hname with h | h
  · exact absurd (keyField_injective h) (by omega)
  · exact keyField_ne_quarterScratch level h

namespace Descends

variable {docs : List Json} {level : Nat} {later : Json}

theorem of_mem {doc : Json} (h : doc ∈ docs) : Descends docs 0 doc := ⟨doc, h, .same⟩

theorem isObject (h : Descends docs level later) (hdocs : ∀ doc ∈ docs, IsPlain doc) :
    later.isObject = true := by
  obtain ⟨doc, hdoc, hsets⟩ := h
  exact hsets.isObject (hdocs doc hdoc).isObject

/-- A path that is not reserved leads where it led in the collection. -/
theorem exists_resolve? (h : Descends docs level later) {path : String}
    (hpath : isReserved path = false) : ∃ doc ∈ docs, later.resolve? path = doc.resolve? path := by
  obtain ⟨doc, hdoc, hsets⟩ := h
  exact ⟨doc, hdoc, hsets.resolve? hasNoPoint_fieldsAbove fun name hname =>
    firstKey_ne hpath (isReserved_fieldsAbove name hname)⟩

/-- There is no key field of the level yet. -/
theorem resolve?_keyField (h : Descends docs level later) (hdocs : ∀ doc ∈ docs, IsPlain doc) :
    later.resolve? (keyField level) = none := by
  obtain ⟨doc, hdoc, hsets⟩ := h
  have hpoint := Pipeline.hasNoPoint_keyField level
  rw [hsets.resolve? hasNoPoint_fieldsAbove]
  · exact (hdocs doc hdoc).resolve?_reserved hpoint (Pipeline.isReserved_keyField level)
  · rw [firstKey_of_noPoint hpoint]
    rintro name hname rfl
    exact keyField_not_mem_fieldsAbove level hname

theorem succ_of_sets {last : Json} (h : Descends docs level later)
    (hsets : Sets (levelFields level) later last) : Descends docs (level + 1) last := by
  obtain ⟨doc, hdoc, hfirst⟩ := h
  refine ⟨doc, hdoc, ?_⟩
  rw [fieldsAbove_succ]
  exact (hfirst.mono (List.subset_append_left _ _)).trans
    (hsets.mono (List.subset_append_right _ _))

theorem succ (h : Descends docs level later) : Descends docs (level + 1) later :=
  h.succ_of_sets .same

end Descends

/-! ## Sharing out the documents of a scope -/

/-- Narrowing to the keys shares out the documents of a scope, as they are shown. -/
structure SharesOut (docs : List Json) (level : Nat) (shown : Json → Json)
    (narrow : Json → Pipeline) (inside keys : List Json) (parts : Json → List Json) : Prop where
  runs : ∀ key ∈ keys, ∃ stages, Reads (narrow key) stages ∧
    (∀ stage ∈ stages, stage.LooksAtOne) ∧ runStages stages inside = .ok (parts key)
  descends : ∀ key ∈ keys, ∀ doc ∈ parts key, Descends docs (level + 1) doc
  inhabited : ∀ key ∈ keys, parts key ≠ []
  sublist : ∀ key ∈ keys, ((parts key).map shown).Sublist (inside.map shown)
  perm : (keys.flatMap fun key => (parts key).map shown).Perm (inside.map shown)

/-- The documents of the keys, each shown, are the documents they come from, each shown. -/
theorem sharesOut_docsOf {field : String} {shown : Json → Json} {computed inside keys : List Json}
    (hkeys : KeysOf field computed keys) (hshown : computed.map shown = inside.map shown) :
    (∀ key ∈ keys, ((docsOf field computed key).map shown).Sublist (inside.map shown)) ∧
      (keys.flatMap fun key => (docsOf field computed key).map shown).Perm
        (inside.map shown) := by
  rw [← hshown]
  constructor
  · intro key _
    exact List.filter_sublist.map shown
  · rw [← List.map_flatMap]
    exact hkeys.perm_flatMap.map shown

variable {docs : List Json} {level : Nat} {shown : Json → Json} {selector : String}
  {offset : Int64} {inside inside' keys : List Json}

/-- A bucketed level shares out the documents of a scope. The keys are those of the documents in any
    order. -/
theorem sharesOut_bucketed {interval : GroupInterval}
    (hshown : ∀ doc later, Sets (levelFields level) doc later → shown later = shown doc)
    (hselector : startsWithDollar selector = false) (hbucketed : interval.isBucketed = true)
    (hdocs : ∀ doc ∈ docs, IsPlain doc) (hinside : ∀ doc ∈ inside, Descends docs level doc)
    (hperm : inside'.Perm inside) {keyStages : List Stage} {computed : List Json}
    (hreads : Reads (groupKey selector (some interval) level offset).stages keyStages)
    (hrun : runStages keyStages inside' = .ok computed)
    (hkeys : KeysOf (keyField level) computed keys) :
    ∃ parts, SharesOut docs level shown (narrowingStages selector (some interval) level offset)
        inside keys parts ∧
      ∀ key, (docsOf (keyField level) computed key).length = (parts key).length := by
  obtain ⟨_, hstages, hcomputes⟩ := computes_keyStages hselector hbucketed level offset
  obtain rfl := hreads.unique hstages
  obtain ⟨computed', hrun', hcomputed⟩ :=
    (isLocal_runStages hcomputes.looksAtOne).perm hperm hrun
  have hobject : ∀ doc ∈ inside, doc.isObject = true := fun doc hdoc =>
    (hinside doc hdoc).isObject hdocs
  have hkeys' := hkeys.docs_perm hcomputed
  have hsets := hcomputes.run hobject hrun'
  obtain ⟨hsublist, hshare⟩ := sharesOut_docsOf hkeys'
    (map_eq_of_forall₂ (hsets.imp fun doc later h => hshown doc later h.1))
  refine ⟨docsOf (keyField level) computed', ⟨?_, ?_, hkeys'.docsOf_ne_nil, hsublist, hshare⟩,
    fun key => (hcomputed.filter _).length_eq⟩
  · intro key hkey
    obtain ⟨hnarrow, hnarrowed⟩ := run_narrowingStages_bucketed hselector hbucketed hreads hobject
      hrun' (isKeyValue_of_keysOf hselector hbucketed hreads hobject hrun' hkeys' key hkey)
    have hlooks : ∀ stage ∈ [Stage.keepMatching (.single (keyField level) key)],
        stage.LooksAtOne := by
      simp [Stage.LooksAtOne]
    exact ⟨_, hnarrow, List.forall_mem_append.mpr ⟨hcomputes.looksAtOne, hlooks⟩, hnarrowed⟩
  · intro key _ later hlater
    obtain ⟨doc, hdoc, hset, -⟩ := exists_of_mem_right hsets (List.mem_of_mem_filter hlater)
    exact (hinside doc hdoc).succ_of_sets hset

/-- A level of values shares out the documents of a scope, if the values are neither arrays nor
    objects. The keys are those of the documents in any order. -/
theorem sharesOut_values {interval : Option GroupInterval}
    (hselector : startsWithDollar selector = false) (hreserved : isReserved selector = false)
    (hvalues : interval.any GroupInterval.isBucketed = false)
    (hscalar : ∀ doc ∈ docs, (valueAt selector doc).isScalar = true)
    (hdocs : ∀ doc ∈ docs, IsPlain doc) (hinside : ∀ doc ∈ inside, Descends docs level doc)
    (hperm : inside'.Perm inside) {keyStages : List Stage} {computed : List Json}
    (hreads : Reads (groupKey selector interval level offset).stages keyStages)
    (hrun : runStages keyStages inside' = .ok computed)
    (hkeys : KeysOf (keyField level) computed keys) :
    ∃ parts, SharesOut docs level shown (narrowingStages selector interval level offset)
        inside keys parts ∧
      ∀ key, (docsOf (keyField level) computed key).length = (parts key).length := by
  obtain rfl := hreads.unique (reads_keyStages_values hselector hvalues level offset)
  rw [run_keyStages_values] at hrun
  obtain rfl := Except.ok.inj hrun
  have hnew : ∀ doc ∈ inside', doc.isObject = true ∧ doc.resolve? (keyField level) = none :=
    fun doc hdoc =>
      have hdescends := hinside doc (hperm.mem_iff.mp hdoc)
      ⟨hdescends.isObject hdocs, hdescends.resolve?_keyField hdocs⟩
  have hvaluesOf : KeysOf selector inside' keys := hkeys.of_withKey hnew
  have hkeys' := hvaluesOf.docs_perm hperm
  have hscalar' : ∀ doc ∈ inside, (valueAt selector doc).isScalar = true := by
    intro later hlater
    obtain ⟨doc, hdoc, heq⟩ := (hinside later hlater).exists_resolve? hreserved
    rw [valueAt, heq]
    exact hscalar doc hdoc
  obtain ⟨hsublist, hshare⟩ := sharesOut_docsOf hkeys' (rfl : inside.map shown = inside.map shown)
  refine ⟨docsOf selector inside, ⟨?_, ?_, hkeys'.docsOf_ne_nil, hsublist, hshare⟩, fun key => ?_⟩
  · intro key hkey
    refine ⟨_, reads_narrowingStages_values hvalues level offset key, by simp [Stage.LooksAtOne],
      run_matchStages hselector fun doc hdoc => ?_⟩
    have hkeyScalar : key.isScalar = true := by
      obtain ⟨doc, hdoc, rfl⟩ := hkeys'.exists_doc key hkey
      exact hscalar' doc hdoc
    rw [meets_of_no_operators (operators_of_isScalar hkeyScalar),
      equalsOperand_scalar (hscalar' doc hdoc) hkeyScalar]
    rfl
  · intro key _ doc hdoc
    exact (hinside doc (List.mem_of_mem_filter hdoc)).succ
  · rw [docsOf_withKey hnew, List.length_map]
    exact (hperm.filter _).length_eq

/-- The key stages of a level set no other fields than those of the level. -/
theorem sets_of_keyStages {interval : Option GroupInterval}
    (hselector : startsWithDollar selector = false)
    (hobject : ∀ doc ∈ inside, doc.isObject = true) {keyStages : List Stage} {computed : List Json}
    (hreads : Reads (groupKey selector interval level offset).stages keyStages)
    (hrun : runStages keyStages inside = .ok computed) :
    List.Forall₂ (Sets (levelFields level)) inside computed := by
  cases hany : interval.any GroupInterval.isBucketed with
  | true =>
    obtain ⟨interval, rfl, hbucketed⟩ := (Option.any_eq_true _ _).mp hany
    obtain ⟨_, hstages, hcomputes⟩ := computes_keyStages hselector hbucketed level offset
    obtain rfl := hreads.unique hstages
    exact (hcomputes.run hobject hrun).imp fun _ _ h => h.1
  | false =>
    obtain rfl := hreads.unique (reads_keyStages_values hselector hany level offset)
    rw [run_keyStages_values] at hrun
    obtain rfl := Except.ok.inj hrun
    rw [List.forall₂_map_right_iff]
    exact List.forall₂_same.mpr fun doc _ => sets_withKey selector level doc

end GridQuery
