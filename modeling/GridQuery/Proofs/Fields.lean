import Mathlib
import GridQuery.Json.Path
import GridQuery.Pipeline.Grouping
import GridQuery.Filter.PartField

/-!
# Fields beside those of a document

What stages compute on the way stands in fields whose names start with three underscores and have no
points. Such a field is seen by those who name it and by nobody else.

Results:
* `Json.resolve?_setPath_self`, `Json.resolve?_setPath_of_ne`: a computed field is at its name, and
  paths that start elsewhere lead where they led.
* `Pipeline.stripKeys_setPath`: a row is the same without the fields that key stages write.
* `Extends.removeAll`: fields that are set and then removed leave no trace.
-/

namespace GridQuery

/-! ## Names -/

/-- The names that are left to computed fields. -/
def isReserved (name : String) : Bool := "___".toList.isPrefixOf name.toList

/-- A name that is one segment. -/
def HasNoPoint (name : String) : Prop := '.' ∉ name.toList

theorem splitPoints_of_noPoint {text : List Char} (h : '.' ∉ text) :
    splitPoints text = (text, []) := by
  induction text with
  | nil => rfl
  | cons c rest ih =>
    rw [List.mem_cons, not_or] at h
    rw [splitPoints, ih h.2]
    exact if_neg (Ne.symm h.1)

theorem splitPoints_starts (text : List Char) : (splitPoints text).1 <+: text := by
  induction text with
  | nil => exact List.prefix_rfl
  | cons c rest ih =>
    rw [splitPoints]
    by_cases h : c = '.'
    · simp only [if_pos h]
      exact List.nil_prefix
    · simp only [if_neg h]
      exact (List.prefix_cons_inj c).mpr ih

theorem segments_of_noPoint {name : String} (h : HasNoPoint name) : segments name = [name] := by
  rw [segments, splitPoints_of_noPoint h]
  simp

/-- The first key of a path. -/
def firstKey (path : String) : String := String.ofList (splitPoints path.toList).1

theorem firstKey_of_noPoint {name : String} (h : HasNoPoint name) : firstKey name = name := by
  rw [firstKey, splitPoints_of_noPoint h, String.ofList_toList]

theorem segments_eq (path : String) :
    segments path = firstKey path :: (splitPoints path.toList).2.map String.ofList := rfl

theorem isReserved_iff {name : String} :
    isReserved name = true ↔ ['_', '_', '_'] <+: name.toList := by
  rw [isReserved, List.isPrefixOf_iff_prefix]
  rfl

/-- A path starts with a reserved key only if it is reserved as a whole. -/
theorem isReserved_of_firstKey {path : String} (h : isReserved (firstKey path) = true) :
    isReserved path = true := by
  rw [isReserved_iff, firstKey, String.toList_ofList] at h
  exact isReserved_iff.mpr (h.trans (splitPoints_starts path.toList))

theorem firstKey_ne {path name : String} (hpath : isReserved path = false)
    (hname : isReserved name = true) : firstKey path ≠ name := by
  rintro rfl
  rw [isReserved_of_firstKey hname] at hpath
  cases hpath

/-! ## Setting a field -/

namespace Entries

theorem insert_of_not_mem {key : String} {value : Json} {entries : Entries}
    (h : key ∉ keys entries) : insert key value entries = entries ++ [(key, value)] := by
  induction entries with
  | nil => rfl
  | cons entry rest ih =>
    rw [keys, List.map_cons, List.mem_cons, not_or] at h
    rw [insert, if_neg (Ne.symm h.1), ih h.2, List.cons_append]

theorem get?_eq_none {key : String} {entries : Entries} (h : key ∉ keys entries) :
    get? key entries = none := by
  induction entries with
  | nil => rfl
  | cons entry rest ih =>
    rw [keys, List.map_cons, List.mem_cons, not_or] at h
    rw [get?, if_neg (Ne.symm h.1), ih h.2]

/-- Setting other keys does not change what stands under a key. -/
theorem get?_foldl_insert {key : String} {pairs : List (String × Json)} (h : key ∉ keys pairs)
    (entries : Entries) :
    get? key (pairs.foldl (fun entries pair => insert pair.1 pair.2 entries) entries) =
      get? key entries := by
  induction pairs generalizing entries with
  | nil => rfl
  | cons pair pairs ih =>
    rw [keys, List.map_cons, List.mem_cons, not_or] at h
    rw [List.foldl_cons, ih h.2, get?_insert_of_ne h.1]

theorem get?_ofList_cons {key : String} {pairs : List (String × Json)} (h : key ∉ keys pairs)
    (value : Json) : get? key (ofList ((key, value) :: pairs)) = some value := by
  rw [ofList, List.foldl_cons, get?_foldl_insert h, get?_insert_self]

/-- Where no key is repeated, each keeps its value. -/
theorem get?_ofList_of_mem {key : String} {value : Json} {pairs : List (String × Json)}
    (hnodup : (keys pairs).Nodup) (hmem : (key, value) ∈ pairs) :
    get? key (ofList pairs) = some value := by
  unfold ofList
  generalize ([] : Entries) = entries
  induction pairs generalizing entries with
  | nil => cases hmem
  | cons pair rest ih =>
    obtain ⟨hnot, hrest⟩ := List.nodup_cons.mp hnodup
    rw [List.foldl_cons]
    rcases List.mem_cons.mp hmem with rfl | hmem
    · rw [get?_foldl_insert hnot, get?_insert_self]
    · exact ih hrest hmem _

/-- Setting an entry repeats no key. -/
theorem nodup_insert {entries : Entries} (h : (keys entries).Nodup) (name : String)
    (value : Json) : (keys (insert name value entries)).Nodup := by
  rw [keys_insert]
  split_ifs with hmem
  · exact h
  · refine List.nodup_append.mpr ⟨h, List.nodup_singleton name, ?_⟩
    rintro a ha b hb rfl
    exact hmem (List.mem_singleton.mp hb ▸ ha)

theorem mem_of_mem_insert {key : String} {value : Json} {entries : Entries}
    {entry : String × Json} (h : entry ∈ insert key value entries) :
    entry = (key, value) ∨ entry ∈ entries := by
  induction entries with
  | nil => exact Or.inl (List.mem_singleton.mp h)
  | cons first rest ih =>
    rw [insert] at h
    split_ifs at h
    · rcases List.mem_cons.mp h with rfl | h
      · exact Or.inl rfl
      · exact Or.inr (List.mem_cons_of_mem _ h)
    · rcases List.mem_cons.mp h with rfl | h
      · exact Or.inr List.mem_cons_self
      · exact (ih h).imp_right (List.mem_cons_of_mem _)

theorem ofList_concat (pairs : List (String × Json)) (pair : String × Json) :
    ofList (pairs ++ [pair]) = insert pair.1 pair.2 (ofList pairs) := by
  rw [ofList, List.foldl_append]
  rfl

/-- Entries with keys of their own stand as they are listed. -/
theorem ofList_of_nodup {pairs : List (String × Json)} (h : (keys pairs).Nodup) :
    ofList pairs = pairs := by
  induction pairs using List.reverseRecOn with
  | nil => rfl
  | append_singleton pairs pair ih =>
    rw [keys, List.map_append, List.nodup_append] at h
    rw [ofList_concat, ih h.1]
    refine insert_of_not_mem fun hmem => ?_
    exact h.2.2 _ hmem _ (by simp) rfl

/-- What is inserted one after the other: no key is repeated, and nothing else is there. -/
theorem ofList_spec (pairs : List (String × Json)) :
    (keys (ofList pairs)).Nodup ∧ (∀ entry ∈ ofList pairs, entry ∈ pairs) ∧
      ∀ key ∈ keys pairs, key ∈ keys (ofList pairs) := by
  induction pairs using List.reverseRecOn with
  | nil => exact ⟨List.nodup_nil, by simp [ofList], by simp [keys]⟩
  | append_singleton pairs pair ih =>
    obtain ⟨hnodup, hmem, hkeys⟩ := ih
    rw [ofList_concat]
    refine ⟨?_, fun entry hentry => ?_, fun key hkey => ?_⟩
    · exact nodup_insert hnodup pair.1 pair.2
    · rcases mem_of_mem_insert hentry with rfl | hentry
      · exact List.mem_append_right _ List.mem_cons_self
      · exact List.mem_append_left _ (hmem entry hentry)
    · rw [keys_insert]
      rw [keys, List.map_append, List.mem_append] at hkey
      split_ifs with hin
      · rcases hkey with hkey | hkey
        · exact hkeys key hkey
        · rwa [List.mem_singleton.mp hkey]
      · exact List.mem_append.mpr (hkey.imp_left (hkeys key))

/-- Entries that are left out do not notice that one of them is set. -/
theorem filter_insert {drops : String → Bool} {key : String} (h : drops key = true) (value : Json)
    (entries : Entries) :
    (insert key value entries).filter (fun entry => !drops entry.1) =
      entries.filter fun entry => !drops entry.1 := by
  induction entries with
  | nil => simp [insert, h]
  | cons entry rest ih =>
    rw [insert]
    split_ifs with hkey
    · simp [hkey, h]
    · rw [List.filter_cons, List.filter_cons, ih]

end Entries

namespace Json

theorem setPath_object {name : String} (h : HasNoPoint name) (entries : Entries) (value : Json) :
    (object entries).setPath name value = object (entries.insert name value) := by
  rw [setPath, segments_of_noPoint h, Entries.setAlong]

theorem get?_setPath_of_ne {doc value : Json} {name key : String} (h : HasNoPoint name)
    (hne : key ≠ name) : (doc.setPath name value).get? key = doc.get? key := by
  cases doc with
  | object entries =>
    rw [setPath_object h]
    exact Entries.get?_insert_of_ne hne value entries
  | _ => rfl

/-- A computed field is found under its name. -/
theorem resolve?_setPath_self {name : String} (h : HasNoPoint name) (entries : Entries)
    (value : Json) : ((object entries).setPath name value).resolve? name = some value := by
  rw [setPath_object h, resolve?, segments_of_noPoint h]
  simp [descend, get?, object?]

/-- Paths that start with another key lead where they led. -/
theorem resolve?_setPath_of_ne {doc value : Json} {name path : String} (h : HasNoPoint name)
    (hne : firstKey path ≠ name) : (doc.setPath name value).resolve? path = doc.resolve? path := by
  rw [resolve?, resolve?, segments_eq, descend, descend, get?_setPath_of_ne h hne]

end Json

theorem resolve?_of_noPoint {name : String} (h : HasNoPoint name) (doc : Json) :
    doc.resolve? name = doc.get? name := by
  rw [Json.resolve?, segments_of_noPoint h]
  simp [Json.descend]

/-! ## Key fields -/

namespace Pipeline

theorem toList_toString_noPoint (n : Nat) : '.' ∉ (toString n).toList := by
  rw [Nat.toString_eq_ofList_toDigits, String.toList_ofList]
  intro h
  have := Nat.isDigit_of_mem_toDigits (by decide) (by decide) h
  cases this

theorem hasNoPoint_keyField (level : Nat) : HasNoPoint (keyField level) := by
  rw [HasNoPoint, keyField, String.toList_append, List.mem_append, not_or]
  exact ⟨by decide, toList_toString_noPoint level⟩

theorem hasNoPoint_quarterScratch : HasNoPoint quarterScratch := by
  unfold HasNoPoint
  decide

theorem isReserved_keyField (level : Nat) : isReserved (keyField level) = true := by
  rw [isReserved_iff, keyField, String.toList_append]
  exact ⟨"group_key_".toList ++ (toString level).toList, rfl⟩

theorem isReserved_quarterScratch : isReserved quarterScratch = true := by decide

theorem isKeyField_keyField (level : Nat) : isKeyField (keyField level) = true := by
  have hprefix : keyPrefix.toList.isPrefixOf (keyField level).toList = true := by
    rw [List.isPrefixOf_iff_prefix, keyField, String.toList_append]
    exact List.prefix_append _ _
  rw [isKeyField, hprefix, Bool.true_or]

theorem isKeyField_quarterScratch : isKeyField quarterScratch = true := by
  simp [isKeyField]

theorem isReserved_of_isKeyField {name : String} (h : isKeyField name = true) :
    isReserved name = true := by
  rw [isKeyField, Bool.or_eq_true, List.isPrefixOf_iff_prefix, decide_eq_true_eq] at h
  rcases h with h | rfl
  · have hshort : ['_', '_', '_'] <+: keyPrefix.toList := ⟨"group_key_".toList, rfl⟩
    exact isReserved_iff.mpr (hshort.trans h)
  · exact isReserved_quarterScratch

/-- A row is the same without the fields that key stages write. -/
theorem stripKeys_setPath {doc value : Json} {name : String} (h : HasNoPoint name)
    (hkey : isKeyField name = true) : stripKeys (doc.setPath name value) = stripKeys doc := by
  cases doc with
  | object entries =>
    rw [Json.setPath_object h, stripKeys, stripKeys, Entries.filter_insert hkey]
  | _ => rfl

end Pipeline

/-! ## Documents of their own fields only -/

/-- An object without reserved names. -/
def IsPlain (doc : Json) : Prop :=
  ∃ entries, doc = .object entries ∧ ∀ key ∈ Entries.keys entries, isReserved key = false

instance : DecidablePred IsPlain
  | .object entries =>
    decidable_of_iff (∀ key ∈ Entries.keys entries, isReserved key = false)
      ⟨fun h => ⟨entries, rfl, h⟩, fun ⟨_, h, hkeys⟩ => Json.object.inj h ▸ hkeys⟩
  | .null | .bool _ | .number _ | .string _ | .array _ => isFalse fun ⟨_, h, _⟩ => nomatch h

theorem IsPlain.isObject {doc : Json} (h : IsPlain doc) : doc.isObject = true := by
  obtain ⟨entries, rfl, -⟩ := h
  rfl

theorem IsPlain.stripKeys {doc : Json} (h : IsPlain doc) : Pipeline.stripKeys doc = doc := by
  obtain ⟨entries, rfl, hkeys⟩ := h
  rw [Pipeline.stripKeys, List.filter_eq_self.mpr]
  intro entry hentry
  have hplain := hkeys entry.1 (List.mem_map_of_mem hentry)
  cases hkey : Pipeline.isKeyField entry.1 with
  | false => rfl
  | true =>
    rw [Pipeline.isReserved_of_isKeyField hkey] at hplain
    cases hplain

/-! ## Setting and removing -/

namespace Entries

theorem swapRemove_append {key : String} {base extra : Entries} (h : key ∉ keys base) :
    swapRemove key (base ++ extra) = base ++ swapRemove key extra := by
  induction base with
  | nil => rfl
  | cons entry rest ih =>
    rw [keys, List.map_cons, List.mem_cons, not_or] at h
    rw [List.cons_append, swapRemove, if_neg (Ne.symm h.1), ih h.2, List.cons_append]

theorem insert_append {key : String} (value : Json) {base : Entries} (extra : Entries)
    (h : key ∉ keys base) : insert key value (base ++ extra) = base ++ insert key value extra := by
  induction base with
  | nil => rfl
  | cons entry rest ih =>
    rw [keys, List.map_cons, List.mem_cons, not_or] at h
    rw [List.cons_append, insert, if_neg (Ne.symm h.1), ih h.2, List.cons_append]

theorem filter_ne_of_not_mem {key : String} {entries : Entries} (h : key ∉ keys entries) :
    entries.filter (fun entry => entry.1 ≠ key) = entries := by
  rw [List.filter_eq_self]
  intro entry hentry
  rw [decide_eq_true_eq]
  rintro rfl
  exact h (List.mem_map_of_mem hentry)

/-- Removing a key leaves the other entries, in some order. -/
theorem swapRemove_perm {key : String} {entries : Entries} (hnodup : (keys entries).Nodup) :
    (swapRemove key entries).Perm (entries.filter fun entry => entry.1 ≠ key) := by
  induction entries with
  | nil => exact .nil
  | cons entry rest ih =>
    rw [keys, List.map_cons, List.nodup_cons] at hnodup
    by_cases h : entry.1 = key
    · subst h
      rw [List.filter_cons_of_neg (by simp), filter_ne_of_not_mem hnodup.1, swapRemove,
        if_pos rfl]
      cases hlast : rest.getLast? with
      | none => rw [List.getLast?_eq_none_iff.mp hlast]
      | some last =>
        obtain ⟨init, rfl⟩ := List.getLast?_eq_some_iff.mp hlast
        rw [List.dropLast_concat]
        exact (List.perm_append_singleton last init).symm
    · rw [swapRemove, if_neg h, List.filter_cons_of_pos (by simpa using h)]
      exact (ih hnodup.2).cons entry

/-- Entries behind those of a document go when all their keys are removed. -/
theorem removeAll_append {names : List String} {base extra : Entries}
    (hbase : ∀ name ∈ names, name ∉ keys base) (hnodup : (keys extra).Nodup)
    (hnames : ∀ key ∈ keys extra, key ∈ names) :
    names.foldl (fun entries name => swapRemove name entries) (base ++ extra) = base := by
  induction names generalizing extra with
  | nil =>
    cases extra with
    | nil => exact List.append_nil base
    | cons entry rest => exact absurd (hnames entry.1 List.mem_cons_self) List.not_mem_nil
  | cons name names ih =>
    have hperm : (swapRemove name extra).Perm (extra.filter fun entry => entry.1 ≠ name) :=
      swapRemove_perm hnodup
    have hkeys := hperm.map Prod.fst
    rw [List.foldl_cons, swapRemove_append (hbase name List.mem_cons_self)]
    refine ih (fun n hn => hbase n (List.mem_cons_of_mem _ hn)) ?_ ?_
    · exact hkeys.nodup_iff.mpr (hnodup.sublist (List.filter_sublist.map Prod.fst))
    · intro key hkey
      obtain ⟨entry, hentry, rfl⟩ := List.mem_map.mp (hkeys.mem_iff.mp hkey)
      obtain ⟨hmem, hne⟩ := List.mem_filter.mp hentry
      have hcases := List.mem_cons.mp (hnames entry.1 (List.mem_map_of_mem hmem))
      exact hcases.resolve_left (by simpa using hne)

end Entries

/-- A document to which computed fields of the given names have been added. -/
def Extends (names : List String) (doc extended : Json) : Prop :=
  ∃ base extra, doc = .object base ∧ extended = .object (base ++ extra) ∧
    (Entries.keys extra).Nodup ∧ ∀ key ∈ Entries.keys extra, key ∈ names

theorem IsPlain.extends_self {doc : Json} (h : IsPlain doc) : Extends [] doc doc := by
  obtain ⟨entries, rfl, -⟩ := h
  exact ⟨entries, [], rfl, by simp, by simp [Entries.keys], by simp [Entries.keys]⟩

theorem Extends.mono {names names' : List String} {doc extended : Json}
    (h : Extends names doc extended) (hsub : names ⊆ names') : Extends names' doc extended := by
  obtain ⟨base, extra, hdoc, hextended, hnodup, hnames⟩ := h
  exact ⟨base, extra, hdoc, hextended, hnodup, fun key hkey => hsub (hnames key hkey)⟩

/-- A further computed field goes behind the fields of the document, too. -/
theorem Extends.setPath {names : List String} {doc extended value : Json} {name : String}
    (h : Extends names doc extended) (hplain : IsPlain doc) (hpoint : HasNoPoint name)
    (hreserved : isReserved name = true) :
    Extends (names ++ [name]) doc (extended.setPath name value) := by
  obtain ⟨base, extra, rfl, rfl, hnodup, hnames⟩ := h
  obtain ⟨entries, hentries, hkeys⟩ := hplain
  cases hentries
  have hname : name ∉ Entries.keys base := by
    intro hmem
    rw [hkeys name hmem] at hreserved
    cases hreserved
  refine ⟨base, Entries.insert name value extra, rfl, ?_, ?_, ?_⟩
  · rw [Json.setPath_object hpoint, Entries.insert_append value extra hname]
  · exact Entries.nodup_insert hnodup name value
  · intro key hkey
    rw [Entries.keys_insert] at hkey
    split_ifs at hkey with hmem
    · exact List.mem_append_left _ (hnames key hkey)
    · rcases List.mem_append.mp hkey with hkey | hkey
      · exact List.mem_append_left _ (hnames key hkey)
      · exact List.mem_append_right _ hkey

/-- Computed fields leave no trace once they are removed. -/
theorem Extends.removeAll {names removed : List String} {doc extended : Json}
    (h : Extends names doc extended) (hplain : IsPlain doc) (hremoved : names ⊆ removed)
    (hreserved : ∀ name ∈ removed, isReserved name = true) :
    ∃ entries, extended = .object entries ∧
      .object (removed.foldl (fun entries name => Entries.swapRemove name entries) entries) =
        doc := by
  obtain ⟨base, extra, rfl, rfl, hnodup, hnames⟩ := h
  obtain ⟨entries, hentries, hkeys⟩ := hplain
  cases hentries
  refine ⟨base ++ extra, rfl, ?_⟩
  rw [Entries.removeAll_append _ hnodup fun key hkey => hremoved (hnames key hkey)]
  intro name hname hmem
  have := hreserved name hname
  rw [hkeys name hmem] at this
  cases this

end GridQuery
