import Mathlib
import GridQuery.Proofs.DivergingPaths

/-!
# Values put at paths

A path and an object make a lens. What is put at a path is found there, paths that go another way
lead where they led, and a second value put there leaves no trace of the first. It does not matter
what stands on the way: an object keeps its other entries, and anything else gives way to an object
that has none.

Results:
* `segments_eq_iff`: the segments of a path are the texts without points that, with points between
  them, are the path.
* `diverge_of_not_starts`: paths of which neither starts with the other go different ways.
* `Json.setPath_spec`: the laws of a value put at a path.
-/

namespace GridQuery

/-! ## Segments -/

theorem splitOn_point (text : List Char) :
    text.splitOn '.' = (splitPoints text).1 :: (splitPoints text).2 := by
  induction text with
  | nil => rfl
  | cons c rest ih =>
    rw [List.splitOn_cons_eq_if_modifyHead, ih, splitPoints]
    by_cases h : c = '.' <;> simp [h]

theorem segments_eq_splitOn (path : String) :
    segments path = (path.toList.splitOn '.').map String.ofList := by
  rw [splitOn_point]
  rfl

theorem point_not_mem_splitPoints (text : List Char) :
    '.' ∉ (splitPoints text).1 ∧ ∀ part ∈ (splitPoints text).2, '.' ∉ part := by
  induction text with
  | nil => simp [splitPoints]
  | cons c rest ih =>
    rw [splitPoints]
    by_cases h : c = '.'
    · simp only [if_pos h]
      exact ⟨List.not_mem_nil, List.forall_mem_cons.mpr ih⟩
    · simp only [if_neg h]
      exact ⟨List.not_mem_cons_of_ne_of_not_mem (Ne.symm h) ih.1, ih.2⟩

/-- The segments of a path are the texts without points that, with points between them, are the
    path. -/
theorem segments_eq_iff {path : String} {parts : List String} :
    segments path = parts ↔
      parts ≠ [] ∧ (∀ part ∈ parts, HasNoPoint part) ∧ ".".intercalate parts = path := by
  constructor
  · rintro rfl
    refine ⟨by simp [segments], ?_, ?_⟩
    · obtain ⟨hfirst, hmore⟩ := point_not_mem_splitPoints path.toList
      simpa [segments, HasNoPoint] using ⟨hfirst, hmore⟩
    · apply String.toList_injective
      rw [String.toList_intercalate, segments_eq_splitOn, List.map_map]
      simp [Function.comp_def]
  · rintro ⟨hne, hpoint, rfl⟩
    have hparts : ∀ part ∈ parts.map String.toList, '.' ∉ part := by
      simpa [HasNoPoint] using hpoint
    rw [segments_eq_splitOn, String.toList_intercalate]
    change ((['.'].intercalate (parts.map String.toList)).splitOn '.').map String.ofList = parts
    rw [List.splitOn_intercalate '.' hparts (by simpa using hne), List.map_map]
    simp [Function.comp_def]

/-- Paths of which neither starts with the other go different ways. -/
theorem diverge_of_not_starts {path other : List String} (h : ¬path <+: other)
    (h' : ¬other <+: path) : Diverge path other := by
  induction path generalizing other with
  | nil => exact absurd List.nil_prefix h
  | cons key rest ih =>
    cases other with
    | nil => exact absurd List.nil_prefix h'
    | cons key' rest' =>
      by_cases hkey : key = key'
      · subst hkey
        rw [List.prefix_cons_inj] at h h'
        exact .there key (ih h h')
      · exact .here rest rest' hkey

/-! ## Objects on the way -/

namespace Entries

/-- The entries of the object under a key; there are none where no object is. -/
def under (key : String) (entries : Entries) : Entries :=
  match entries.get? key with
  | some (.object inner) => inner
  | _ => []

theorem under_insert_self (key : String) (inner entries : Entries) :
    under key (insert key (.object inner) entries) = inner := by
  rw [under, get?_insert_self]

/-- A path through a key goes on in the object under it. -/
theorem descend_under (key next : String) (rest : List String) (entries : Entries) :
    (Json.object entries).descend (key :: next :: rest) =
      (Json.object (under key entries)).descend (next :: rest) := by
  have hnone : ∀ value : Json, value.object? = none → value.descend (next :: rest) = none := by
    intro value hvalue
    rw [Json.descend, Json.get?, hvalue]
    rfl
  have hempty : (Json.object []).descend (next :: rest) = none := rfl
  rw [Json.descend, Json.get?, Json.object?, Option.bind_some, under]
  cases entries.get? key with
  | none => exact hempty.symm
  | some value =>
    rw [Option.bind_some]
    cases value with
    | object inner => rfl
    | _ => exact (hnone _ rfl).trans hempty.symm

theorem setAlong_cons (value : Json) (key next : String) (rest : List String)
    (entries : Entries) :
    setAlong value (key :: next :: rest) entries =
      insert key (.object (setAlong value (next :: rest) (under key entries))) entries := rfl

/-- Only the entry of the first key is set. -/
theorem exists_setAlong (value : Json) (key : String) (rest : List String) (entries : Entries) :
    ∃ new, setAlong value (key :: rest) entries = insert key new entries := by
  cases rest with
  | nil => exact ⟨value, rfl⟩
  | cons next rest => exact ⟨_, setAlong_cons value key next rest entries⟩

/-! ## The laws along the keys -/

/-- What is put at the end of keys is found there. -/
theorem descend_setAlong (value : Json) (key : String) (rest : List String) (entries : Entries) :
    (Json.object (setAlong value (key :: rest) entries)).descend (key :: rest) = some value := by
  induction rest generalizing key entries with
  | nil => simp [setAlong, Json.descend, Json.get?, Json.object?]
  | cons next rest ih => rw [descend_under, setAlong_cons, under_insert_self, ih]

/-- Keys that go another way lead where they led. -/
theorem descend_setAlong_of_diverge {path other : List String} (h : Diverge path other)
    (value : Json) (entries : Entries) :
    (Json.object (setAlong value path entries)).descend other =
      (Json.object entries).descend other := by
  induction h generalizing entries with
  | @here key key' rest rest' hne =>
    obtain ⟨new, hnew⟩ := exists_setAlong value key rest entries
    simp only [hnew, Json.descend, Json.get?, Json.object?, Option.bind_some,
      get?_insert_of_ne (Ne.symm hne)]
  | @there path path' key hdiverge ih =>
    -- Neither path ends at the shared key, since the two still go different ways.
    obtain ⟨next, rest, rfl⟩ : ∃ next rest, path = next :: rest := by
      cases hdiverge <;> exact ⟨_, _, rfl⟩
    obtain ⟨next', rest', rfl⟩ : ∃ next' rest', path' = next' :: rest' := by
      cases hdiverge <;> exact ⟨_, _, rfl⟩
    rw [descend_under, setAlong_cons, under_insert_self, ih, ← descend_under]

/-- A second value leaves no trace of the first. -/
theorem setAlong_setAlong (first second : Json) (key : String) (rest : List String)
    (entries : Entries) :
    setAlong second (key :: rest) (setAlong first (key :: rest) entries) =
      setAlong second (key :: rest) entries := by
  induction rest generalizing key entries with
  | nil => exact insert_insert_self key first second entries
  | cons next rest ih =>
    rw [setAlong_cons, setAlong_cons, under_insert_self, insert_insert_self, ih, setAlong_cons]

theorem keys_setAlong (value : Json) (key : String) (rest : List String) (entries : Entries) :
    keys (setAlong value (key :: rest) entries) =
      if key ∈ keys entries then keys entries else keys entries ++ [key] := by
  obtain ⟨new, hnew⟩ := exists_setAlong value key rest entries
  rw [hnew, keys_insert]

end Entries

/-! ## The laws of a path -/

/-- What an object has become by a value put at a path. -/
structure IsPut (path : String) (value : Json) (before after : Entries) : Prop where
  /-- The value is found at the path. -/
  found : (Json.object after).resolve? path = some value
  /-- Paths of which neither starts with the other do not meet: the other leads where it led. -/
  others : ∀ other, ¬segments path <+: segments other → ¬segments other <+: segments path →
    (Json.object after).resolve? other = (Json.object before).resolve? other
  /-- A second value put at the path leaves no trace of this one. -/
  again : ∀ second,
    (Json.object after).setPath path second = (Json.object before).setPath path second
  /-- The keys keep their order; the first one of the path comes last if it is new. -/
  keys : Entries.keys after =
    if firstKey path ∈ Entries.keys before then Entries.keys before
    else Entries.keys before ++ [firstKey path]

/-- A value can be put at every path of every object. -/
theorem Json.setPath_spec (before : Entries) (path : String) (value : Json) :
    ∃ after, (object before).setPath path value = object after ∧
      IsPut path value before after := by
  have hpath := segments_eq path
  refine ⟨Entries.setAlong value (segments path) before, rfl, ?_, ?_, ?_, ?_⟩
  · rw [resolve?, hpath]
    exact Entries.descend_setAlong value _ _ before
  · intro other h h'
    exact Entries.descend_setAlong_of_diverge (diverge_of_not_starts h h') value before
  · intro second
    rw [setPath, setPath, hpath]
    exact congrArg object (Entries.setAlong_setAlong value second _ _ before)
  · rw [hpath]
    exact Entries.keys_setAlong value _ _ before

/-- A flag on the way gives way to an object, in its place. An empty segment is a key as well. -/
theorem Json.setPath_spec_overFlag :
    ∃ after, (object [("a", .bool true), ("b", .single "" .null)]).setPath "a..c" (.bool false) =
        object after ∧
      (object after).resolve? "a..c" = some (.bool false) ∧
      (object after).resolve? "b." = some .null ∧
      Entries.keys after = ["a", "b"] := by
  obtain ⟨after, hafter, h⟩ := setPath_spec [("a", .bool true), ("b", .single "" .null)] "a..c"
    (.bool false)
  have hother := h.others "b." (by decide) (by decide)
  refine ⟨after, hafter, h.found, hother.trans (by decide), h.keys.trans (by decide)⟩

end GridQuery
