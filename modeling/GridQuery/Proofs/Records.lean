import Mathlib
import GridQuery.Proofs.Drafts

/-!
# Records decoded from values

A record decoder walks the entries of an object in their order and stops at the first error. What
it reads when it succeeds does not depend on that order: each entry is an update of the record, and
the updates of different fields do not see each other.

Results:
* `record_object_eq_ok`: a record is read from an object iff each known entry can be read, no field
  stands twice and no required one is missing; the updates of the entries make it up.
* `Regular`: each field has a name and a part of the record of its own, and may be null if it may be
  left out.
* `Regular.record_perm`, `record_cons_unknown`, `Regular.record_cons_null`, `record_congr`: the
  changes of an object that the record does not notice.
* `Regular.record_error_of_filter`: null entries have no part in what is wrong.
* `Regular.record_of_builds`: what is given in the order of the fields is read in that order.
* `record_preserves`: what every update keeps holds of the record read, also from an array.
-/

namespace GridQuery

namespace Decoder

/-! ## Entries as updates -/

section Records

variable {σ : Type} {type : String} {fields : List (RecordField σ)} {start : σ}

/-- The field that a key is the name of. -/
def fieldAt (fields : List (RecordField σ)) (key : String) : Option (RecordField σ) :=
  fields.find? fun field => field.name = key

/-- The keys that are names of fields. -/
def knownKeys (fields : List (RecordField σ)) (entries : Entries) : List String :=
  (Entries.keys entries).filter fun key => (fieldAt fields key).isSome

/-- An entry under the name of a field has to be read, and any other is of no interest. -/
def IsReadable (fields : List (RecordField σ)) (entry : String × Json) : Prop :=
  ∀ field, fieldAt fields entry.1 = some field →
    ∃ update, field.decode .value (.ofJson entry.2) = .ok update

/-- What an entry does to the record that is built up. -/
def update (fields : List (RecordField σ)) (state : σ) (entry : String × Json) : σ :=
  match fieldAt fields entry.1 with
  | none => state
  | some field =>
    match field.decode .value (.ofJson entry.2) with
    | .ok change => change state
    | .error _ => state

/-- Every known entry can be read, no field stands twice and no required one is missing. -/
structure Fits (fields : List (RecordField σ)) (entries : Entries) : Prop where
  readable : ∀ entry ∈ entries, IsReadable fields entry
  once : (knownKeys fields entries).Nodup
  complete : ∀ field ∈ fields, field.required = true → field.name ∈ Entries.keys entries

theorem fieldAt_eq_some {key : String} {field : RecordField σ}
    (h : fieldAt fields key = some field) : field ∈ fields ∧ field.name = key :=
  ⟨List.mem_of_find?_eq_some h, by simpa using List.find?_some h⟩

theorem isSome_fieldAt {field : RecordField σ} (h : field ∈ fields) :
    (fieldAt fields field.name).isSome = true := by
  rw [fieldAt, List.find?_isSome]
  exact ⟨field, h, by simp⟩

section Entry

variable {entry : String × Json} {field : RecordField σ} {change : σ → σ}

theorem isReadable_of_none (hfield : fieldAt fields entry.1 = none) : IsReadable fields entry := by
  intro field h
  rw [hfield] at h
  cases h

theorem isReadable_of_read (hfield : fieldAt fields entry.1 = some field)
    (hread : field.decode .value (.ofJson entry.2) = .ok change) : IsReadable fields entry := by
  intro other h
  rw [hfield, Option.some.injEq] at h
  rw [← h]
  exact ⟨change, hread⟩

theorem update_of_none (hfield : fieldAt fields entry.1 = none) (state : σ) :
    update fields state entry = state := by
  rw [update, hfield]

theorem update_of_read (hfield : fieldAt fields entry.1 = some field)
    (hread : field.decode .value (.ofJson entry.2) = .ok change) (state : σ) :
    update fields state entry = change state := by
  simp only [update, hfield, hread]

end Entry

theorem mem_knownKeys {key : String} {entries : Entries} :
    key ∈ knownKeys fields entries ↔
      key ∈ Entries.keys entries ∧ (fieldAt fields key).isSome = true := List.mem_filter

theorem knownKeys_cons_of_none {entry : String × Json} {entries : Entries}
    (h : fieldAt fields entry.1 = none) :
    knownKeys fields (entry :: entries) = knownKeys fields entries := by
  rw [knownKeys, Entries.keys, List.map_cons, List.filter_cons_of_neg (by simp [h])]
  rfl

theorem knownKeys_cons_of_some {entry : String × Json} {entries : Entries} {field : RecordField σ}
    (h : fieldAt fields entry.1 = some field) :
    knownKeys fields (entry :: entries) = entry.1 :: knownKeys fields entries := by
  rw [knownKeys, Entries.keys, List.map_cons, List.filter_cons_of_pos (by simp [h])]
  rfl

section Steps

variable {entry : String × Json} {entries : Entries} {met : List String} {state : σ}
  {field : RecordField σ}

/-- A key of no field is passed over. -/
theorem recordEntries_cons_of_none (h : fieldAt fields entry.1 = none) :
    recordEntries fields .value met state (Draft.ofEntries (entry :: entries)) =
      recordEntries fields .value met state (Draft.ofEntries entries) := by
  rw [fieldAt] at h
  rw [Draft.ofEntries, recordEntries, h]
  simp [Draft.hasFault_ofJson]

theorem recordEntries_cons_of_mem (h : fieldAt fields entry.1 = some field)
    (hmet : entry.1 ∈ met) :
    recordEntries fields .value met state (Draft.ofEntries (entry :: entries)) =
      .error (.duplicateField entry.1) := by
  rw [fieldAt] at h
  rw [Draft.ofEntries, recordEntries, h]
  simp [hmet]

/-- The first entry of a field changes the record, or is the first error. -/
theorem recordEntries_cons_of_some (h : fieldAt fields entry.1 = some field)
    (hmet : entry.1 ∉ met) :
    recordEntries fields .value met state (Draft.ofEntries (entry :: entries)) =
      match field.decode .value (.ofJson entry.2) with
      | .error e => .error e
      | .ok change =>
        recordEntries fields .value (entry.1 :: met) (change state) (Draft.ofEntries entries) := by
  rw [fieldAt] at h
  rw [Draft.ofEntries, recordEntries, h]
  cases hread : field.decode .value (.ofJson entry.2) with
  | error e => simp [hmet, hread]
  | ok change => simp [hmet, hread]

end Steps

/-- Keys are new after a further one iff they were new and it is none of them. -/
theorem forall_notMem_cons_iff {key : String} {keys met : List String} :
    (∀ k ∈ keys, k ∉ key :: met) ↔ key ∉ keys ∧ ∀ k ∈ keys, k ∉ met := by
  constructor
  · intro h
    exact ⟨fun hmem => h key hmem List.mem_cons_self,
      fun k hk hmem => h k hk (List.mem_cons_of_mem _ hmem)⟩
  · rintro ⟨hnot, h⟩ k hk hmem
    rcases List.mem_cons.mp hmem with rfl | hmem
    · exact hnot hk
    · exact h k hk hmem

/-- The walk over the entries succeeds iff each can be read and no field comes again; the names met
    are noted in reverse. -/
theorem recordEntries_eq_ok {entries : Entries} {met : List String} {state : σ}
    {result : σ × List String} :
    recordEntries fields .value met state (Draft.ofEntries entries) = .ok result ↔
      (∀ entry ∈ entries, IsReadable fields entry) ∧ (knownKeys fields entries).Nodup ∧
      (∀ key ∈ knownKeys fields entries, key ∉ met) ∧
      result =
        (entries.foldl (update fields) state, (knownKeys fields entries).reverse ++ met) := by
  induction entries generalizing met state with
  | nil => simp [Draft.ofEntries, recordEntries, knownKeys, Entries.keys, eq_comm]
  | cons entry rest ih =>
    rw [List.forall_mem_cons, List.foldl_cons]
    cases hfield : fieldAt fields entry.1 with
    | none =>
      rw [recordEntries_cons_of_none hfield, knownKeys_cons_of_none hfield,
        update_of_none hfield, ih]
      simp only [isReadable_of_none hfield, true_and]
    | some field =>
      rw [knownKeys_cons_of_some hfield]
      by_cases hmet : entry.1 ∈ met
      · rw [recordEntries_cons_of_mem hfield hmet]
        simp [hmet]
      rw [recordEntries_cons_of_some hfield hmet]
      cases hread : field.decode .value (.ofJson entry.2) with
      | error e =>
        simp [IsReadable, hfield, hread]
      | ok change =>
        have hreadable := isReadable_of_read hfield hread
        have hreverse : (knownKeys fields rest).reverse ++ entry.1 :: met =
            (entry.1 :: knownKeys fields rest).reverse ++ met := by simp
        rw [ih, update_of_read hfield hread, hreverse, List.nodup_cons, List.forall_mem_cons,
          forall_notMem_cons_iff]
        constructor
        · rintro ⟨hall, hnodup, ⟨hnot, hnew⟩, hresult⟩
          exact ⟨⟨hreadable, hall⟩, ⟨hnot, hnodup⟩, ⟨hmet, hnew⟩, hresult⟩
        · rintro ⟨⟨-, hall⟩, ⟨hnot, hnodup⟩, ⟨-, hnew⟩, hresult⟩
          exact ⟨hall, hnodup, ⟨hnot, hnew⟩, hresult⟩

/-- A record from an object: the walk over its entries, then the search for what is missing. -/
theorem record_object (entries : Entries) :
    record type fields start .value (.ofJson (.object entries)) =
      recordEntries fields .value [] start (Draft.ofEntries entries) >>= fun result =>
        match fields.find? fun field => field.required && !result.2.contains field.name with
        | some field => .error (.missingField field.name)
        | none => .ok result.1 := by
  rw [Draft.ofJson]
  rfl

/-- A record is read from an object iff the object fits; its entries in turn make it up. -/
theorem record_object_eq_ok {entries : Entries} {state : σ} :
    record type fields start .value (.ofJson (.object entries)) = .ok state ↔
      Fits fields entries ∧ entries.foldl (update fields) start = state := by
  have hcomplete : ((fields.find? fun field => field.required &&
        !((knownKeys fields entries).reverse ++ []).contains field.name) = none) ↔
      ∀ field ∈ fields, field.required = true → field.name ∈ Entries.keys entries := by
    rw [List.find?_eq_none]
    refine forall₂_congr fun field hfield => ?_
    simp [mem_knownKeys, isSome_fieldAt hfield]
  rw [record_object, bind_eq_ok]
  constructor
  · rintro ⟨result, hwalk, h⟩
    obtain ⟨hreadable, honce, -, rfl⟩ := recordEntries_eq_ok.mp hwalk
    split at h
    · cases h
    · rename_i hnone
      cases h
      exact ⟨⟨hreadable, honce, hcomplete.mp hnone⟩, rfl⟩
  · rintro ⟨hfits, rfl⟩
    refine ⟨_, recordEntries_eq_ok.mpr ⟨hfits.readable, hfits.once, by simp, rfl⟩, ?_⟩
    rw [hcomplete.mpr hfits.complete]

/-! ## Changes that a record does not notice -/

/-- Whatever two fields read, it does not matter which of them comes first. -/
def Commute (f g : RecordField σ) : Prop :=
  ∀ x y change change', f.decode .value x = .ok change → g.decode .value y = .ok change' →
    ∀ state, change (change' state) = change' (change state)

instance : Std.Symm (@Commute σ) where
  symm _ _ h x y change change' hx hy state := (h y x change' change hy hx state).symm

/-- Two fields commute if the parts that they set do. -/
theorem commute_of_set {α β : Type} {name name' : String} {required required' : Bool}
    {decode : Decoder α} {decode' : Decoder β} {set : α → σ → σ} {set' : β → σ → σ}
    (h : ∀ a b state, set a (set' b state) = set' b (set a state)) :
    Commute ⟨name, required, map set decode⟩ ⟨name', required', map set' decode'⟩ := by
  intro x y change change' hx hy state
  obtain ⟨a, -, rfl⟩ := map_eq_ok.mp hx
  obtain ⟨b, -, rfl⟩ := map_eq_ok.mp hy
  exact h a b state

/-- Null under a field says what leaving the field out says. -/
def NullIsAbsent (start : σ) (field : RecordField σ) : Prop :=
  ∃ change, field.decode .value .null = .ok change ∧ change start = start

/-- Each field has a name and a part of the record of its own, and may be null if it may be left
    out. -/
structure Regular (fields : List (RecordField σ)) (start : σ) : Prop where
  names : (fields.map (·.name)).Nodup
  commute : fields.Pairwise Commute
  absent : ∀ field ∈ fields, field.required = false → NullIsAbsent start field

theorem Regular.eq_of_name (h : Regular fields start) {f g : RecordField σ} (hf : f ∈ fields)
    (hg : g ∈ fields) (hname : f.name = g.name) : f = g :=
  List.inj_on_of_nodup_map h.names hf hg hname

theorem Regular.fieldAt_name (h : Regular fields start) {field : RecordField σ}
    (hfield : field ∈ fields) : fieldAt fields field.name = some field := by
  obtain ⟨other, hother⟩ := Option.isSome_iff_exists.mp (isSome_fieldAt hfield)
  obtain ⟨hmem, hname⟩ := fieldAt_eq_some hother
  rw [hother, h.eq_of_name hmem hfield hname]

/-- Entries change the record independently of each other, unless both set one field. -/
theorem Regular.update_comm (h : Regular fields start) {a b : String × Json}
    (hname : (fieldAt fields a.1).isSome = true → a.1 = b.1 → a = b) (state : σ) :
    update fields (update fields state a) b = update fields (update fields state b) a := by
  cases hf : fieldAt fields a.1 with
  | none => simp only [update, hf]
  | some f =>
    cases hg : fieldAt fields b.1 with
    | none => simp only [update, hf, hg]
    | some g =>
      obtain ⟨hfmem, hfname⟩ := fieldAt_eq_some hf
      obtain ⟨hgmem, hgname⟩ := fieldAt_eq_some hg
      by_cases hkey : a.1 = b.1
      · rw [hname (by simp [hf]) hkey]
      have hne : f ≠ g := by
        rintro rfl
        exact hkey (hfname.symm.trans hgname)
      have hfg : Commute f g := h.commute.forall hfmem hgmem hne
      simp only [update, hf, hg]
      cases hx : f.decode .value (.ofJson a.2) with
      | error e => rfl
      | ok change =>
        cases hy : g.decode .value (.ofJson b.2) with
        | error e => rfl
        | ok change' => exact (hfg _ _ _ _ hx hy state).symm

/-- No field stands twice, so its name tells the entry. -/
theorem entry_eq_of_once {entries : Entries} (h : (knownKeys fields entries).Nodup)
    {a b : String × Json} (ha : a ∈ entries) (hb : b ∈ entries)
    (hknown : (fieldAt fields a.1).isSome = true) (hname : a.1 = b.1) : a = b := by
  rw [knownKeys, Entries.keys, List.filter_map] at h
  refine List.inj_on_of_nodup_map h (List.mem_filter.mpr ⟨ha, hknown⟩)
    (List.mem_filter.mpr ⟨hb, ?_⟩) hname
  show (fieldAt fields b.1).isSome = true
  rwa [← hname]

theorem keys_perm {a b : Entries} (h : a.Perm b) : (Entries.keys a).Perm (Entries.keys b) :=
  h.map _

/-- The order of the entries does not matter. -/
theorem Regular.record_perm (hregular : Regular fields start) {a b : Entries} (h : a.Perm b)
    {state : σ}
    (hread : record type fields start .value (.ofJson (.object a)) = .ok state) :
    record type fields start .value (.ofJson (.object b)) = .ok state := by
  rw [record_object_eq_ok] at hread ⊢
  obtain ⟨hfits, rfl⟩ := hread
  constructor
  · exact {
      readable := fun entry hentry => hfits.readable entry (h.mem_iff.mpr hentry)
      once := ((keys_perm h).filter _).nodup hfits.once
      complete := fun field hfield hreq =>
        (keys_perm h).mem_iff.mp (hfits.complete field hfield hreq) }
  · refine (h.foldl_eq' (fun x hx y hy state => ?_) start).symm
    exact hregular.update_comm (entry_eq_of_once hfits.once hx hy) state

/-- An entry that no field has the name of may come or go. -/
theorem record_cons_unknown {key : String} {value : Json} {entries : Entries} {state : σ}
    (h : fieldAt fields key = none) :
    record type fields start .value (.ofJson (.object ((key, value) :: entries))) = .ok state ↔
      record type fields start .value (.ofJson (.object entries)) = .ok state := by
  have hnone : fieldAt fields (key, value).1 = none := h
  rw [record_object, record_object, recordEntries_cons_of_none hnone]

/-- A null entry may stand for a field that is left out, and for no other. -/
theorem Regular.record_cons_null (h : Regular fields start) {field : RecordField σ}
    (hfield : field ∈ fields) (hreq : field.required = false) {entries : Entries} {state : σ} :
    record type fields start .value (.ofJson (.object ((field.name, .null) :: entries))) =
        .ok state ↔
      field.name ∉ Entries.keys entries ∧
        record type fields start .value (.ofJson (.object entries)) = .ok state := by
  obtain ⟨change, hread, hstart⟩ := h.absent field hfield hreq
  have hat := h.fieldAt_name hfield
  have hchange : update fields start (field.name, .null) = change start :=
    update_of_read hat hread start
  have hupdate := hchange.trans hstart
  have hknown : knownKeys fields ((field.name, .null) :: entries) =
      field.name :: knownKeys fields entries := knownKeys_cons_of_some hat
  have hmem : field.name ∈ knownKeys fields entries ↔ field.name ∈ Entries.keys entries := by
    simp [mem_knownKeys, hat]
  rw [record_object_eq_ok, record_object_eq_ok, List.foldl_cons, hupdate]
  constructor
  · rintro ⟨hfits, hstate⟩
    have honce := hfits.once
    rw [hknown, List.nodup_cons, hmem] at honce
    refine ⟨honce.1, ⟨fun entry hentry => hfits.readable entry (List.mem_cons_of_mem _ hentry),
      honce.2, fun other hother hmust => ?_⟩, hstate⟩
    refine (List.mem_cons.mp (hfits.complete other hother hmust)).resolve_left fun hname => ?_
    rw [h.eq_of_name hother hfield hname, hreq] at hmust
    cases hmust
  · rintro ⟨habsent, hfits, hstate⟩
    refine ⟨⟨List.forall_mem_cons.mpr ⟨?_, hfits.readable⟩, ?_, fun other hother hmust => ?_⟩,
      hstate⟩
    · exact isReadable_of_read hat hread
    · rw [hknown, List.nodup_cons, hmem]
      exact ⟨habsent, hfits.once⟩
    · exact List.mem_cons_of_mem _ (hfits.complete other hother hmust)

/-- A value may be replaced by another that its field reads as the same. -/
theorem record_congr {key : String} {x y : Json} {before after : Entries} {state : σ}
    (hxy : ∀ field, fieldAt fields key = some field → ∀ change,
      field.decode .value (.ofJson x) = .ok change → field.decode .value (.ofJson y) = .ok change)
    (hread : record type fields start .value (.ofJson (.object (before ++ (key, x) :: after))) =
      .ok state) :
    record type fields start .value (.ofJson (.object (before ++ (key, y) :: after))) =
      .ok state := by
  rw [record_object_eq_ok] at hread ⊢
  obtain ⟨hfits, hstate⟩ := hread
  have hkeys : Entries.keys (before ++ (key, y) :: after) =
      Entries.keys (before ++ (key, x) :: after) := by simp [Entries.keys]
  obtain ⟨hbefore, hrest⟩ := List.forall_mem_append.mp hfits.readable
  obtain ⟨hx, hafter⟩ := List.forall_mem_cons.mp hrest
  have hy : IsReadable fields (key, y) := by
    intro field hfield
    obtain ⟨change, hchange⟩ := hx field hfield
    exact ⟨change, hxy field hfield change hchange⟩
  have hupdate : ∀ state, update fields state (key, y) = update fields state (key, x) := by
    intro state
    cases hfield : fieldAt fields key with
    | none => simp only [update, hfield]
    | some field =>
      obtain ⟨change, hchange⟩ := hx field hfield
      simp only [update, hfield, hchange, hxy field hfield change hchange]
  constructor
  · exact {
      readable := List.forall_mem_append.mpr ⟨hbefore, List.forall_mem_cons.mpr ⟨hy, hafter⟩⟩
      once := by
        rw [knownKeys, hkeys]
        exact hfits.once
      complete := by
        rw [hkeys]
        exact hfits.complete }
  · rw [List.foldl_append, List.foldl_cons] at hstate ⊢
    rw [hupdate, hstate]

/-- Neither the record built so far nor the names met have a part in the first error of entries
    with keys of their own, and null entries are not the ones that err. -/
theorem recordEntries_error_of_filter
    (hnull : ∀ field ∈ fields, ∃ change, field.decode .value .null = .ok change)
    {entries : Entries} (hnodup : (Entries.keys entries).Nodup) {met met' : List String}
    (hmet : ∀ key ∈ Entries.keys entries, key ∉ met)
    (hmet' : ∀ key ∈ Entries.keys entries, key ∉ met')
    {state state' : σ} {e : DecodeError}
    (h : recordEntries fields .value met state (Draft.ofEntries entries) = .error e) :
    recordEntries fields .value met' state'
      (Draft.ofEntries (entries.filter fun entry => !entry.2.isNull)) = .error e := by
  induction entries generalizing met met' state state' with
  | nil => cases h
  | cons entry rest ih =>
    rw [Entries.keys, List.map_cons] at hnodup hmet hmet'
    obtain ⟨hnot, hrest⟩ := List.nodup_cons.mp hnodup
    obtain ⟨hnew, hmetRest⟩ := List.forall_mem_cons.mp hmet
    obtain ⟨hnew', hmetRest'⟩ := List.forall_mem_cons.mp hmet'
    have hnotMet := forall_notMem_cons_iff.mpr ⟨hnot, hmetRest⟩
    have hnotMet' := forall_notMem_cons_iff.mpr ⟨hnot, hmetRest'⟩
    cases hfield : fieldAt fields entry.1 with
    | none =>
      rw [recordEntries_cons_of_none hfield] at h
      rw [List.filter_cons]
      split_ifs
      · rw [recordEntries_cons_of_none hfield]
        exact ih hrest hmetRest hmetRest' h
      · exact ih hrest hmetRest hmetRest' h
    | some field =>
      rw [recordEntries_cons_of_some hfield hnew] at h
      cases hisNull : entry.2.isNull with
      | true =>
        rw [List.filter_cons_of_neg (by simp [hisNull])]
        obtain ⟨change, hchange⟩ := hnull field (fieldAt_eq_some hfield).1
        have hentry : entry.2 = .null := by
          cases hvalue : entry.2 <;> simp [hvalue, Json.isNull] at hisNull ⊢
        rw [hentry, Draft.ofJson, hchange] at h
        exact ih hrest hnotMet hmetRest' h
      | false =>
        rw [List.filter_cons_of_pos (by simp [hisNull]),
          recordEntries_cons_of_some hfield hnew']
        cases hread : field.decode .value (.ofJson entry.2) with
        | error e' =>
          rw [hread] at h
          exact h
        | ok change =>
          rw [hread] at h
          exact ih hrest hnotMet hnotMet' h

/-- Where every field may be left out, the null entries have no part in what is wrong. -/
theorem Regular.record_error_of_filter (hregular : Regular fields start)
    (hoptional : ∀ field ∈ fields, field.required = false) {entries : Entries}
    (hnodup : (Entries.keys entries).Nodup) {e : DecodeError}
    (h : record type fields start .value (.ofJson (.object entries)) = .error e) :
    record type fields start .value
      (.ofJson (.object (entries.filter fun entry => !entry.2.isNull))) = .error e := by
  have hmissing : ∀ met : List String,
      (fields.find? fun field => field.required && !met.contains field.name) = none := by
    intro met
    rw [List.find?_eq_none]
    intro field hfield
    simp [hoptional field hfield]
  have hnull : ∀ field ∈ fields, ∃ change, field.decode .value .null = .ok change := by
    intro field hfield
    obtain ⟨change, hchange, -⟩ := hregular.absent field hfield (hoptional field hfield)
    exact ⟨change, hchange⟩
  simp only [record_object, hmissing, bind_eq_error] at h ⊢
  obtain h | ⟨result, -, h⟩ := h
  · exact Or.inl (recordEntries_error_of_filter hnull hnodup (by simp) (by simp) h)
  · cases h

/-! ## Records given in the order of their fields -/

/-- Entries that give the fields in their order, from a first state to a last one; what may be left
    out can be. -/
inductive Builds : List (RecordField σ) → Entries → σ → σ → Prop where
  | nil {state : σ} : Builds [] [] state state
  | give {field : RecordField σ} {rest : List (RecordField σ)} {value : Json} {entries : Entries}
      {state last : σ} {change : σ → σ} (hread : field.decode .value (.ofJson value) = .ok change)
      (h : Builds rest entries (change state) last) :
      Builds (field :: rest) ((field.name, value) :: entries) state last
  | leave {field : RecordField σ} {rest : List (RecordField σ)} {entries : Entries}
      {state last : σ} (hreq : field.required = false) (h : Builds rest entries state last) :
      Builds (field :: rest) entries state last

section Given

variable {α : Type} {name : String} {decode : Decoder α} {set : α → σ → σ} {value : Json} {a : α}
  {rest : List (RecordField σ)} {entries : Entries} {state last : σ}

theorem map_eq_ok_of_eq_ok {β : Type} {f : α → β} (h : decode .value (.ofJson value) = .ok a) :
    map f decode .value (.ofJson value) = .ok (f a) := by
  rw [map, h]
  rfl

theorem Builds.optional (hread : decode .value (.ofJson value) = .ok a)
    (h : Builds rest entries (set a state) last) :
    Builds (.optional name decode set :: rest) ((name, value) :: entries) state last :=
  .give (map_eq_ok_of_eq_ok hread) h

theorem Builds.mandatory (hread : decode .value (.ofJson value) = .ok a)
    (h : Builds rest entries (set a state) last) :
    Builds (.mandatory name decode set :: rest) ((name, value) :: entries) state last :=
  .give (map_eq_ok_of_eq_ok hread) h

end Given

theorem Builds.subset_names {given : List (RecordField σ)} {entries : Entries} {state last : σ}
    (h : Builds given entries state last) : Entries.keys entries ⊆ given.map (·.name) := by
  induction h with
  | nil => simp [Entries.keys]
  | give _ _ ih =>
    rw [Entries.keys, List.map_cons, List.map_cons]
    exact List.cons_subset_cons _ ih
  | leave _ _ ih =>
    rw [List.map_cons]
    exact fun key hkey => List.mem_cons_of_mem _ (ih hkey)

/-- The walk over some of the fields, given in their order. -/
theorem Builds.run (hregular : Regular fields start) {given : List (RecordField σ)}
    {entries : Entries} {first last : σ} (h : Builds given entries first last)
    (hsub : given ⊆ fields) (hnames : (given.map (·.name)).Nodup) :
    (∀ entry ∈ entries, IsReadable fields entry) ∧ (Entries.keys entries).Nodup ∧
      (∀ field ∈ given, field.required = true → field.name ∈ Entries.keys entries) ∧
      entries.foldl (update fields) first = last := by
  induction h with
  | nil => simp [Entries.keys]
  | @give field rest value entries first last change hread hrest ih =>
    obtain ⟨hfield, hsubRest⟩ := List.cons_subset.mp hsub
    rw [List.map_cons, List.nodup_cons] at hnames
    obtain ⟨hreadable, hnodup, hcomplete, hfold⟩ := ih hsubRest hnames.2
    have hat := hregular.fieldAt_name hfield
    refine ⟨List.forall_mem_cons.mpr ⟨?_, hreadable⟩, ?_, List.forall_mem_cons.mpr ⟨?_, ?_⟩, ?_⟩
    · exact isReadable_of_read hat hread
    · rw [Entries.keys, List.map_cons]
      exact List.nodup_cons.mpr ⟨fun hmem => hnames.1 (hrest.subset_names hmem), hnodup⟩
    · exact fun _ => List.mem_cons_self
    · exact fun other hother hmust => List.mem_cons_of_mem _ (hcomplete other hother hmust)
    · have hupdate : update fields first (field.name, value) = change first :=
        update_of_read hat hread first
      rw [List.foldl_cons, hupdate, hfold]
  | @leave field rest entries first last hreq hrest ih =>
    rw [List.map_cons, List.nodup_cons] at hnames
    obtain ⟨hreadable, hnodup, hcomplete, hfold⟩ := ih (List.cons_subset.mp hsub).2 hnames.2
    refine ⟨hreadable, hnodup, List.forall_mem_cons.mpr ⟨fun hmust => ?_, hcomplete⟩, hfold⟩
    rw [hreq] at hmust
    cases hmust

/-- What is given in order is read in order. -/
theorem Regular.record_of_builds (h : Regular fields start) {entries : Entries} {state : σ}
    (hbuilds : Builds fields entries start state) :
    record type fields start .value (.ofJson (.object entries)) = .ok state := by
  obtain ⟨hreadable, hnodup, hcomplete, hfold⟩ := hbuilds.run h (List.Subset.refl fields) h.names
  exact record_object_eq_ok.mpr ⟨⟨hreadable, hnodup.filter _, hcomplete⟩, hfold⟩

/-! ## Records from any draft -/

theorem recordEntries_preserves {P : σ → Prop} {origin : Origin}
    (hstep : ∀ field ∈ fields, ∀ draft change, field.decode origin draft = .ok change →
      ∀ state, P state → P (change state))
    {entries : List (Option String × Draft)} {met : List String} {state : σ}
    {result : σ × List String} (hstart : P state)
    (h : recordEntries fields origin met state entries = .ok result) : P result.1 := by
  induction entries generalizing met state with
  | nil =>
    rw [recordEntries, Except.ok.injEq] at h
    rw [← h]
    exact hstart
  | cons entry rest ih =>
    obtain ⟨key | key, draft⟩ := entry
    · cases h
    rw [recordEntries] at h
    split at h
    · split at h
      · cases h
      · exact ih hstart h
    · rename_i field hfield
      split at h
      · cases h
      split at h
      · cases h
      · rename_i change hchange
        exact ih (hstep field (List.mem_of_find?_eq_some hfield) draft change hchange _ hstart) h

theorem recordItems_preserves {P : σ → Prop} {origin : Origin} {expected : String} {closed : Bool}
    (hstep : ∀ field ∈ fields, ∀ draft change, field.decode origin draft = .ok change →
      ∀ state, P state → P (change state))
    {items : List Draft} {position : Nat} {state : σ} {result : σ × List Draft} (hstart : P state)
    (h : recordItems expected closed origin position state fields items = .ok result) :
    P result.1 := by
  induction fields generalizing items position state with
  | nil =>
    rw [recordItems, Except.ok.injEq] at h
    rw [← h]
    exact hstart
  | cons field rest ih =>
    obtain ⟨hfirst, hrest⟩ := List.forall_mem_cons.mp hstep
    cases items with
    | nil =>
      rw [recordItems] at h
      split_ifs at h
      exact ih hrest hstart h
    | cons item items =>
      rw [recordItems] at h
      split at h
      · cases h
      · rename_i change hchange
        exact ih hrest (hfirst item change hchange _ hstart) h

/-- What the start has and every field keeps, every record has that is read from a value. -/
theorem record_preserves {P : σ → Prop} (hstart : P start)
    (hstep : ∀ field ∈ fields, ∀ draft change, field.decode .value draft = .ok change →
      ∀ state, P state → P (change state))
    {value : Json} {state : σ} (h : record type fields start .value (.ofJson value) = .ok state) :
    P state := by
  cases value with
  | object entries =>
    rw [record_object, bind_eq_ok] at h
    obtain ⟨result, hwalk, h⟩ := h
    split at h
    · cases h
    · cases h
      exact recordEntries_preserves hstep hstart hwalk
  | array items =>
    rw [Draft.ofJson, record] at h
    simp only [enter, Origin.inside?, bind_eq_ok, Except.ok.injEq, exists_eq_left'] at h
    obtain ⟨result, hwalk, h⟩ := h
    split_ifs at h
    cases h
    exact recordItems_preserves hstep hstart hwalk
  | null | bool b | number n | string s => cases h

end Records

end Decoder

end GridQuery
