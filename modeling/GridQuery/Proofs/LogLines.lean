import Mathlib
import GridQuery.Log.Record
import GridQuery.Proofs.Sorting
import GridQuery.Proofs.TextsRead

/-!
# Lines of a log

Whatever its event and its fields say, a record is written as one line, and the line is an object
that is read back: event and severity, and then the keys of the fields in ascending order, each once
and with its last text. Sorting is stable, so the last text of a key stays its last.

Results:
* `Entries.ofList_append`, `Entries.get?_ofList`, `Entries.keys_ofList_sublist`: what is inserted
  one after the other, by its order and by its last values.
* `LogRecord.lastText?_sorted`: sorting keeps the last text of each key.
* `LogRecord.written_readsBack`: a record is one line, and what is read from it.
-/

namespace GridQuery

/-! ## Entries inserted one after the other -/

namespace Entries

/-- Entries with keys of their own stand before those that are inserted later. -/
theorem ofList_append {front pairs : List (String × Json)} (hnodup : (keys front).Nodup)
    (hkeys : ∀ key ∈ keys pairs, key ∉ keys front) :
    ofList (front ++ pairs) = front ++ ofList pairs := by
  induction pairs using List.reverseRecOn with
  | nil => simpa [ofList] using ofList_of_nodup hnodup
  | append_singleton pairs pair ih =>
    have hlast : pair.1 ∉ keys front := hkeys pair.1 (by simp [keys])
    have hrest : ∀ key ∈ keys pairs, key ∉ keys front := by
      intro key hkey
      exact hkeys key (by rw [keys, List.map_append]; exact List.mem_append_left _ hkey)
    rw [← List.append_assoc, ofList_concat, ih hrest, insert_append _ _ hlast, ofList_concat]

/-- A key has the value that is inserted last for it. -/
theorem get?_ofList (key : String) (pairs : List (String × Json)) :
    get? key (ofList pairs) = (pairs.filter fun pair => pair.1 = key).getLast?.map (·.2) := by
  induction pairs using List.reverseRecOn with
  | nil => rfl
  | append_singleton pairs pair ih =>
    rw [ofList_concat, List.filter_append]
    by_cases hkey : pair.1 = key
    · subst hkey
      simp
    · rw [get?_insert_of_ne (Ne.symm hkey), ih]
      simp [hkey]

/-- Keys stand in the order in which they are first inserted. -/
theorem keys_ofList_sublist (pairs : List (String × Json)) :
    (keys (ofList pairs)).Sublist (keys pairs) := by
  induction pairs using List.reverseRecOn with
  | nil => exact .refl _
  | append_singleton pairs pair ih =>
    have hconcat : keys (pairs ++ [pair]) = keys pairs ++ [pair.1] := by simp [keys]
    rw [ofList_concat, keys_insert, hconcat]
    split_ifs
    · exact ih.trans (List.sublist_append_left _ _)
    · exact ih.append (.refl _)

end Entries

namespace LogRecord

/-! ## Fields of a record -/

/-- The fields of a record; a timed one also has the milliseconds that the work took. -/
def allFields (elapsed : String) (r : LogRecord) : List (String × String) :=
  r.fields ++ if r.timed then [("elapsed_ms", elapsed)] else []

/-- The text of the last field with a key. -/
def lastText? (key : String) (fields : List (String × String)) : Option String :=
  (fields.filter fun field => field.1 = key).getLast?.map (·.2)

/-- A field as an entry. -/
def entry (field : String × String) : String × Json := (field.1, .string field.2)

theorem keys_entries (fields : List (String × String)) :
    Entries.keys (fields.map entry) = fields.map (·.1) := by
  rw [Entries.keys, List.map_map]
  rfl

/-- The first field does not come after the second one by its key. -/
def inKeyOrder (a b : String × String) : Bool := decide (a.1 ≤ b.1)

theorem inKeyOrder_trans (a b c : String × String) (hab : inKeyOrder a b = true)
    (hbc : inKeyOrder b c = true) : inKeyOrder a c = true :=
  decide_eq_true (le_trans (of_decide_eq_true hab) (of_decide_eq_true hbc))

theorem inKeyOrder_total (a b : String × String) : (inKeyOrder a b || inKeyOrder b a) = true := by
  rw [Bool.or_eq_true, inKeyOrder, inKeyOrder, decide_eq_true_eq, decide_eq_true_eq]
  exact le_total a.1 b.1

theorem sorted_eq (fields : List (String × String)) : sorted fields = fields.mergeSort inKeyOrder :=
  rfl

theorem pairwise_sorted (fields : List (String × String)) :
    ((sorted fields).map (·.1)).Pairwise (· ≤ ·) := by
  rw [sorted_eq, List.pairwise_map]
  have hpairwise := List.pairwise_mergeSort inKeyOrder_trans inKeyOrder_total fields
  exact hpairwise.imp of_decide_eq_true

/-- Sorting keeps the last text of each key. -/
theorem lastText?_sorted (key : String) (fields : List (String × String)) :
    lastText? key (sorted fields) = lastText? key fields := by
  -- The fields of one key are in key order as they are given, so that sorting does not move them.
  have halike : (fields.filter fun field => field.1 = key).Pairwise fun a b =>
      inKeyOrder a b = true := by
    refine List.pairwise_of_forall_mem_list fun a ha b hb => ?_
    have ha' := of_decide_eq_true (List.mem_filter.mp ha).2
    have hb' := of_decide_eq_true (List.mem_filter.mp hb).2
    exact decide_eq_true (le_of_eq (ha'.trans hb'.symm))
  rw [lastText?, sorted_eq, filter_mergeSort inKeyOrder_trans inKeyOrder_total,
    List.mergeSort_of_pairwise halike, lastText?]

/-- The entries of the fields, sorted and with each key once. -/
def fieldEntries (fields : List (String × String)) : Entries :=
  Entries.ofList ((sorted fields).map entry)

theorem mem_keys_fieldEntries {key : String} {fields : List (String × String)} :
    key ∈ Entries.keys (fieldEntries fields) ↔ key ∈ fields.map (·.1) := by
  have hkeys := keys_entries (sorted fields)
  have hsorted : key ∈ (sorted fields).map (·.1) ↔ key ∈ fields.map (·.1) :=
    ((List.mergeSort_perm fields inKeyOrder).map (·.1)).mem_iff
  rw [← hsorted, ← hkeys]
  constructor
  · intro h
    exact (Entries.keys_ofList_sublist _).subset h
  · intro h
    exact (Entries.ofList_spec _).2.2 key h

/-- Sorted keys of which none is repeated are in strictly ascending order. -/
theorem ascending_fieldEntries (fields : List (String × String)) :
    (Entries.keys (fieldEntries fields)).Pairwise (· < ·) := by
  have hsorted := pairwise_sorted fields
  rw [← keys_entries] at hsorted
  have hweak := hsorted.sublist (Entries.keys_ofList_sublist _)
  have hnodup := (Entries.ofList_spec ((sorted fields).map entry)).1
  exact hweak.imp₂ (fun _ _ hle hne => lt_of_le_of_ne hle hne) hnodup

theorem get?_fieldEntries (key : String) (fields : List (String × String)) :
    Entries.get? key (fieldEntries fields) = (lastText? key fields).map .string := by
  rw [fieldEntries, Entries.get?_ofList, List.filter_map, List.getLast?_map, Option.map_map,
    ← lastText?_sorted, lastText?, Option.map_map]
  rfl

theorem areTexts_fieldEntries (fields : List (String × String)) :
    (fieldEntries fields).AreTexts := by
  intro x hx
  obtain ⟨field, -, rfl⟩ := List.mem_map.mp ((Entries.ofList_spec _).2.1 x hx)
  exact ⟨field.2, rfl⟩

/-! ## The line of a record -/

/-- No field takes the place of the event or of the severity. -/
def HasOwnKeys (fields : List (String × String)) : Prop :=
  ∀ field ∈ fields, field.1 ≠ "event" ∧ field.1 ≠ "severity"

theorem HasOwnKeys.allFields {r : LogRecord} (h : HasOwnKeys r.fields) (elapsed : String) :
    HasOwnKeys (r.allFields elapsed) := by
  refine List.forall_mem_append.mpr ⟨h, ?_⟩
  cases r.timed <;> simp

/-- The entries of a line: event and severity, and the fields behind them. -/
theorem entries_eq {elapsed : String} {r : LogRecord} (h : HasOwnKeys (r.allFields elapsed)) :
    r.entries elapsed = ("event", .string r.event) :: ("severity", .string r.severity.name) ::
      fieldEntries (r.allFields elapsed) := by
  have hsplit : r.entries elapsed = Entries.ofList
      ([entry ("event", r.event), entry ("severity", r.severity.name)] ++
        (sorted (r.allFields elapsed)).map entry) := rfl
  rw [hsplit, Entries.ofList_append]
  · rfl
  · simp [Entries.keys, entry]
  · intro key hkey
    rw [keys_entries] at hkey
    obtain ⟨field, hfield, rfl⟩ := List.mem_map.mp hkey
    obtain ⟨hevent, hseverity⟩ := h field (List.mem_mergeSort.mp hfield)
    simp [Entries.keys, entry, hevent, hseverity]

theorem areTexts_entries {elapsed : String} {r : LogRecord} (h : HasOwnKeys (r.allFields elapsed)) :
    Entries.AreTexts (r.entries elapsed) := by
  rw [entries_eq h]
  refine List.forall_mem_cons.mpr ⟨⟨_, rfl⟩, List.forall_mem_cons.mpr ⟨⟨_, rfl⟩, ?_⟩⟩
  exact areTexts_fieldEntries _

/-- Only the last character is a control character, a line break. -/
def IsLine (text : String) : Prop := ∃ body, text.toList = body ++ ['\n'] ∧ HasNoControl body

theorem isLine_written (elapsed : String) (r : LogRecord) : IsLine (r.written elapsed) := by
  refine ⟨(Json.object (r.entries elapsed)).compact, ?_, Json.hasNoControl_compact _⟩
  rw [written, String.toList_append, line, Json.text, String.toList_ofList]
  rfl

/-- A record is written as one line. If no field takes the place of the event or of the severity,
    the line is read as an object with the event, the severity and then the keys of the fields in
    ascending order, each once and with its last text. -/
theorem written_readsBack (elapsed : String) (r : LogRecord) (h : HasOwnKeys r.fields) :
    IsLine (r.written elapsed) ∧
    ∃ fields : Entries,
      Json.read? (r.written elapsed) = some (.object
        (("event", .string r.event) :: ("severity", .string r.severity.name) :: fields)) ∧
      (Entries.keys fields).Pairwise (· < ·) ∧
      (∀ key, key ∈ Entries.keys fields ↔ key ∈ (r.allFields elapsed).map (·.1)) ∧
      ∀ key, Entries.get? key fields = (lastText? key (r.allFields elapsed)).map .string := by
  have hall := h.allFields elapsed
  have hnodup : (Entries.keys (r.entries elapsed)).Nodup := (Entries.ofList_spec _).1
  have hread : Json.read? (r.written elapsed) = some (.object (r.entries elapsed)) :=
    Json.read?_text (areTexts_entries hall) hnodup rfl
  refine ⟨isLine_written elapsed r, fieldEntries (r.allFields elapsed), ?_, ?_, ?_, ?_⟩
  · rw [hread, entries_eq hall]
  · exact ascending_fieldEntries _
  · exact fun key => mem_keys_fieldEntries
  · exact fun key => get?_fieldEntries key _

/-- A record with a key that is repeated, and with characters that have to be escaped. -/
def ofTwoLines : LogRecord :=
  { severity := .warn, event := "a \"b\"\nc",
    fields := [("z", "1"), ("é", "\x01\\"), ("z", "2\n")] }

theorem written_readsBack_twoLines :
    IsLine (ofTwoLines.written "0") ∧
    ∃ fields : Entries,
      Json.read? (ofTwoLines.written "0") = some (.object
        (("event", .string "a \"b\"\nc") :: ("severity", .string "WARN") :: fields)) ∧
      (Entries.keys fields).Pairwise (· < ·) ∧
      Entries.get? "z" fields = some (.string "2\n") ∧
      Entries.get? "é" fields = some (.string "\x01\\") := by
  have hkeys : HasOwnKeys ofTwoLines.fields := by simp [HasOwnKeys, ofTwoLines]
  obtain ⟨hline, fields, hread, hascending, -, htext⟩ := written_readsBack "0" ofTwoLines hkeys
  refine ⟨hline, fields, hread, hascending, (htext "z").trans ?_, (htext "é").trans ?_⟩
  · simp [ofTwoLines, allFields, lastText?]
  · simp [ofTwoLines, allFields, lastText?]

end LogRecord

end GridQuery
