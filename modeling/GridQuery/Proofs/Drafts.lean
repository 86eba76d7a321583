import Mathlib
import GridQuery.Decode.Basic
import GridQuery.Proofs.Fields
import GridQuery.Proofs.Running

/-!
# Values and their drafts

Decoders work on drafts, so that they can be run on broken text. The draft of a value has no fault,
and a decoder of any value gives back the value itself if no object in it repeats a key.

Results:
* `Draft.hasFault_ofJson`: the draft of a value is whole.
* `Draft.json?_ofJson`, `Draft.wellFormed_of_json?`: a value without repeated keys is the value of
  its draft, and every value that a draft has is of that kind.
* `Decoder.list_array_eq_ok`: a list is read from an array item by item.
-/

namespace GridQuery

/-! ## Values and their drafts -/

namespace Draft

theorem ofItems_eq_map (items : List Json) : ofItems items = items.map ofJson := by
  induction items with
  | nil => rfl
  | cons x rest ih => rw [ofItems, ih, List.map_cons]

mutual

/-- The draft of a value is whole. -/
theorem hasFault_ofJson : ∀ value : Json, (ofJson value).hasFault = false
  | .null | .bool _ | .number _ | .string _ => rfl
  | .array items => by
    rw [ofJson, hasFault, hasFault_ofItems items]
    rfl
  | .object entries => by
    rw [ofJson, hasFault, hasFault_ofEntries entries]
    rfl

theorem hasFault_ofItems : ∀ items : List Json, itemsHaveFault (ofItems items) = false
  | [] => rfl
  | x :: rest => by
    rw [ofItems, itemsHaveFault, hasFault_ofJson x, hasFault_ofItems rest]
    rfl

theorem hasFault_ofEntries : ∀ entries : Entries, entriesHaveFault (ofEntries entries) = false
  | [] => rfl
  | (_, x) :: rest => by
    rw [ofEntries, entriesHaveFault, hasFault_ofJson x, hasFault_ofEntries rest]
    rfl

end

mutual

/-- A value in which no object repeats a key is the value of its draft. -/
theorem json?_ofJson : ∀ {value : Json}, value.WellFormed →
    (ofJson value).json? .value = some value
  | .null, _ | .bool _, _ | .number _, _ | .string _, _ => rfl
  | .array items, h => by
    rw [Json.WellFormed] at h
    simp [ofJson, json?, Origin.inside?, items?_ofItems h]
  | .object entries, h => by
    rw [Json.WellFormed] at h
    simp [ofJson, json?, Origin.inside?, entries?_ofEntries h.2, Entries.ofList_of_nodup h.1]

theorem items?_ofItems : ∀ {items : List Json}, Json.ItemsWellFormed items →
    items? .value (ofItems items) = some items
  | [], _ => rfl
  | x :: rest, h => by
    rw [Json.ItemsWellFormed] at h
    simp [ofItems, items?, json?_ofJson h.1, items?_ofItems h.2]

theorem entries?_ofEntries : ∀ {entries : Entries}, Json.EntriesWellFormed entries →
    entries? .value (ofEntries entries) = some entries
  | [], _ => rfl
  | (_, x) :: rest, h => by
    rw [Json.EntriesWellFormed] at h
    simp [ofEntries, entries?, json?_ofJson h.1, entries?_ofEntries h.2]

end

end Draft

theorem Json.itemsWellFormed_iff {items : List Json} :
    ItemsWellFormed items ↔ ∀ item ∈ items, item.WellFormed := by
  induction items with
  | nil => simp [ItemsWellFormed]
  | cons item rest ih => rw [ItemsWellFormed, ih, List.forall_mem_cons]

theorem Json.entriesWellFormed_iff {entries : Entries} :
    EntriesWellFormed entries ↔ ∀ entry ∈ entries, entry.2.WellFormed := by
  induction entries with
  | nil => simp [EntriesWellFormed]
  | cons entry rest ih => rw [EntriesWellFormed, ih, List.forall_mem_cons]

namespace Draft

mutual

/-- The value of a draft repeats no key: the last entry of a key stands for all of them. -/
theorem wellFormed_of_json? {origin : Origin} : ∀ {draft : Draft} {value : Json},
    draft.json? origin = some value → value.WellFormed
  | .null, value, h | .bool b, value, h => by
    simp only [json?, Option.some.injEq] at h
    rw [← h, Json.WellFormed]
    trivial
  | .number n, value, h | .string s, value, h => by
    simp only [json?, Option.map_eq_some_iff] at h
    obtain ⟨a, -, rfl⟩ := h
    rw [Json.WellFormed]
    trivial
  | .broken, value, h => by simp [json?] at h
  | .array items closed, value, h => by
    simp only [json?, Option.bind_eq_bind, Option.bind_eq_some_iff] at h
    obtain ⟨inner, -, values, hvalues, h⟩ := h
    cases closed with
    | false => simp at h
    | true =>
      rw [if_pos rfl, Option.some.injEq] at h
      rw [← h, Json.WellFormed]
      exact itemsWellFormed_of_items? hvalues
  | .object entries closed, value, h => by
    simp only [json?, Option.bind_eq_bind, Option.bind_eq_some_iff] at h
    obtain ⟨inner, -, pairs, hpairs, h⟩ := h
    cases closed with
    | false => simp at h
    | true =>
      rw [if_pos rfl, Option.some.injEq] at h
      obtain ⟨hnodup, hmem, -⟩ := Entries.ofList_spec pairs
      have hall := Json.entriesWellFormed_iff.mp (entriesWellFormed_of_entries? hpairs)
      rw [← h, Json.WellFormed]
      exact ⟨hnodup, Json.entriesWellFormed_iff.mpr fun entry hentry => hall entry (hmem _ hentry)⟩

theorem itemsWellFormed_of_items? {origin : Origin} : ∀ {items : List Draft} {values : List Json},
    items? origin items = some values → Json.ItemsWellFormed values
  | [], values, h => by
    simp only [items?, Option.some.injEq] at h
    rw [← h, Json.ItemsWellFormed]
    trivial
  | x :: rest, values, h => by
    simp only [items?, Option.bind_eq_bind, Option.bind_eq_some_iff, Option.pure_def,
      Option.some.injEq] at h
    obtain ⟨value, hvalue, others, hothers, rfl⟩ := h
    rw [Json.ItemsWellFormed]
    exact ⟨wellFormed_of_json? hvalue, itemsWellFormed_of_items? hothers⟩

theorem entriesWellFormed_of_entries? {origin : Origin} :
    ∀ {entries : List (Option String × Draft)} {pairs : Entries},
    entries? origin entries = some pairs → Json.EntriesWellFormed pairs
  | [], pairs, h => by
    simp only [entries?, Option.some.injEq] at h
    rw [← h, Json.EntriesWellFormed]
    trivial
  | (k, x) :: rest, pairs, h => by
    simp only [entries?, Option.bind_eq_bind, Option.bind_eq_some_iff, Option.pure_def,
      Option.some.injEq] at h
    obtain ⟨key, -, value, hvalue, others, hothers, rfl⟩ := h
    rw [Json.EntriesWellFormed]
    exact ⟨wellFormed_of_json? hvalue, entriesWellFormed_of_entries? hothers⟩

end

end Draft

namespace Decoder

/-! ## Decoders of parts -/

section Parts

variable {α : Type} {decode : Decoder α} {origin : Origin} {draft : Draft}

theorem nullable_of_ne_null (h : draft ≠ .null) :
    nullable decode origin draft = (decode origin draft).map some := by
  cases draft with
  | null => exact absurd rfl h
  | _ => rfl

theorem orDefault_of_ne_null {default : α} (h : draft ≠ .null) :
    orDefault default decode origin draft = decode origin draft := by
  rw [orDefault, map, nullable_of_ne_null h]
  cases decode origin draft <;> rfl

theorem eachItem_eq_ok {drafts : List Draft} {values : List α} :
    eachItem decode origin drafts = .ok values ↔
      List.Forall₂ (fun draft value => decode origin draft = .ok value) drafts values := by
  induction drafts generalizing values with
  | nil => cases values <;> simp [eachItem]
  | cons draft rest ih =>
    rw [eachItem]
    cases hfirst : decode origin draft with
    | error e => cases values <;> simp [hfirst]
    | ok value =>
      show (eachItem decode origin rest).map (value :: ·) = .ok values ↔ _
      rw [map_eq_ok]
      constructor
      · rintro ⟨others, hothers, rfl⟩
        exact .cons hfirst (ih.mp hothers)
      · intro h
        cases h with
        | cons hvalue hothers =>
          cases hfirst.symm.trans hvalue
          exact ⟨_, ih.mpr hothers, rfl⟩

theorem list_array_eq_ok {items : List Json} {values : List α} :
    list decode .value (.ofJson (.array items)) = .ok values ↔
      List.Forall₂ (fun item value => decode .value (.ofJson item) = .ok value) items values := by
  rw [Draft.ofJson, list, Draft.ofItems_eq_map, ← List.forall₂_map_left_iff (f := Draft.ofJson)
    (R := fun draft value => decode .value draft = .ok value), ← eachItem_eq_ok]
  simp [enter, Origin.inside?, bind_eq_ok]

end Parts

end Decoder

end GridQuery
