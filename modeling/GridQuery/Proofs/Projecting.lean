import Mathlib
import GridQuery.Proofs.Passing
import GridQuery.Proofs.Groups

/-!
# What a projection keeps

A projection that computes a field or keeps one other than `_id` selects fields; any other removes
the fields that it lists. Both leave `_id` in the document unless it is mapped to false or zero,
with one exception: a projection that keeps `_id` and selects nothing else removes it.

Results:
* `Maps`, `IsInclusion`: what a specification says of a name, and which kind it is of.
* `mem_selectedEntries_iff`: the entries that a selection takes from a document.
* `isSome_get?_of_selects`, `get?_of_not_selects`: the names in the two kinds of projected
  documents.
* `projected_honoursId_iff`: when `_id` is treated by the rule, for every specification and every
  document.
-/

namespace GridQuery

/-! ## Specifications -/

/-- The specification maps the name to a value that reads as the projection. -/
def Maps (spec : Json) (name : String) (p : Projection) : Prop :=
  ∃ value, spec.get? name = some value ∧ Projection.ofJson value = .ok p

/-- The specification computes a field or keeps one other than `_id`. -/
def IsInclusion (spec : Json) : Prop :=
  (∃ name e, Maps spec name (.compute e)) ∨ ∃ name, name ≠ "_id" ∧ Maps spec name .keep

/-- The specification computes the name, and its expression has a value in the document. -/
def ComputesIn (spec doc : Json) (name : String) : Prop :=
  ∃ e value, Maps spec name (.compute e) ∧ e.eval? doc = .ok (some value)

theorem Maps.unique {spec : Json} {name : String} {p q : Projection} (hp : Maps spec name p)
    (hq : Maps spec name q) : p = q := by
  obtain ⟨value, hvalue, hread⟩ := hp
  obtain ⟨other, hother, hread'⟩ := hq
  rw [hvalue, Option.some.injEq] at hother
  subst hother
  rw [hread, Except.ok.injEq] at hread'
  exact hread'

/-! ## Reading a specification -/

theorem Stage.ofJson_project {spec : Json} {stage : Stage}
    (h : Stage.ofJson (.single "$project" spec) = .ok stage) :
    ∃ fields, Stage.readEntries "$project" Projection.ofJson spec = .ok fields ∧
      stage = .project fields := by
  obtain ⟨fields, hfields, rfl⟩ := map_eq_ok.mp h
  exact ⟨fields, hfields, rfl⟩

/-- A field is what its entry reads as, under the name of the entry. -/
def ReadsAs (entry : String × Json) (field : String × Projection) : Prop :=
  entry.1 = field.1 ∧ Projection.ofJson entry.2 = .ok field.2

section

variable {entries : Entries} {fields : List (String × Projection)}

theorem forall₂_readsAs
    (h : Stage.readEntries "$project" Projection.ofJson (.object entries) = .ok fields) :
    List.Forall₂ ReadsAs entries fields := by
  refine (mapM_eq_ok.mp h).imp fun entry field hfield => ?_
  obtain ⟨p, hp, hpure⟩ := bind_eq_ok.mp hfield
  rw [← pure_eq_ok.mp hpure]
  exact ⟨rfl, hp⟩

theorem names_of_readsAs (h : List.Forall₂ ReadsAs entries fields) :
    fields.map Prod.fst = Entries.keys entries := by
  induction h with
  | nil => rfl
  | cons hentry _ ih =>
    rw [List.map_cons, ih, ← hentry.1, Entries.keys, Entries.keys, List.map_cons]

theorem mem_fields_iff (hnodup : (Entries.keys entries).Nodup)
    (h : List.Forall₂ ReadsAs entries fields) {name : String} {p : Projection} :
    (name, p) ∈ fields ↔ Maps (.object entries) name p := by
  have hmaps : Maps (.object entries) name p ↔
      ∃ value, (name, value) ∈ entries ∧ Projection.ofJson value = .ok p := by
    simp only [Maps, Json.get?, Json.object?, Option.bind_some, Entries.get?_eq_some_iff hnodup]
  rw [hmaps]
  clear hmaps hnodup
  induction h with
  | nil => simp
  | @cons entry field _ _ hentry _ ih =>
    constructor
    · intro hmem
      rcases List.mem_cons.mp hmem with rfl | hmem
      · exact ⟨entry.2, List.mem_cons.mpr (Or.inl (Prod.ext hentry.1.symm rfl)), hentry.2⟩
      · obtain ⟨value, hmem, hread⟩ := ih.mp hmem
        exact ⟨value, List.mem_cons_of_mem _ hmem, hread⟩
    · rintro ⟨value, hmem, hread⟩
      rcases List.mem_cons.mp hmem with rfl | hmem
      · have hp : field.2 = p := by
          rw [hentry.2, Except.ok.injEq] at hread
          exact hread
        exact List.mem_cons.mpr (Or.inl (Prod.ext hentry.1 hp.symm))
      · exact List.mem_cons_of_mem _ (ih.mpr ⟨value, hmem, hread⟩)

end

/-! ## Selecting -/

/-- What a projection takes from a document under a name. -/
def Projection.fetch (doc : Json) (name : String) : Projection → Except DateOverflow (Option Json)
  | .keep => .ok (doc.resolve? name)
  | .compute e => e.eval? doc
  | .drop => .ok none

theorem selectedEntries_cons_eq_ok {doc : Json} {field : String × Projection}
    {rest : List (String × Projection)} {selected : List (String × Json)} :
    selectedEntries doc (field :: rest) = .ok selected ↔
      ∃ value others, field.2.fetch doc field.1 = .ok value ∧
        selectedEntries doc rest = .ok others ∧
        selected = (value.map fun value => (field.1, value)).toList ++ others := by
  obtain ⟨name, p⟩ := field
  have hfetch : selectedEntries doc ((name, p) :: rest) =
      (p.fetch doc name).bind fun value => (selectedEntries doc rest).bind fun others =>
        .ok ((value.map fun value => (name, value)).toList ++ others) := by
    cases p <;> rfl
  rw [hfetch]
  constructor
  · intro h
    obtain ⟨value, hvalue, h⟩ := bind_eq_ok.mp h
    obtain ⟨others, hothers, h⟩ := bind_eq_ok.mp h
    exact ⟨value, others, hvalue, hothers, (Except.ok.inj h).symm⟩
  · rintro ⟨value, others, hvalue, hothers, rfl⟩
    rw [hvalue, hothers]
    rfl

/-- An entry is selected if a field fetches it. -/
theorem mem_selectedEntries_iff {doc : Json} {fields : List (String × Projection)}
    {selected : List (String × Json)} (h : selectedEntries doc fields = .ok selected)
    {name : String} {value : Json} :
    (name, value) ∈ selected ↔ ∃ p, (name, p) ∈ fields ∧ p.fetch doc name = .ok (some value) := by
  induction fields generalizing selected with
  | nil =>
    cases h
    simp
  | cons field rest ih =>
    obtain ⟨fetched, others, hfetched, hothers, rfl⟩ := selectedEntries_cons_eq_ok.mp h
    rw [List.mem_append, ih hothers]
    constructor
    · rintro (hmem | ⟨p, hp, hfetch⟩)
      · obtain ⟨v, rfl, hv⟩ := Option.map_eq_some_iff.mp (Option.mem_toList.mp hmem)
        cases hv
        exact ⟨field.2, List.mem_cons_self, hfetched⟩
      · exact ⟨p, List.mem_cons_of_mem _ hp, hfetch⟩
    · rintro ⟨p, hp, hfetch⟩
      rcases List.mem_cons.mp hp with rfl | hp
      · rw [hfetch, Except.ok.injEq] at hfetched
        subst hfetched
        exact Or.inl (by simp)
      · exact Or.inr ⟨p, hp, hfetch⟩

/-- A selection fails only where the expression of a field does. -/
theorem exists_selectedEntries_iff {doc : Json} {fields : List (String × Projection)} :
    (∃ selected, selectedEntries doc fields = .ok selected) ↔
      ∀ field ∈ fields, ∃ value, field.2.fetch doc field.1 = .ok value := by
  induction fields with
  | nil => simp [selectedEntries]
  | cons field rest ih =>
    rw [List.forall_mem_cons, ← ih]
    constructor
    · rintro ⟨selected, h⟩
      obtain ⟨value, others, hvalue, hothers, -⟩ := selectedEntries_cons_eq_ok.mp h
      exact ⟨⟨value, hvalue⟩, others, hothers⟩
    · rintro ⟨⟨value, hvalue⟩, others, hothers⟩
      exact ⟨_, selectedEntries_cons_eq_ok.mpr ⟨value, others, hvalue, hothers, rfl⟩⟩

/-! ## The two kinds of projected documents -/

theorem Entries.isSome_get?_iff {name : String} {entries : Entries} :
    (get? name entries).isSome = true ↔ name ∈ keys entries := by
  constructor
  · intro h
    by_contra hnot
    rw [get?_eq_none hnot] at h
    cases h
  · intro h
    induction entries with
    | nil => cases h
    | cons entry rest ih =>
      rw [get?]
      split_ifs with hkey
      · rfl
      · exact ih ((List.mem_cons.mp h).resolve_left (Ne.symm hkey))

/-- The names of what is inserted one after the other. -/
theorem Entries.mem_keys_ofList {name : String} {pairs : List (String × Json)} :
    name ∈ keys (ofList pairs) ↔ ∃ value, (name, value) ∈ pairs := by
  obtain ⟨-, hmem, hkeys⟩ := ofList_spec pairs
  constructor
  · intro h
    obtain ⟨entry, hentry, rfl⟩ := List.mem_map.mp h
    exact ⟨entry.2, hmem entry hentry⟩
  · rintro ⟨value, h⟩
    exact hkeys name (List.mem_map_of_mem h)

section

variable {doc result : Json} {fields : List (String × Projection)}

theorem exists_project_of_selects (h : selects fields = true) :
    (∃ result, project fields doc = .ok result) ↔
      ∀ field ∈ fields, ∃ value, field.2.fetch doc field.1 = .ok value := by
  unfold project
  rw [← exists_selectedEntries_iff, if_pos h]
  constructor
  · rintro ⟨result, hresult⟩
    obtain ⟨selected, hselected, -⟩ := bind_eq_ok.mp hresult
    exact ⟨selected, hselected⟩
  · rintro ⟨selected, hselected⟩
    rw [hselected]
    exact ⟨_, rfl⟩

/-- A projection that selects has the selected fields, and `_id` unless it is dropped. -/
theorem isSome_get?_of_selects (h : selects fields = true)
    (hresult : project fields doc = .ok result) (name : String) :
    (result.get? name).isSome = true ↔
      (name = "_id" ∧ dropsId fields = false ∧ (doc.get? "_id").isSome = true) ∨
        ∃ p value, (name, p) ∈ fields ∧ p.fetch doc name = .ok (some value) := by
  unfold project at hresult
  rw [if_pos h] at hresult
  obtain ⟨selected, hselected, hpure⟩ := bind_eq_ok.mp hresult
  rw [← pure_eq_ok.mp hpure, Json.get?, Json.object?, Option.bind_some, Entries.isSome_get?_iff,
    Entries.mem_keys_ofList]
  simp only [List.mem_append, exists_or, mem_selectedEntries_iff hselected]
  refine or_congr ?_ exists_comm
  cases hdrops : dropsId fields with
  | true => simp
  | false =>
    cases hid : doc.get? "_id" with
    | none => simp
    | some id => simp [Prod.ext_iff]

/-- A projection that does not select has what it does not list. -/
theorem get?_of_not_selects {entries : Entries} (hnodup : (Entries.keys entries).Nodup)
    (h : selects fields = false) (hresult : project fields (.object entries) = .ok result)
    (name : String) :
    result.get? name = if name ∈ fields.map Prod.fst then none else Entries.get? name entries := by
  unfold project at hresult
  rw [h, if_neg Bool.false_ne_true, Except.ok.injEq] at hresult
  subst hresult
  rw [Json.get?, Json.object?, Option.bind_some]
  clear h
  induction fields generalizing entries with
  | nil => rfl
  | cons field rest ih =>
    rw [List.foldl_cons, ih (Entries.nodup_swapRemove hnodup field.1), List.map_cons]
    by_cases hname : name = field.1
    · subst hname
      rw [Entries.get?_swapRemove_self hnodup, ite_self, if_pos List.mem_cons_self]
    · rw [Entries.get?_swapRemove_of_ne hnodup hname]
      simp only [List.mem_cons, hname, false_or]

end

/-! ## The rule for `_id` -/

/-- `_id` is gone where it is dropped, and else there if the document has one or one is computed. -/
structure HonoursId (spec doc result : Json) : Prop where
  dropped : Maps spec "_id" .drop → result.get? "_id" = none
  kept : ¬Maps spec "_id" .drop → ((result.get? "_id").isSome = true ↔
    (doc.get? "_id").isSome = true ∨ ComputesIn spec doc "_id")

/-- Every other name is kept or computed, or stood in the document and is not listed. -/
structure HonoursNames (spec doc result : Json) : Prop where
  selected : IsInclusion spec → ∀ name, name ≠ "_id" → (result.get? name).isSome = true →
    Maps spec name .keep ∨ ∃ e, Maps spec name (.compute e)
  unlisted : ¬IsInclusion spec → ∀ name, name ≠ "_id" → (result.get? name).isSome = true →
    (doc.get? name).isSome = true ∧ spec.get? name = none

section

variable {spec doc result : Json} {fields : List (String × Projection)}
  (hmem : ∀ {name p}, (name, p) ∈ fields ↔ Maps spec name p)

include hmem

theorem selects_iff : selects fields = true ↔ IsInclusion spec := by
  unfold selects
  rw [List.any_eq_true]
  constructor
  · rintro ⟨⟨name, p⟩, hp, hselects⟩
    cases p with
    | compute e => exact Or.inl ⟨name, e, hmem.mp hp⟩
    | keep => exact Or.inr ⟨name, by simpa using hselects, hmem.mp hp⟩
    | drop => cases hselects
  · rintro (⟨name, e, hp⟩ | ⟨name, hname, hp⟩)
    · exact ⟨(name, .compute e), hmem.mpr hp, rfl⟩
    · exact ⟨(name, .keep), hmem.mpr hp, by simpa using hname⟩

theorem dropsId_iff : dropsId fields = true ↔ Maps spec "_id" .drop := by
  unfold dropsId
  rw [List.any_eq_true]
  constructor
  · rintro ⟨⟨name, p⟩, hp, hdrops⟩
    cases p with
    | drop =>
      have hname : name = "_id" := by simpa using hdrops
      exact hname ▸ hmem.mp hp
    | keep => cases hdrops
    | compute e => cases hdrops
  · intro hp
    exact ⟨("_id", .drop), hmem.mpr hp, by simp⟩

/-- A selection honours `_id`: a kept one is the document's own. -/
theorem honoursId_of_selects (h : selects fields = true)
    (hresult : project fields doc = .ok result) : HonoursId spec doc result := by
  have hsome := isSome_get?_of_selects h hresult
  constructor
  · intro hdrop
    rw [Option.eq_none_iff_forall_ne_some]
    intro value hvalue
    rcases (hsome "_id").mp (by rw [hvalue]; rfl) with ⟨-, hdrops, -⟩ | ⟨p, v, hp, hfetch⟩
    · rw [(dropsId_iff hmem).mpr hdrop] at hdrops
      cases hdrops
    · cases (hmem.mp hp).unique hdrop
      cases hfetch
  · intro hdrop
    rw [hsome]
    constructor
    · rintro (⟨-, -, hid⟩ | ⟨p, v, hp, hfetch⟩)
      · exact Or.inl hid
      · cases p with
        | keep =>
          have hid : doc.resolve? "_id" = some v := Except.ok.inj hfetch
          rw [resolve?_of_noPoint hasNoPoint_id] at hid
          exact Or.inl (by rw [hid]; rfl)
        | compute e => exact Or.inr ⟨e, v, hmem.mp hp, hfetch⟩
        | drop => cases hfetch
    · rintro (hid | ⟨e, v, hp, hfetch⟩)
      · refine Or.inl ⟨rfl, ?_, hid⟩
        rw [← Bool.not_eq_true, dropsId_iff hmem]
        exact hdrop
      · exact Or.inr ⟨.compute e, v, hmem.mpr hp, hfetch⟩

theorem honoursNames_of_selects (h : selects fields = true)
    (hresult : project fields doc = .ok result) : HonoursNames spec doc result := by
  refine ⟨fun _ name hname hsome => ?_, fun hnot => absurd ((selects_iff hmem).mp h) hnot⟩
  rcases (isSome_get?_of_selects h hresult name).mp hsome with ⟨hid, -⟩ | ⟨p, v, hp, hfetch⟩
  · exact absurd hid hname
  · cases p with
    | keep => exact Or.inl (hmem.mp hp)
    | compute e => exact Or.inr ⟨e, hmem.mp hp⟩
    | drop => cases hfetch

/-- A selection runs where its expressions do. -/
theorem exists_project_iff_of_selects (h : selects fields = true) :
    (∃ result, project fields doc = .ok result) ↔
      ∀ name e, Maps spec name (.compute e) → ∃ value, e.eval? doc = .ok value := by
  rw [exists_project_of_selects h]
  constructor
  · intro hall name e hmaps
    exact hall (name, .compute e) (hmem.mpr hmaps)
  · rintro hall ⟨name, p⟩ hp
    cases p with
    | compute e => exact hall name e (hmem.mp hp)
    | keep => exact ⟨_, rfl⟩
    | drop => exact ⟨_, rfl⟩

/-- A removal has no `_id` where one is listed, whether kept or dropped. -/
theorem honoursId_iff_of_not_selects (h : selects fields = false)
    (hget : result.get? "_id" = if "_id" ∈ fields.map Prod.fst then none else doc.get? "_id") :
    HonoursId spec doc result ↔ ¬(Maps spec "_id" .keep ∧ (doc.get? "_id").isSome = true) := by
  have hcompute : ∀ e, ¬Maps spec "_id" (.compute e) := by
    intro e hmaps
    have hselects := (selects_iff hmem).mpr (Or.inl ⟨"_id", e, hmaps⟩)
    rw [h] at hselects
    cases hselects
  have hcomputes : ¬ComputesIn spec doc "_id" := fun ⟨e, _, hmaps, _⟩ => hcompute e hmaps
  have hlisted : ∀ {p}, Maps spec "_id" p → result.get? "_id" = none := by
    intro p hmaps
    rw [hget, if_pos (List.mem_map_of_mem (hmem.mpr hmaps))]
  constructor
  · rintro ⟨-, hkept⟩ ⟨hkeep, hid⟩
    have hsome := (hkept fun hdrop => by cases hkeep.unique hdrop).mpr (Or.inl hid)
    rw [hlisted hkeep] at hsome
    cases hsome
  · intro hnot
    refine ⟨hlisted, fun hdrop => ?_⟩
    rw [or_iff_left hcomputes]
    by_cases hkeep : Maps spec "_id" .keep
    · rw [hlisted hkeep]
      have hid : ¬(doc.get? "_id").isSome = true := fun hid => hnot ⟨hkeep, hid⟩
      simp [hid]
    · have hunlisted : "_id" ∉ fields.map Prod.fst := by
        intro hin
        obtain ⟨⟨name, p⟩, hp, rfl⟩ := List.mem_map.mp hin
        cases p with
        | keep => exact hkeep (hmem.mp hp)
        | drop => exact hdrop (hmem.mp hp)
        | compute e => exact hcompute e (hmem.mp hp)
      rw [hget, if_neg hunlisted]

end

theorem run_project_eq_ok {fields : List (String × Projection)} {doc result : Json} :
    (Stage.project fields).run [doc] = .ok [result] ↔ project fields doc = .ok result := by
  rw [Stage.run, mapError_eq_ok, mapM_eq_ok, List.forall₂_cons]
  simp

/-- `_id` is treated by the rule, and so are all other names, except where the specification keeps
    `_id` and selects nothing: then it is removed. A projection fails only where an expression of
    its own does. -/
theorem projected_honoursId_iff {spec doc : Json} {stage : Stage} (hspec : HasNames spec)
    (hdoc : HasNames doc) (hread : Stage.ofJson (.single "$project" spec) = .ok stage) :
    ((∃ result, stage.run [doc] = .ok [result]) ↔
      ∀ name e, Maps spec name (.compute e) → ∃ value, e.eval? doc = .ok value) ∧
    ∀ result, stage.run [doc] = .ok [result] →
      HonoursNames spec doc result ∧
      (HonoursId spec doc result ↔
        ¬(Maps spec "_id" .keep ∧ ¬IsInclusion spec ∧ (doc.get? "_id").isSome = true)) := by
  obtain ⟨fields, hfields, rfl⟩ := Stage.ofJson_project hread
  obtain ⟨listed, rfl, hlisted⟩ := hspec
  obtain ⟨entries, rfl, hentries⟩ := hdoc
  have hreads := forall₂_readsAs hfields
  have hmem : ∀ {name p}, (name, p) ∈ fields ↔ Maps (.object listed) name p :=
    mem_fields_iff hlisted hreads
  simp only [run_project_eq_ok]
  cases h : selects fields with
  | true =>
    have hinclusion := (selects_iff hmem).mp h
    refine ⟨exists_project_iff_of_selects hmem h, fun result hresult => ?_⟩
    refine ⟨honoursNames_of_selects hmem h hresult, ?_⟩
    exact iff_of_true (honoursId_of_selects hmem h hresult) fun hnot => hnot.2.1 hinclusion
  | false =>
    have hinclusion : ¬IsInclusion (.object listed) := by
      rw [← selects_iff hmem, h]
      exact Bool.false_ne_true
    refine ⟨iff_of_true ?_ ?_, fun result hresult => ?_⟩
    · unfold project
      rw [h]
      exact ⟨_, rfl⟩
    · intro name e hmaps
      exact absurd (Or.inl ⟨name, e, hmaps⟩) hinclusion
    · have hget := get?_of_not_selects hentries h hresult
      refine ⟨⟨fun hyes => absurd hyes hinclusion, fun _ name _ hsome => ?_⟩, ?_⟩
      · rw [hget] at hsome
        split_ifs at hsome with hin
        · cases hsome
        · rw [names_of_readsAs hreads] at hin
          exact ⟨hsome, Entries.get?_eq_none hin⟩
      · rw [honoursId_iff_of_not_selects hmem h (hget "_id")]
        simp [hinclusion]

/-- A specification that renames a field and keeps `_id`. -/
def renamesAmount : Json :=
  .object [("total", Pipeline.reference "amount"), ("_id", .bool true)]

/-- A document with an `_id`. -/
def billed : Json := .object [("_id", Pipeline.constant 1), ("amount", Pipeline.constant 10)]

theorem projected_renamesAmount :
    HasNames renamesAmount ∧ HasNames billed ∧
      ∃ stage, Stage.ofJson (.single "$project" renamesAmount) = .ok stage ∧
        ∃ result, stage.run [billed] = .ok [result] ∧ HonoursNames renamesAmount billed result ∧
          HonoursId renamesAmount billed result := by
  have hspec : HasNames renamesAmount := ⟨_, rfl, by decide⟩
  have hdoc : HasNames billed := ⟨_, rfl, by decide⟩
  have htotal : Projection.ofJson (Pipeline.reference "amount") =
      .ok (.compute (.field "amount")) :=
    map_eq_ok.mpr ⟨_, Expression.ofJson_reference (by decide), rfl⟩
  have hread : Stage.ofJson (.single "$project" renamesAmount) =
      .ok (.project [("total", .compute (.field "amount")), ("_id", .keep)]) := by
    simp only [Json.single, renamesAmount, Stage.ofJson, Stage.ofEntry, Stage.readEntries,
      List.mapM_cons, List.mapM_nil, htotal]
    rfl
  have hinclusion : IsInclusion renamesAmount := Or.inl ⟨"total", .field "amount", _, rfl, htotal⟩
  obtain ⟨-, hall⟩ := projected_honoursId_iff hspec hdoc hread
  have hrun : (Stage.project [("total", .compute (.field "amount")), ("_id", .keep)]).run
      [billed] = .ok [.object [("_id", Pipeline.constant 1), ("total", Pipeline.constant 10)]] := by
    decide
  obtain ⟨hnames, hid⟩ := hall _ hrun
  exact ⟨hspec, hdoc, _, hread, _, hrun, hnames, hid.mpr fun h => h.2.1 hinclusion⟩

/-- A specification that keeps `_id` and nothing else removes it. -/
theorem projected_of_id_alone :
    ∃ stage, Stage.ofJson (.single "$project" (.single "_id" (.bool true))) = .ok stage ∧
      stage.run [billed] = .ok [.single "amount" (Pipeline.constant 10)] ∧
      ¬HonoursId (.single "_id" (.bool true)) billed (.single "amount" (Pipeline.constant 10)) := by
  refine ⟨.project [("_id", .keep)], rfl, by decide, fun h => ?_⟩
  have hkeep : Maps (.single "_id" (.bool true)) "_id" .keep := ⟨_, rfl, rfl⟩
  have hsome := (h.kept fun hdrop => by cases hkeep.unique hdrop).mpr (Or.inl (by decide))
  exact absurd hsome (by decide)

end GridQuery
