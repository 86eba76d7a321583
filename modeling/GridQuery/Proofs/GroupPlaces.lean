import Mathlib
import GridQuery.Proofs.GroupTable

/-!
# Grouping shares out the documents

Grouping can be told by the places of the documents alone. The places are shared out by the key texts
that stand there: each place comes into one group, where it keeps its order, and the groups come in
the order of their first places. The document of a group is then made of what stands at its places.

Results:
* `sharesPlaces_placesOf`: the places of the distinct texts share out all places.
* `groupOf_eq_places`: the documents of a text are those at its places.
* `groupDocuments_sharesPlaces`: what grouping gives, by places.
-/

namespace GridQuery

/-! ## Places -/

/-- The places at which a text stands. -/
def placesOf (texts : List String) (text : String) : List Nat :=
  (List.range texts.length).filter fun i => texts[i]? = some text

/-- Groups of places, by the texts that stand there. -/
structure SharesPlaces (texts : List String) (groups : List (List Nat)) : Prop where
  /-- Each place is in one group, and there once. -/
  perm : groups.flatten.Perm (List.range texts.length)
  /-- No group is empty, and each has its places in order. -/
  ordered : ∀ group ∈ groups, group ≠ [] ∧ group.Pairwise (· < ·)
  /-- The groups come in the order of their first places. -/
  firsts : (groups.filterMap List.head?).Pairwise (· < ·)
  /-- Two places are in one group exactly if one text stands there. -/
  same : ∀ group ∈ groups, ∀ i ∈ group, ∀ j, j ∈ group ↔ texts[j]? = texts[i]?

theorem mem_placesOf {texts : List String} {text : String} {i : Nat} :
    i ∈ placesOf texts text ↔ texts[i]? = some text := by
  rw [placesOf, List.mem_filter, List.mem_range, decide_eq_true_eq]
  exact and_iff_right_of_imp fun h => (List.getElem?_eq_some_iff.mp h).1

theorem placesOf_cons (first : String) (texts : List String) (text : String) :
    placesOf (first :: texts) text =
      (if first = text then [0] else []) ++ (placesOf texts text).map (· + 1) := by
  rw [placesOf, List.length_cons, List.range_succ_eq_map, List.filter_cons, List.filter_map,
    placesOf]
  simp only [List.getElem?_cons_zero, Option.some.injEq, decide_eq_true_eq]
  split_ifs <;> rfl

theorem placesOf_pairwise (texts : List String) (text : String) :
    (placesOf texts text).Pairwise (· < ·) :=
  List.pairwise_lt_range.filter _

/-- The first place of a text. -/
theorem head?_placesOf {texts : List String} {text : String} (h : text ∈ texts) :
    (placesOf texts text).head? = some (texts.idxOf text) := by
  induction texts with
  | nil => cases h
  | cons first texts ih =>
    rw [placesOf_cons]
    by_cases heq : first = text
    · rw [if_pos heq, heq, List.idxOf_cons_self]
      rfl
    · have hmem : text ∈ texts := (List.mem_cons.mp h).resolve_left fun h => heq h.symm
      rw [if_neg heq, List.nil_append, List.head?_map, ih hmem, List.idxOf_cons_ne _ heq]
      rfl

/-- The distinct texts come in the order of their first places. -/
theorem pairwise_idxOf_firstAppearances (texts : List String) :
    (firstAppearances texts).Pairwise fun s t => texts.idxOf s < texts.idxOf t := by
  induction texts with
  | nil => exact .nil
  | cons first texts ih =>
    rw [firstAppearances, List.pairwise_cons]
    have hlater : ∀ text ∈ (firstAppearances texts).filter (· ≠ first),
        (first :: texts).idxOf text = texts.idxOf text + 1 := fun text htext =>
      List.idxOf_cons_ne _ fun heq => of_decide_eq_true (List.mem_filter.mp htext).2 heq.symm
    constructor
    · intro text htext
      rw [List.idxOf_cons_self, hlater text htext]
      exact Nat.succ_pos _
    · refine (ih.filter _).imp_of_mem fun hs ht hlt => ?_
      rw [hlater _ hs, hlater _ ht]
      exact Nat.succ_lt_succ hlt

/-- The places of the distinct texts share out all places. -/
theorem sharesPlaces_placesOf (texts : List String) :
    SharesPlaces texts ((firstAppearances texts).map (placesOf texts)) where
  perm := by
    have hshare := perm_flatMap_filter (fun i => texts[i]?)
      ((nodup_firstAppearances texts).map (Option.some_injective _)) (List.range texts.length)
    rw [List.flatMap_map] at hshare
    refine hshare.trans (.of_eq (List.filter_eq_self.mpr fun i hi => ?_))
    have hi := List.mem_range.mp hi
    have htext : texts[i]? ∈ (firstAppearances texts).map some := by
      rw [List.getElem?_eq_getElem hi]
      exact List.mem_map_of_mem (mem_firstAppearances.mpr (List.getElem_mem hi))
    simpa only [decide_eq_true_eq] using htext
  ordered := by
    intro group hgroup
    obtain ⟨text, htext, rfl⟩ := List.mem_map.mp hgroup
    have hhead := head?_placesOf (mem_firstAppearances.mp htext)
    exact ⟨fun h => by simp [h] at hhead, placesOf_pairwise texts text⟩
  firsts := by
    have hheads : ((firstAppearances texts).map (placesOf texts)).filterMap List.head? =
        (firstAppearances texts).map texts.idxOf := by
      rw [List.filterMap_map, ← List.filterMap_eq_map]
      exact List.filterMap_congr fun text htext => head?_placesOf (mem_firstAppearances.mp htext)
    rw [hheads, List.pairwise_map]
    exact pairwise_idxOf_firstAppearances texts
  same := by
    intro group hgroup i hi j
    obtain ⟨text, -, rfl⟩ := List.mem_map.mp hgroup
    rw [mem_placesOf] at hi ⊢
    rw [hi]

/-! ## What stands at the places -/

/-- What stands at places of a list. -/
def atPlaces {α : Type} (l : List α) (places : List Nat) : List α := places.filterMap (l[·]?)

theorem filter_eq_atPlaces {α : Type} (l : List α) (f : α → String) (text : String) :
    l.filter (fun x => f x = text) = atPlaces l (placesOf (l.map f) text) := by
  induction l with
  | nil => rfl
  | cons x l ih =>
    rw [List.map_cons, placesOf_cons, atPlaces, List.filterMap_append, List.filterMap_map,
      List.filter_cons, ih]
    by_cases h : f x = text
    · simp [h, atPlaces]
    · simp [h, atPlaces]

theorem map_atPlaces {α β : Type} (f : α → β) (l : List α) (places : List Nat) :
    (atPlaces l places).map f = atPlaces (l.map f) places := by
  simp only [atPlaces, List.map_filterMap, List.getElem?_map]

theorem head?_atPlaces {α : Type} {l : List α} {places : List Nat} {x : α}
    (h : places.head?.bind (l[·]?) = some x) : (atPlaces l places).head? = some x := by
  cases places with
  | nil => cases h
  | cons i places =>
    have hfirst : l[i]? = some x := h
    simp [atPlaces, hfirst]

/-- What is computed item by item is computed at places. -/
theorem mapM_atPlaces {ε α β : Type} {f : α → Except ε β} {l : List α} {values : List β}
    (h : l.mapM f = .ok values) (places : List Nat) :
    (atPlaces l places).mapM f = .ok (atPlaces values places) := by
  have hforall := mapM_eq_ok.mp h
  have hplace : ∀ i : Nat, (l[i]? = none ∧ values[i]? = none) ∨
      ∃ x y, l[i]? = some x ∧ values[i]? = some y ∧ f x = .ok y := by
    intro i
    by_cases hi : i < l.length
    · have hi' : i < values.length := hforall.length_eq ▸ hi
      exact .inr ⟨l[i], values[i], List.getElem?_eq_getElem hi, List.getElem?_eq_getElem hi',
        hforall.get hi hi'⟩
    · have hi' : ¬i < values.length := hforall.length_eq ▸ hi
      exact .inl ⟨List.getElem?_eq_none (not_lt.mp hi), List.getElem?_eq_none (not_lt.mp hi')⟩
  induction places with
  | nil => rfl
  | cons i places ih =>
    rcases hplace i with ⟨hl, hvalues⟩ | ⟨x, y, hl, hvalues, hxy⟩
    · simpa only [atPlaces, List.filterMap_cons, hl, hvalues] using ih
    · simp only [atPlaces, List.filterMap_cons, hl, hvalues] at ih ⊢
      exact mapM_cons_eq_ok.mpr ⟨y, _, hxy, ih, rfl⟩

/-- The documents of a text are those at its places, and their key is that of the first place. -/
theorem groupOf_eq_places {keys docs : List Json} (h : keys.length = docs.length) (text : String) :
    groupOf (keys.zip docs) text =
      ((atPlaces keys (placesOf (keys.map Json.keyText) text)).head?.getD .null,
        atPlaces docs (placesOf (keys.map Json.keyText) text)) := by
  simp only [groupOf, filter_eq_atPlaces (keys.zip docs) (·.1.keyText), keyTexts_zip h,
    ← List.head?_map, map_atPlaces, List.map_fst_zip h.le, List.map_snd_zip h.ge]

/-! ## The documents of the groups -/

/-- The document of a group of places: the key that stands at the first of them under `_id`, and
    what each accumulator has gathered from the documents at the places, in the order of the
    accumulators. -/
def IsMadeOf (accumulators : List (String × Accumulator)) (keys docs : List Json)
    (places : List Nat) (doc : Json) : Prop :=
  ∃ key fields, places.head?.bind (keys[·]?) = some key ∧
    List.Forall₂ (fun (name, a) field => field.1 = name ∧
      (a.gather (atPlaces docs places)).map Gathered.finish = .ok field.2) accumulators fields ∧
    doc = .object (Entries.ofList (("_id", key) :: fields)) ∧
    (("_id" :: accumulators.map Prod.fst).Nodup → doc = .object (("_id", key) :: fields))

section Documents

variable {key : Expression} {accumulators : List (String × Accumulator)} {docs : List Json}

theorem forall₂_of_accumulate {members : List Json} {fields : List (String × Json)}
    (h : accumulate accumulators members = .ok fields) :
    List.Forall₂ (fun (name, a) field => field.1 = name ∧
      (a.gather members).map Gathered.finish = .ok field.2) accumulators fields := by
  refine (mapM_eq_ok.mp h).imp ?_
  rintro ⟨name, a⟩ field hfield
  obtain ⟨value, hvalue, rfl⟩ := map_eq_ok.mp hfield
  exact ⟨rfl, by rw [← Accumulator.over_eq_gather, hvalue]⟩

/-- The document of a text is that of its places. -/
theorem isMadeOf_of_text {keys : List Json} (hlength : keys.length = docs.length)
    {text : String} (htext : text ∈ keys.map Json.keyText) {doc : Json}
    (h : groupDocument accumulators (keys.zip docs) text = .ok doc) :
    IsMadeOf accumulators keys docs (placesOf (keys.map Json.keyText) text) doc := by
  have hfirst : (keys.map Json.keyText).idxOf text < keys.length := by
    simpa using List.idxOf_lt_length_of_mem htext
  have hkey : (placesOf (keys.map Json.keyText) text).head?.bind (keys[·]?) =
      some keys[(keys.map Json.keyText).idxOf text] := by
    rw [head?_placesOf htext]
    exact List.getElem?_eq_getElem hfirst
  rw [groupDocument, groupOf_eq_places hlength, head?_atPlaces hkey] at h
  obtain ⟨fields, hfields, hdoc⟩ := bind_eq_ok.mp h
  obtain rfl := pure_eq_ok.mp hdoc
  refine ⟨_, fields, hkey, forall₂_of_accumulate hfields, rfl, fun hnodup => ?_⟩
  rw [← keys_of_accumulated hfields] at hnodup
  exact congrArg Json.object (Entries.ofList_of_nodup hnodup)

/-- A list that is pushed has the values at the places of the group. -/
theorem IsMadeOf.get?_push {keys : List Json} {places : List Nat} {doc : Json}
    (h : IsMadeOf accumulators keys docs places doc)
    (hnodup : ("_id" :: accumulators.map Prod.fst).Nodup) {name : String} {e : Expression}
    (hpush : (name, ⟨.push, e⟩) ∈ accumulators) {values : List Json}
    (hvalues : docs.mapM (fun doc => e.eval doc) = .ok values) :
    doc.get? name = some (.array (atPlaces values places)) := by
  obtain ⟨key, fields, -, hfields, rfl, -⟩ := h
  obtain ⟨⟨name', value⟩, hmem, hname, hvalue⟩ := exists_of_mem_right hfields.flip hpush
  obtain rfl : name' = name := hname
  rw [← Accumulator.over_eq_gather] at hvalue
  obtain ⟨rows, hrows, rfl⟩ := rows_of_push hvalue
  obtain rfl := Except.ok.inj ((mapM_atPlaces hvalues places).symm.trans hrows)
  have hkeys : Entries.keys fields = accumulators.map Prod.fst :=
    map_eq_of_forall₂ (hfields.imp fun _ _ hfield => hfield.1)
  rw [← hkeys] at hnodup
  exact Entries.get?_ofList_of_mem hnodup (List.mem_cons_of_mem _ hmem)

/-- Grouping answers exactly if every key and every accumulated value can be computed. Then the
    places of the documents are shared out by the texts of their keys, with one document for each
    group, and a list that is pushed has the values of its group. One pass over the documents, in
    which each is added to its group, comes to the same. -/
theorem groupDocuments_sharesPlaces (key : Expression) (accumulators : List (String × Accumulator))
    (docs : List Json) :
    groupInOnePass key accumulators docs = groupDocuments key accumulators docs ∧
      ((∃ out, groupDocuments key accumulators docs = .ok out) ↔
        ∀ doc ∈ docs, Evaluates key accumulators doc) ∧
      ∀ out, groupDocuments key accumulators docs = .ok out →
        ∃ keys groups, docs.mapM (fun doc => key.eval doc) = .ok keys ∧
          SharesPlaces (keys.map Json.keyText) groups ∧
          List.Forall₂ (IsMadeOf accumulators keys docs) groups out ∧
          (("_id" :: accumulators.map Prod.fst).Nodup →
            ∀ name e, (name, ⟨.push, e⟩) ∈ accumulators →
              ∃ values, docs.mapM (fun doc => e.eval doc) = .ok values ∧
                List.Forall₂ (fun places doc =>
                  doc.get? name = some (.array (atPlaces values places))) groups out) := by
  refine ⟨groupInOnePass_eq key accumulators docs, exists_groupDocuments_iff, fun out hout => ?_⟩
  obtain ⟨keys, hkeys, hgroups⟩ := groupDocuments_iff.mp hout
  have hlength : keys.length = docs.length := (mapM_eq_ok.mp hkeys).length_eq.symm
  have hdocuments : List.Forall₂ (IsMadeOf accumulators keys docs)
      ((firstAppearances (keys.map Json.keyText)).map (placesOf (keys.map Json.keyText))) out :=
    List.forall₂_map_left_iff.mpr <| forall₂_imp_of_mem (mapM_eq_ok.mp hgroups)
      fun text htext doc hdoc =>
        isMadeOf_of_text hlength (mem_firstAppearances.mp htext) hdoc
  refine ⟨keys, _, hkeys, sharesPlaces_placesOf _, hdocuments, fun hnodup name e hpush => ?_⟩
  obtain ⟨values, hvalues⟩ := exists_mapM_eq_ok fun doc hdoc =>
    (exists_groupDocuments_iff.mp ⟨out, hout⟩ doc hdoc).2 _ hpush
  exact ⟨values, hvalues, hdocuments.imp fun _ _ h => h.get?_push hnodup hpush hvalues⟩

end Documents

end GridQuery
