import Mathlib
import GridQuery.Proofs.Computed

/-!
# Calendar parts that a filter looks at

The parts are computed one after the other, each from a field of the document into a field of its
own. None of them disturbs another one, as long as their own fields differ.

Results:
* `Filter.hasFieldNames_of_ofJson`: the leaves of a filter that was read are field names.
* `computes_parts`: the stages of the parts set each own field to its part, and set nothing else.
-/

namespace GridQuery

open Collection (runStages runStages_append runStages_append_eq_ok)
open Pipeline (computePart writtenBy)

/-! ## Names -/

theorem splitLastPoint_eq_some {text before after : List Char}
    (h : splitLastPoint text = some (before, after)) : text = before ++ '.' :: after := by
  induction text generalizing before with
  | nil => cases h
  | cons c rest ih =>
    rw [splitLastPoint] at h
    cases hrest : splitLastPoint rest with
    | some found =>
      obtain ⟨first, last⟩ := found
      rw [hrest] at h
      cases h
      rw [ih hrest, List.cons_append]
    | none =>
      rw [hrest] at h
      split_ifs at h with hc
      cases h
      rw [hc, List.nil_append]

theorem splitLastPoint_of_noPoint {text : List Char} (h : '.' ∉ text) :
    splitLastPoint text = none := by
  cases hsplit : splitLastPoint text with
  | none => rfl
  | some found =>
    obtain ⟨before, after⟩ := found
    rw [splitLastPoint_eq_some hsplit] at h
    exact absurd (List.mem_append_right _ List.mem_cons_self) h

/-- A point behind which there is no other one is the last point. -/
theorem splitLastPoint_append {after : List Char} (h : '.' ∉ after) (before : List Char) :
    splitLastPoint (before ++ '.' :: after) = some (before, after) := by
  induction before with
  | nil => rw [List.nil_append, splitLastPoint, splitLastPoint_of_noPoint h, if_pos rfl]
  | cons c rest ih => rw [List.cons_append, splitLastPoint, ih]

theorem toList_underscored (name : String) :
    (underscored name).toList = name.toList.map fun c => if c = '.' then '_' else c :=
  String.toList_map

theorem hasNoPoint_underscored (name : String) : HasNoPoint (underscored name) := by
  rw [HasNoPoint, toList_underscored, List.mem_map]
  rintro ⟨c, -, hc⟩
  split_ifs at hc with hpoint
  · cases hc
  · exact hpoint hc

namespace PartField

/-- A part field is its date field, a point and the name of a part. -/
theorem ofName?_eq_some {name : String} {f : PartField} (h : ofName? name = some f) :
    f.field = name ∧ f.base ≠ "" ∧ name.toList = f.base.toList ++ '.' :: f.part.name.toList := by
  simp only [ofName?, Option.bind_eq_bind, Option.bind_eq_some_iff] at h
  obtain ⟨⟨base, suffix⟩, hsplit, h⟩ := h
  split_ifs at h with hempty
  · cases h
  obtain ⟨part, hpart, h⟩ := Option.bind_eq_some_iff.mp h
  cases h
  refine ⟨rfl, ?_, ?_⟩
  · intro hbase
    rw [String.ofList_eq_empty_iff] at hbase
    exact hempty (List.isEmpty_iff.mpr hbase)
  · simp only [CalendarPart.ofSuffix?, Option.filter_eq_some_iff, CalendarPart.ofName?] at hpart
    have hfound := List.find?_some hpart.1
    have hname := of_decide_eq_true hfound
    rw [splitLastPoint_eq_some hsplit, hname, String.toList_ofList, String.toList_ofList]

/-- The name of a part of a date behind the name of its field. -/
theorem ofName?_append {base : String} (hbase : base ≠ "") {part : CalendarPart}
    (hpart : part.isDatePart = true) :
    ofName? (base ++ "." ++ part.name) = some ⟨base ++ "." ++ part.name, base, part⟩ := by
  have hlist : (base ++ "." ++ part.name).toList = base.toList ++ '.' :: part.name.toList := by
    rw [String.toList_append, String.toList_append, List.append_assoc]
    rfl
  have hpoint : '.' ∉ part.name.toList := by cases part <;> decide
  have hsuffix : CalendarPart.ofSuffix? part.name = some part := by
    rw [CalendarPart.ofSuffix?, CalendarPart.ofName?_name, Option.filter_some, if_pos hpart]
  rw [ofName?, hlist, splitLastPoint_append hpoint]
  simp [hbase, hsuffix]

theorem hasNoPoint_synthetic (f : PartField) : HasNoPoint f.synthetic := by
  rw [HasNoPoint, synthetic, String.toList_append, List.mem_append, not_or]
  exact ⟨by decide, hasNoPoint_underscored f.field⟩

theorem hasNoPoint_scratch (f : PartField) : HasNoPoint f.scratch := by
  rw [HasNoPoint, scratch, String.toList_append, String.toList_append, List.mem_append,
    List.mem_append, not_or, not_or]
  exact ⟨⟨by decide, hasNoPoint_underscored f.base⟩, by decide⟩

theorem isReserved_synthetic (f : PartField) : isReserved f.synthetic = true := by
  rw [isReserved_iff, synthetic, String.toList_append]
  exact ⟨(underscored f.field).toList, rfl⟩

theorem isReserved_scratch (f : PartField) : isReserved f.scratch = true := by
  rw [isReserved_iff, scratch, String.toList_append, String.toList_append, List.append_assoc]
  exact ⟨(underscored f.base).toList ++ "_mp2".toList, rfl⟩

/-- An intermediate field ends in a digit, and no part does. -/
theorem synthetic_ne_scratch {name : String} {f : PartField} (h : ofName? name = some f)
    (g : PartField) : f.synthetic ≠ g.scratch := by
  intro heq
  obtain ⟨rfl, -, hname⟩ := ofName?_eq_some h
  have hlast : g.scratch.toList.getLast? = some '2' := by
    rw [scratch, String.toList_append, List.getLast?_append]
    rfl
  have hpart : f.synthetic.toList.getLast? =
      (f.part.name.toList.map fun c => if c = '.' then '_' else c).getLast? := by
    rw [synthetic, String.toList_append, toList_underscored, hname, List.map_append,
      List.map_cons, List.getLast?_append, List.getLast?_append]
    cases f.part <;> rfl
  rw [heq, hlast] at hpart
  revert hpart
  cases f.part <;> decide

theorem startsWithDollar_base {name : String} {f : PartField} (h : ofName? name = some f)
    (hname : startsWithDollar name = false) : startsWithDollar f.base = false := by
  obtain ⟨-, hempty, heq⟩ := ofName?_eq_some h
  have hbase : f.base.toList ≠ [] := by rwa [ne_eq, String.toList_eq_nil_iff]
  rw [startsWithDollar, heq] at hname
  rw [startsWithDollar]
  cases hlist : f.base.toList with
  | nil => exact absurd hlist hbase
  | cons c rest =>
    rw [hlist] at hname
    exact hname

theorem isReserved_base {name : String} {f : PartField} (h : ofName? name = some f)
    (hname : isReserved name = false) : isReserved f.base = false := by
  obtain ⟨-, -, heq⟩ := ofName?_eq_some h
  by_contra hbase
  rw [Bool.not_eq_false, isReserved_iff] at hbase
  have : isReserved name = true := by
    rw [isReserved_iff, heq]
    exact hbase.trans (List.prefix_append _ _)
  rw [this] at hname
  cases hname

end PartField

/-! ## The leaves of a filter -/

namespace Filter

theorem startsWithDollar_of_isFieldName {name : String} (h : isFieldName name = true) :
    startsWithDollar name = false := by
  unfold isFieldName at h
  rw [startsWithDollar]
  cases hlist : name.toList with
  | nil => rfl
  | cons c rest =>
    rw [hlist] at h
    by_contra hdollar
    rw [Bool.not_eq_false, List.isPrefixOf_iff_prefix] at hdollar
    obtain ⟨tail, htail⟩ := hdollar
    obtain ⟨rfl, -⟩ := List.cons.inj htail
    have hletter : (Unicode.isAlphanumeric '$' || decide ('$' = '_')) = true := h
    exact absurd hletter (by decide)

theorem mem_leavesOf {name : String} {operands : List Filter} :
    name ∈ leavesOf operands ↔ ∃ operand ∈ operands, name ∈ operand.leaves := by
  induction operands with
  | nil => simp [leavesOf]
  | cons operand rest ih => simp [leavesOf, ih]

/-- All leaves are field names. -/
def HasFieldNames (filter : Filter) : Prop := ∀ name ∈ filter.leaves, isFieldName name = true

theorem hasFieldNames_comparison {first : Json} {token : String} {value : Json} {filter : Filter}
    (h : comparison? first token value = some filter) : filter.HasFieldNames := by
  simp only [comparison?, Option.bind_eq_bind, Option.bind_eq_some_iff] at h
  obtain ⟨name, -, op, -, h⟩ := h
  split_ifs at h with hname
  cases h
  intro leaf hleaf
  rwa [List.mem_singleton.mp hleaf]

/-- The leaves of a filter that was read are field names. -/
theorem hasFieldNames_of_ofJson (expr : Json) :
    ∀ filter ∈ ofJson? expr, filter.HasFieldNames := by
  refine (ofJson?.mutual_induct
    (fun expr => ∀ filter ∈ ofJson? expr, filter.HasFieldNames)
    (fun items => ∀ filter ∈ ofItems? items, filter.HasFieldNames)
    (fun rest => ∀ filter ∈ operandsAfter rest, filter.HasFieldNames)
    ?name ?noName ?array ?noExpression ?wrapped ?negation ?noNegation ?odd ?chain ?noChain
    ?comparison ?tooLong ?noForm ?nil ?token ?operand).1 expr
  case name =>
    intro name hname filter h
    rw [ofJson?, if_pos hname, Option.mem_some] at h
    subst h
    intro leaf hleaf
    rwa [List.mem_singleton.mp hleaf]
  case array =>
    intro items ih filter h
    rw [ofJson?] at h
    exact ih filter h
  case wrapped =>
    intro operand ih filter h
    rw [ofItems?] at h
    exact ih filter h
  case negation =>
    intro operand ih filter h
    rw [ofItems?, if_pos rfl, Option.mem_def, Option.map_eq_some_iff] at h
    obtain ⟨inner, hinner, rfl⟩ := h
    exact ih inner hinner
  case chain =>
    intro first token second rest heven op htoken operands hjoined ih₁ ih₂ ih₃ filter h
    rw [ofItems?, if_neg heven, htoken] at h
    simp only at h
    rw [if_pos hjoined, Option.mem_some] at h
    subst h
    intro name hname
    obtain ⟨operand, hoperand, hmem⟩ := mem_leavesOf.mp hname
    simp only [List.mem_append, Option.mem_toList] at hoperand
    rcases hoperand with (hoperand | hoperand) | hoperand
    · exact ih₁ operand hoperand name hmem
    · exact ih₂ operand hoperand name hmem
    · exact ih₃ operand hoperand name hmem
  case noChain =>
    intro first token second rest heven op htoken operands hjoined ih₁ ih₂ ih₃ filter h
    rw [ofItems?, if_neg heven, htoken] at h
    simp only at h
    rw [if_neg hjoined] at h
    cases h
  case comparison =>
    intro first token second rest heven htoken hrest filter h
    rw [ofItems?, if_neg heven, htoken] at h
    simp only at h
    rw [if_pos hrest] at h
    exact hasFieldNames_comparison h
  case operand =>
    intro token operand rest ih₁ ih₂ filter h
    rw [operandsAfter, List.mem_append, Option.mem_toList] at h
    rcases h with h | h
    · exact ih₁ filter h
    · exact ih₂ filter h
  -- The other forms are no filters, and their lists have no operands.
  all_goals intros
  all_goals simp_all [ofJson?, ofItems?, operandsAfter]

end Filter

/-! ## The fields that a filter refers to -/

theorem mem_recordFields {name : String} {recorded names : List String} :
    name ∈ recordFields recorded names ↔ name ∈ recorded ∨ name ∈ names := by
  induction names generalizing recorded with
  | nil => simp [recordFields]
  | cons first rest ih =>
    rw [recordFields, List.foldl_cons]
    split_ifs with hmem
    · rw [← recordFields, ih, List.mem_cons]
      constructor
      · rintro (h | h)
        · exact Or.inl h
        · exact Or.inr (Or.inr h)
      · rintro (h | rfl | h)
        · exact Or.inl h
        · exact Or.inl hmem
        · exact Or.inr h
    · rw [← recordFields, ih, List.mem_append, List.mem_singleton, List.mem_cons, or_assoc]

theorem nodup_recordFields {recorded : List String} (h : recorded.Nodup) (names : List String) :
    (recordFields recorded names).Nodup := by
  induction names generalizing recorded with
  | nil => exact h
  | cons first rest ih =>
    rw [recordFields, List.foldl_cons]
    split_ifs with hmem
    · exact ih h
    · exact ih (List.nodup_append.mpr ⟨h, List.nodup_singleton first, by
        intro a ha b hb hab
        rw [List.mem_singleton.mp hb] at hab
        exact hmem (hab ▸ ha)⟩)

/-- Names that are recorded once each have each part field once. -/
theorem nodup_partFields {names : List String} (h : names.Nodup) :
    (names.filterMap PartField.ofName?).Nodup := by
  refine h.filterMap fun a b f ha hb => ?_
  rw [← (PartField.ofName?_eq_some ha).1, ← (PartField.ofName?_eq_some hb).1]

/-! ## Computing parts -/

/-- The part that a part field asks of a document. -/
def PartField.reading (offset : Int64) (doc : Json) (f : PartField) : Except DateOverflow Json :=
  partReading f.part offset ((doc.resolve? f.base).getD .null)

/-- Fields that do not get into the way of each other. -/
structure Apart (parts : List PartField) : Prop where
  base : ∀ f ∈ parts, isReserved f.base = false
  synthetic : parts.Pairwise fun f g => f.synthetic ∉ writtenBy g

theorem Apart.tail {f : PartField} {parts : List PartField} (h : Apart (f :: parts)) :
    Apart parts where
  base g hg := h.base g (List.mem_cons_of_mem f hg)
  synthetic := h.synthetic.of_cons

theorem Apart.not_mem_tail {f : PartField} {parts : List PartField} (h : Apart (f :: parts)) :
    f.synthetic ∉ parts.flatMap writtenBy := by
  intro hmem
  obtain ⟨g, hg, hwritten⟩ := List.mem_flatMap.mp hmem
  exact (List.pairwise_cons.mp h.synthetic).1 g hg hwritten

theorem hasNoPoint_writtenBy (f : PartField) : ∀ name ∈ writtenBy f, HasNoPoint name := by
  intro name hname
  unfold writtenBy at hname
  split_ifs at hname
  · rcases List.mem_pair.mp hname with rfl | rfl
    · exact f.hasNoPoint_synthetic
    · exact f.hasNoPoint_scratch
  · exact List.mem_singleton.mp hname ▸ f.hasNoPoint_synthetic

theorem isReserved_writtenBy (f : PartField) : ∀ name ∈ writtenBy f, isReserved name = true := by
  intro name hname
  unfold writtenBy at hname
  split_ifs at hname
  · rcases List.mem_pair.mp hname with rfl | rfl
    · exact f.isReserved_synthetic
    · exact f.isReserved_scratch
  · exact List.mem_singleton.mp hname ▸ f.isReserved_synthetic

theorem hasNoPoint_written {parts : List PartField} :
    ∀ name ∈ parts.flatMap writtenBy, HasNoPoint name := by
  intro name hname
  obtain ⟨f, -, hwritten⟩ := List.mem_flatMap.mp hname
  exact hasNoPoint_writtenBy f name hwritten

theorem isReserved_written {parts : List PartField} :
    ∀ name ∈ parts.flatMap writtenBy, isReserved name = true := by
  intro name hname
  obtain ⟨f, -, hwritten⟩ := List.mem_flatMap.mp hname
  exact isReserved_writtenBy f name hwritten

/-- A field that is set elsewhere does not change the part of another field. -/
theorem PartField.reading_of_sets {offset : Int64} {doc later : Json} {names : List String}
    {f : PartField} (h : Sets names doc later) (hpoint : ∀ name ∈ names, HasNoPoint name)
    (hreserved : ∀ name ∈ names, isReserved name = true) (hbase : isReserved f.base = false) :
    f.reading offset later = f.reading offset doc := by
  rw [reading, reading,
    h.resolve? hpoint fun name hname => firstKey_ne hbase (hreserved name hname)]

/-- The stages compute the parts: on a document of which one of the parts cannot be computed they
    fail, and otherwise they set each own field to its part. They set no other fields. -/
structure ComputesParts (stages : List Stage) (parts : List PartField) (offset : Int64) : Prop where
  looksAtOne : ∀ stage ∈ stages, stage.LooksAtOne
  sets : ∀ doc out, doc.isObject = true → runStages stages [doc] = .ok out →
    ∃ later, out = [later] ∧ Sets (parts.flatMap writtenBy) doc later
  ok : Apart parts → ∀ doc, doc.isObject = true →
    (∀ f ∈ parts, ∃ value, f.reading offset doc = .ok value) →
    ∃ later, runStages stages [doc] = .ok [later] ∧
      ∀ f ∈ parts, ∀ value, f.reading offset doc = .ok value →
        later.resolve? f.synthetic = some value
  error : Apart parts → ∀ doc, doc.isObject = true → ∀ f ∈ parts,
    ∀ e, f.reading offset doc = .error e → runStages stages [doc] = .error .dateOverflow

theorem ComputesParts.nil (offset : Int64) : ComputesParts [] [] offset where
  looksAtOne := by simp
  sets doc out _ h := by
    cases h
    exact ⟨doc, rfl, .same⟩
  ok _ doc _ _ := ⟨doc, rfl, by simp⟩
  error := by simp

/-- One part after which others are computed. -/
theorem ComputesParts.cons {f : PartField} {parts : List PartField} {offset : Int64}
    {a b : List Stage} (ha : Computes a (writtenBy f) f.synthetic fun doc => f.reading offset doc)
    (hb : ComputesParts b parts offset) : ComputesParts (a ++ b) (f :: parts) offset where
  looksAtOne := List.forall_mem_append.mpr ⟨ha.looksAtOne, hb.looksAtOne⟩
  sets doc out hdoc h := by
    obtain ⟨mid, hmid, hout⟩ := runStages_append_eq_ok.mp h
    cases hreading : f.reading offset doc with
    | error e =>
      rw [ha.error doc e hdoc hreading] at hmid
      cases hmid
    | ok value =>
      obtain ⟨first, hfirst, hsets, -⟩ := ha.ok doc value hdoc hreading
      obtain rfl := Except.ok.inj (hfirst.symm.trans hmid)
      obtain ⟨later, rfl, hlater⟩ := hb.sets first out (hsets.isObject hdoc) hout
      exact ⟨later, rfl, (hsets.mono (List.subset_append_left _ _)).trans
        (hlater.mono (List.subset_append_right _ _))⟩
  ok hapart doc hdoc hvalues := by
    obtain ⟨value, hvalue⟩ := hvalues f List.mem_cons_self
    obtain ⟨mid, hmid, hsets, hread⟩ := ha.ok doc value hdoc hvalue
    have hsame : ∀ g ∈ parts, g.reading offset mid = g.reading offset doc := fun g hg =>
      g.reading_of_sets hsets (hasNoPoint_writtenBy f) (isReserved_writtenBy f)
        (hapart.base g (List.mem_cons_of_mem f hg))
    have hmidObject := hsets.isObject hdoc
    obtain ⟨later, hlater, hothers⟩ := hb.ok hapart.tail mid hmidObject fun g hg => by
      rw [hsame g hg]
      exact hvalues g (List.mem_cons_of_mem f hg)
    refine ⟨later, runStages_append_eq_ok.mpr ⟨[mid], hmid, hlater⟩, ?_⟩
    intro g hg value' hvalue'
    rcases List.mem_cons.mp hg with rfl | hg
    · obtain ⟨_, ⟨⟩, hrest⟩ := hb.sets mid [later] hmidObject hlater
      obtain rfl := Except.ok.inj (hvalue'.symm.trans hvalue)
      rw [hrest.resolve? hasNoPoint_written, hread]
      rw [firstKey_of_noPoint g.hasNoPoint_synthetic]
      rintro name hname rfl
      exact hapart.not_mem_tail hname
    · exact hothers g hg value' (by rw [hsame g hg, hvalue'])
  error hapart doc hdoc g hg e h := by
    rw [runStages_append]
    cases hvalue : f.reading offset doc with
    | error e' =>
      rw [ha.error doc e' hdoc hvalue]
      rfl
    | ok value =>
      obtain ⟨mid, hmid, hsets, -⟩ := ha.ok doc value hdoc hvalue
      rw [hmid]
      rcases List.mem_cons.mp hg with rfl | hg
      · rw [hvalue] at h
        cases h
      · refine hb.error hapart.tail mid (hsets.isObject hdoc) g hg e ?_
        rw [g.reading_of_sets hsets (hasNoPoint_writtenBy f) (isReserved_writtenBy f)
          (hapart.base g (List.mem_cons_of_mem f hg)), h]

/-- The stages of part fields compute the parts. -/
theorem computes_parts (offset : Int64) {parts : List PartField}
    (h : ∀ f ∈ parts, startsWithDollar f.base = false) :
    ∃ stages, Reads (parts.flatMap (computePart offset)) stages ∧
      ComputesParts stages parts offset := by
  induction parts with
  | nil => exact ⟨[], reads_nil, .nil offset⟩
  | cons f parts ih =>
    obtain ⟨b, hb, hcomputes⟩ := ih fun g hg => h g (List.mem_cons_of_mem f hg)
    obtain ⟨a, ha, hfirst⟩ := computes_partStages f.part offset f.hasNoPoint_synthetic
      f.hasNoPoint_scratch (h f List.mem_cons_self)
      fun _ => startsWithDollar_of_isReserved f.isReserved_scratch
    exact ⟨a ++ b, ha.append hb, .cons hfirst hcomputes⟩

end GridQuery
