import Mathlib
import GridQuery.Proofs.Filtering
import GridQuery.Proofs.GroupTable
import GridQuery.Proofs.Searching
import GridQuery.Proofs.StageNames

/-!
# The fields that a filter records

What a filter becomes can be had in one walk over its tree, which writes the predicate and hands on
the fields met so far. The stages know the recorded fields only: they compute a part for each of
those that ask for one, before the match, and take away after it what they have computed. A quarter
takes two stages, of which the second subtracts from the scratch field of the first.

Results:
* `Filter.run_walk`: what the walk writes and records.
* `recordFields_eq_firstAppearances`: a field is recorded where it appears first.
* `surrounds_compiled`: the stages around the match.
* `CompiledFilter.recorded_and_surrounded`: the tree, the predicate and the stages of a filter speak
  of the same fields.
-/

namespace GridQuery

open Pipeline (compiledStages computePart constant reference writtenBy)

/-! ## The walk over a tree -/

/-- Records a field that is met. -/
def recordField (name : String) : StateM (List String) Unit :=
  modify fun seen => if name ∈ seen then seen else seen ++ [name]

namespace Filter

mutual

/-- Writes the predicate of a filter and records the fields that are met. -/
def walk : Filter → StateM (List String) Json
  | field name => do
    recordField name
    return .single (predicateField name) (.single "$eq" (.bool true))
  | not operand => do
    let predicate ← walk operand
    return .single "$nor" (.array [predicate])
  | compare name op value => do
    recordField name
    return .single (predicateField name) (condition op value)
  | chain op operands => do
    let predicates ← walkAll operands
    return .single op.keyword (.array predicates)

def walkAll : List Filter → StateM (List String) (List Json)
  | [] => return []
  | operand :: rest => do
    let first ← walk operand
    let others ← walkAll rest
    return first :: others

end

end Filter

theorem recordFields_append (recorded names later : List String) :
    recordFields recorded (names ++ later) = recordFields (recordFields recorded names) later :=
  List.foldl_append

namespace Filter

mutual

/-- The walk writes the predicate and records the leaves. -/
theorem run_walk : ∀ (filter : Filter) (recorded : List String),
    filter.walk.run recorded = (filter.predicate, recordFields recorded filter.leaves)
  | field _, _ => rfl
  | not operand, recorded => by
    have ih := run_walk operand recorded
    simp only [walk, StateT.run_bind, ih]
    rfl
  | compare _ _ _, _ => rfl
  | chain op operands, recorded => by
    have ih := run_walkAll operands recorded
    simp only [walk, StateT.run_bind, ih]
    rfl

theorem run_walkAll : ∀ (operands : List Filter) (recorded : List String),
    (walkAll operands).run recorded = (predicates operands, recordFields recorded (leavesOf operands))
  | [], _ => rfl
  | operand :: rest, recorded => by
    have ih₁ := run_walk operand recorded
    have ih₂ := run_walkAll rest (recordFields recorded operand.leaves)
    rw [leavesOf, recordFields_append]
    simp only [walkAll, StateT.run_bind, ih₁]
    exact congrArg (fun result => (operand.predicate :: result.1, result.2)) ih₂

end

end Filter

/-- A name is recorded where it appears first. -/
theorem recordFields_eq_firstAppearances (names : List String) :
    recordFields [] names = firstAppearances names := by
  induction names using List.reverseRecOn with
  | nil => rfl
  | append_singleton names name ih =>
    have hmem : name ∈ firstAppearances names ↔ name ∈ names := mem_firstAppearances
    rw [recordFields_append, ih, firstAppearances_append_one]
    simp only [recordFields, List.foldl_cons, List.foldl_nil, hmem]

namespace CompiledFilter

/-- Expressions are compiled one after the other, and each records its leaves behind those before. -/
theorem getLast?_ofList (earlier : List Json) (expr : Json) (recorded : List String) :
    (ofList recorded (earlier ++ [expr])).getLast? =
      some (after (recordFields recorded ((earlier.filterMap Filter.ofJson?).flatMap Filter.leaves))
        expr) := by
  induction earlier generalizing recorded with
  | nil => rfl
  | cons first earlier ih =>
    have hnext : (after recorded first).fields =
        recordFields recorded ((Filter.ofJson? first).elim [] Filter.leaves) := by
      rw [after]
      cases Filter.ofJson? first <;> rfl
    have hne : ofList (after recorded first).fields (earlier ++ [expr]) ≠ [] := by
      cases earlier <;> simp [ofList]
    rw [List.cons_append, ofList, List.getLast?_cons_of_ne_nil hne, ih, hnext, ← recordFields_append]
    cases hfirst : Filter.ofJson? first with
    | none => rw [List.filterMap_cons_none hfirst]; rfl
    | some filter => rw [List.filterMap_cons_some hfirst, List.flatMap_cons]; rfl

end CompiledFilter

/-! ## The fields of a predicate -/

mutual

/-- The keys of a predicate are the fields of the leaves. -/
theorem keys_predicate : ∀ filter : Filter,
    (predicateLeaves filter.predicate).map Prod.fst = filter.leaves.map predicateField
  | .field _ => rfl
  | .not operand => by
    have ih := keys_predicate operand
    simp [Filter.predicate, Json.single, predicateLeaves, leavesOfEntries, leavesOfItems,
      Filter.leaves, ih]
  | .compare name op value => by
    rw [predicateLeaves_compare]
    rfl
  | .chain op operands => by
    rw [predicateLeaves_chain]
    exact keys_predicates operands

theorem keys_predicates : ∀ operands : List Filter,
    (leavesOfItems (Filter.predicates operands)).map Prod.fst =
      (Filter.leavesOf operands).map predicateField
  | [] => rfl
  | operand :: rest => by
    rw [Filter.predicates, leavesOfItems, Filter.leavesOf, List.map_append, List.map_append,
      keys_predicate operand, keys_predicates rest]

end

/-! ## What stages write and read -/

namespace Json

mutual

/-- The operands of every `$subtract` in a document, at any depth. -/
def subtractions : Json → List (List Json)
  | object entries => subtractionsOfEntries entries
  | array items => subtractionsOfItems items
  | null | bool _ | number _ | string _ => []

def subtractionsOfEntries : List (String × Json) → List (List Json)
  | [] => []
  | (key, value) :: rest =>
    (if key = "$subtract" then value.array?.toList else []) ++ subtractions value ++
      subtractionsOfEntries rest

def subtractionsOfItems : List Json → List (List Json)
  | [] => []
  | item :: rest => subtractions item ++ subtractionsOfItems rest

end

end Json

namespace Pipeline

/-- The fields that a stage adds. -/
def addedNames (stage : Json) : List String :=
  ((stage.get? "$addFields").bind Json.object?).elim [] Entries.keys

/-- The fields that a stage removes. -/
def removedNames (stage : Json) : List String :=
  ((stage.get? "$project").bind Json.object?).elim []
    fun entries => Entries.keys (entries.filter fun entry => entry.2 = constant 0)

/-- The stages subtract from nothing but dates and scratch fields, and from a scratch field only
    behind a stage that writes it. The fields of `written` have been written before the first stage. -/
def ReadsWritten (dates scratches : List String) : (written : List String) → Pipeline → Prop
  | _, [] => True
  | written, stage :: rest =>
    (∀ operands ∈ stage.subtractions, ∀ path, reference path ∈ operands →
      path ∈ dates ∨ path ∈ scratches ∧ path ∈ written) ∧
      ReadsWritten dates scratches (written ++ addedNames stage) rest

section

variable {dates scratches written : List String}

theorem readsWritten_append {p q : Pipeline} :
    ReadsWritten dates scratches written (p ++ q) ↔
      ReadsWritten dates scratches written p ∧
        ReadsWritten dates scratches (written ++ p.flatMap addedNames) q := by
  induction p generalizing written with
  | nil => simp [ReadsWritten]
  | cons stage rest ih =>
    rw [List.cons_append, ReadsWritten, ih, ReadsWritten, and_assoc, List.flatMap_cons,
      List.append_assoc]

end

theorem addedNames_addField (field : String) (expression : Json) :
    addedNames (addField field expression) = [field] :=
  rfl

theorem mem_addedNames_computePart {offset : Int64} {f : PartField} {name : String} :
    name ∈ (computePart offset f).flatMap addedNames ↔ name ∈ writtenBy f := by
  obtain ⟨field, base, part⟩ := f
  cases part <;> simp [computePart, partStages, writtenBy, addedNames_addField, or_comm]

theorem subtractions_extraction (source : String) (part : CalendarPart) (offset : Int64) :
    (extraction source part offset).subtractions =
      [[reference source, .ofInt64 (offset * 60 * 1000)]] := by
  simp [extraction, reference, Json.single, Json.ofInt64, Json.array?, Json.subtractions,
    Json.subtractionsOfEntries, Json.subtractionsOfItems]

theorem subtractions_binary {operator : String} (h : operator ≠ "$subtract") (a b : Json) :
    (binary operator a b).subtractions = a.subtractions ++ b.subtractions := by
  simp [binary, Json.single, Json.subtractions, Json.subtractionsOfEntries,
    Json.subtractionsOfItems, h]

theorem subtractions_subtract (a b : Json) :
    (binary "$subtract" a b).subtractions = [a, b] :: (a.subtractions ++ b.subtractions) := by
  simp [binary, Json.single, Json.array?, Json.subtractions, Json.subtractionsOfEntries,
    Json.subtractionsOfItems]

theorem subtractions_addField {expression : Json} (h : expression.array? = none)
    (field : String) : (addField field expression).subtractions = expression.subtractions := by
  simp [addField, Json.single, Json.subtractions, Json.subtractionsOfEntries, h]

/-- What the stages of a part subtract from: the date, which is moved; the part of it for a day of
    the week, which counts from zero; and for a quarter what was written first. -/
theorem subtractions_computePart (offset : Int64) (f : PartField) :
    (computePart offset f).map Json.subtractions =
      match f.part with
      | .quarter => [[[reference f.base, .ofInt64 (offset * 60 * 1000)]],
          [[reference f.scratch, binary "$mod" (reference f.scratch) (constant 3)]]]
      | .dayOfWeek => [[[extraction f.base f.part offset, constant 1],
          [reference f.base, .ofInt64 (offset * 60 * 1000)]]]
      | _ => [[[reference f.base, .ofInt64 (offset * 60 * 1000)]]] := by
  have hreference : ∀ path, (reference path).subtractions = [] := fun _ => rfl
  have hconstant : ∀ n, (constant n).subtractions = [] := fun _ => rfl
  have hbinary : ∀ field operator a b,
      (addField field (binary operator a b)).subtractions = (binary operator a b).subtractions :=
    fun field _ _ _ => subtractions_addField rfl field
  obtain ⟨field, base, part⟩ := f
  cases part with
  | quarter =>
    have hadd := @subtractions_binary "$add" (by decide)
    have hdivide := @subtractions_binary "$divide" (by decide)
    have hmod := @subtractions_binary "$mod" (by decide)
    simp only [computePart, partStages, List.map_cons, List.map_nil, hbinary, hadd, hdivide, hmod,
      subtractions_subtract, subtractions_extraction, hreference, hconstant, List.append_nil]
  | dayOfWeek =>
    simp only [computePart, partStages, List.map_cons, List.map_nil, hbinary,
      subtractions_subtract, subtractions_extraction, hconstant, List.append_nil]
  | _ =>
    have hextraction : ∀ target source part,
        (addField target (extraction source part offset)).subtractions =
          (extraction source part offset).subtractions :=
      fun target _ _ => subtractions_addField rfl target
    simp only [computePart, partStages, List.map_cons, List.map_nil, hextraction,
      subtractions_extraction]

/-- A number is subtracted from the date of the part only. -/
theorem source_of_computePart {offset : Int64} {f : PartField} {stage : Json}
    (hstage : stage ∈ computePart offset f) {path : String} {n : Number}
    (h : [reference path, .number n] ∈ stage.subtractions) : path = f.base := by
  have hmem : stage.subtractions ∈ (computePart offset f).map Json.subtractions :=
    List.mem_map_of_mem hstage
  have hmoved : ∀ m, [reference path, .number n] = [reference f.base, m] → path = f.base :=
    fun m heq => reference_injective (List.cons.inj heq).1
  rw [subtractions_computePart] at hmem
  cases hpart : f.part with
  | quarter =>
    simp only [hpart, List.mem_pair] at hmem
    rcases hmem with hlist | hlist <;> rw [hlist, List.mem_singleton] at h
    · exact hmoved _ h
    · cases (List.cons.inj h).2
  | dayOfWeek =>
    simp only [hpart, List.mem_singleton] at hmem
    rw [hmem, List.mem_pair] at h
    rcases h with h | h
    · cases (List.cons.inj h).1
    · exact hmoved _ h
  | _ =>
    simp only [hpart, List.mem_singleton] at hmem
    rw [hmem, List.mem_singleton] at h
    exact hmoved _ h

theorem path_of_mem {path source : String} {value : Json} (hvalue : value.string? = none)
    (h : reference path ∈ [reference source, value]) : path = source := by
  rcases List.mem_pair.mp h with h | h
  · exact reference_injective h
  · rw [← h] at hvalue
    cases hvalue

/-- The stages of a part subtract from its date, and those of a quarter from its scratch field. -/
theorem readsWritten_computePart {dates scratches : List String} {f : PartField}
    (hbase : f.base ∈ dates) (hscratch : f.part = .quarter → f.scratch ∈ scratches)
    (offset : Int64) (written : List String) :
    ReadsWritten dates scratches written (computePart offset f) := by
  have hmoved : ∀ path, reference path ∈ [reference f.base, .ofInt64 (offset * 60 * 1000)] →
      path ∈ dates ∨ path ∈ scratches ∧ path ∈ written :=
    fun path hpath => Or.inl (path_of_mem rfl hpath ▸ hbase)
  have hlists := subtractions_computePart offset f
  obtain ⟨field, base, part⟩ := f
  cases part with
  | quarter =>
    simp only [computePart, partStages, List.map_cons, List.map_nil, List.cons.injEq,
      and_true] at hlists
    refine ⟨fun operands hmem path hpath => ?_, fun operands hmem path hpath => ?_, trivial⟩
    · rw [hlists.1, List.mem_singleton] at hmem
      exact hmoved path (hmem ▸ hpath)
    · rw [hlists.2, List.mem_singleton] at hmem
      obtain rfl := path_of_mem rfl (hmem ▸ hpath)
      exact Or.inr ⟨hscratch rfl, List.mem_append_right _ List.mem_cons_self⟩
  | dayOfWeek =>
    simp only [computePart, partStages, List.map_cons, List.map_nil, List.cons.injEq,
      and_true] at hlists
    refine ⟨fun operands hmem path hpath => ?_, trivial⟩
    rw [hlists, List.mem_pair] at hmem
    rcases hmem with rfl | hmem
    · rcases List.mem_pair.mp hpath with hpath | hpath <;> cases hpath
    · exact hmoved path (hmem ▸ hpath)
  | _ =>
    simp only [computePart, partStages, List.map_cons, List.map_nil, List.cons.injEq,
      and_true] at hlists
    refine ⟨fun operands hmem path hpath => ?_, trivial⟩
    rw [hlists, List.mem_singleton] at hmem
    exact hmoved path (hmem ▸ hpath)

theorem readsWritten_flatMap {dates scratches : List String} {parts : List PartField}
    (hbase : ∀ f ∈ parts, f.base ∈ dates)
    (hscratch : ∀ f ∈ parts, f.part = .quarter → f.scratch ∈ scratches) (offset : Int64)
    (written : List String) :
    ReadsWritten dates scratches written (parts.flatMap (computePart offset)) := by
  induction parts generalizing written with
  | nil => trivial
  | cons f parts ih =>
    rw [List.flatMap_cons, readsWritten_append]
    exact ⟨readsWritten_computePart (hbase f List.mem_cons_self) (hscratch f List.mem_cons_self)
        offset written,
      ih (fun g hg => hbase g (List.mem_cons_of_mem f hg))
        (fun g hg => hscratch g (List.mem_cons_of_mem f hg)) _⟩

theorem mem_addedNames_flatMap {offset : Int64} {parts : List PartField} {name : String} :
    name ∈ (parts.flatMap (computePart offset)).flatMap addedNames ↔
      name ∈ parts.flatMap writtenBy := by
  rw [List.flatMap_assoc, List.mem_flatMap, List.mem_flatMap]
  simp only [mem_addedNames_computePart]

end Pipeline

/-! ## The stages around the match -/

/-- The date fields of the names that ask for a part. -/
def dateFields (names : List String) : List String :=
  (names.filterMap PartField.ofName?).map PartField.base

/-- The scratch fields of the names that ask for a quarter. -/
def scratchFields (names : List String) : List String :=
  ((names.filterMap PartField.ofName?).filter fun f => f.part = .quarter).map PartField.scratch

/-- The stages before and after the match of a predicate, for the fields recorded with it. -/
structure Surrounds (fields : List String) (predicate : Json) (before after : Pipeline) :
    Prop where
  adds : Pipeline.Uses ["$addFields"] before
  removes : after = [] ∨ ∃ entries, after = [.single "$project" (.object entries)]
  /-- What the match looks at belongs to a recorded name. -/
  looksAt : ∀ key ∈ (predicateLeaves predicate).map Prod.fst, ∃ name ∈ fields,
    key = predicateField name
  /-- What stands for a recorded name that asks for a part is computed before the match. -/
  computes : ∀ name ∈ fields, (PartField.ofName? name).isSome = true →
    predicateField name ∈ before.flatMap Pipeline.addedNames
  /-- A number is subtracted from the date fields of recorded names only. -/
  sources : ∀ stage ∈ before, ∀ path n,
    [reference path, .number n] ∈ stage.subtractions → path ∈ dateFields fields
  /-- Any other field that is subtracted from is the scratch field of a recorded quarter, which an
      earlier stage has written. -/
  reads : Pipeline.ReadsWritten (dateFields fields) (scratchFields fields) [] before
  /-- What is removed is what was added. -/
  removed_iff : ∀ name,
    name ∈ after.flatMap Pipeline.removedNames ↔ name ∈ before.flatMap Pipeline.addedNames

theorem mem_removedNames {names : List String} {name : String} :
    name ∈ (if (removedEntries names).isEmpty then ([] : Pipeline)
        else [.single "$project" (.object (removedEntries names))]).flatMap Pipeline.removedNames ↔
      name ∈ names := by
  have hkeys : name ∈ Entries.keys (removedEntries names) ↔ name ∈ names := by
    constructor
    · intro hname
      obtain ⟨entry, hentry, rfl⟩ := List.mem_map.mp hname
      exact (mem_removedEntries hentry).1
    · intro hname
      exact subset_keys_removedEntries names hname
  have hzeros : (removedEntries names).filter (fun entry => entry.2 = constant 0) =
      removedEntries names :=
    List.filter_eq_self.mpr fun entry hentry => decide_eq_true (mem_removedEntries hentry).2
  split_ifs with hempty
  · rw [← hkeys, List.isEmpty_iff.mp hempty]
    rfl
  · rw [← hkeys, List.flatMap_singleton]
    show name ∈ Entries.keys ((removedEntries names).filter _) ↔ _
    rw [hzeros]

/-- The stages of a filter, with at least its leaves recorded. -/
theorem surrounds_compiled {filter : Filter} {fields : List String}
    (h : ∀ name ∈ filter.leaves, name ∈ fields) (offset : Int64) :
    ∃ before after,
      compiledStages ⟨some filter.predicate, fields⟩ offset =
        before ++ [.single "$match" filter.predicate] ++ after ∧
      Surrounds fields filter.predicate before after := by
  have hdates : ∀ f ∈ fields.filterMap PartField.ofName?, f.base ∈ dateFields fields :=
    fun f hf => List.mem_map_of_mem hf
  have hscratches : ∀ f ∈ fields.filterMap PartField.ofName?,
      f.part = .quarter → f.scratch ∈ scratchFields fields :=
    fun f hf hpart => List.mem_map_of_mem (List.mem_filter.mpr ⟨hf, decide_eq_true hpart⟩)
  refine ⟨_, _, rfl, ?adds, ?removes, ?looksAt, ?computes, ?sources, ?reads, ?removed⟩
  case adds => exact .flatMap fun f _ => Pipeline.uses_partStages _ _ _ _ _
  case removes =>
    split_ifs
    · exact Or.inl rfl
    · exact Or.inr ⟨_, rfl⟩
  case looksAt =>
    intro key hkey
    rw [keys_predicate] at hkey
    obtain ⟨name, hname, rfl⟩ := List.mem_map.mp hkey
    exact ⟨name, h name hname, rfl⟩
  case computes =>
    intro name hname hpart
    obtain ⟨f, hf⟩ := Option.isSome_iff_exists.mp hpart
    rw [Pipeline.mem_addedNames_flatMap, predicateField, hf]
    refine List.mem_flatMap.mpr ⟨f, List.mem_filterMap.mpr ⟨name, hname, hf⟩, ?_⟩
    simp only [writtenBy]
    split_ifs <;> exact List.mem_cons_self
  case sources =>
    intro stage hstage path n hsubtraction
    obtain ⟨f, hf, hmem⟩ := List.mem_flatMap.mp hstage
    exact Pipeline.source_of_computePart hmem hsubtraction ▸ hdates f hf
  case reads => exact Pipeline.readsWritten_flatMap hdates hscratches offset []
  case removed =>
    intro name
    rw [Pipeline.mem_addedNames_flatMap]
    exact mem_removedNames

/-! ## Compiling expressions -/

namespace CompiledFilter

/-- The stages of a compiled filter are a match and what surrounds it. -/
def IsSurrounded (compiled : CompiledFilter) (predicate : Json) : Prop :=
  ∀ offset, ∃ before after,
    compiledStages compiled offset = before ++ [.single "$match" predicate] ++ after ∧
      Surrounds compiled.fields predicate before after

theorem after_of_ofJson {expr : Json} {filter : Filter} (h : Filter.ofJson? expr = some filter)
    (recorded : List String) :
    after recorded expr = ⟨some filter.predicate, recordFields recorded filter.leaves⟩ := by
  rw [after, h]

theorem isSurrounded_after {expr : Json} {filter : Filter} (h : Filter.ofJson? expr = some filter)
    (recorded : List String) : (after recorded expr).IsSurrounded filter.predicate := by
  rw [after_of_ofJson h]
  exact surrounds_compiled fun name hname => mem_recordFields.mpr (Or.inr hname)

theorem exists_of_predicate {expr predicate : Json}
    (h : (ofJson expr).predicate = some predicate) :
    ∃ filter, Filter.ofJson? expr = some filter ∧ predicate = filter.predicate := by
  rw [ofJson, after] at h
  cases hexpr : Filter.ofJson? expr with
  | none =>
    rw [hexpr] at h
    cases h
  | some filter =>
    rw [hexpr] at h
    exact ⟨filter, rfl, (Option.some.inj h).symm⟩

/-- The fields of an expression with a predicate are its leaves, each where it appears first, and
    the predicate looks at just these. Whatever other expressions have been compiled before, the
    stages compute what the match looks at before it, and remove behind it what they have added. -/
theorem recorded_and_surrounded {expr predicate : Json}
    (h : (ofJson expr).predicate = some predicate) :
    (∃ filter, Filter.ofJson? expr = some filter ∧
      (ofJson expr).fields = firstAppearances filter.leaves ∧
      ∀ recorded, filter.walk.run recorded = (predicate, (after recorded expr).fields)) ∧
    (∀ key, key ∈ (predicateLeaves predicate).map Prod.fst ↔
      key ∈ (ofJson expr).fields.map predicateField) ∧
    (ofJson expr).IsSurrounded predicate ∧
    ∀ earlier, ∃ compiled,
      (ofList [] (earlier ++ [expr])).getLast? = some compiled ∧
      compiled.predicate = some predicate ∧
      compiled.fields =
        firstAppearances (((earlier ++ [expr]).filterMap Filter.ofJson?).flatMap Filter.leaves) ∧
      compiled.IsSurrounded predicate := by
  obtain ⟨filter, hfilter, rfl⟩ := exists_of_predicate h
  have hfields : (ofJson expr).fields = firstAppearances filter.leaves := by
    rw [ofJson, after_of_ofJson hfilter, recordFields_eq_firstAppearances]
  refine ⟨⟨filter, hfilter, hfields, fun recorded => ?walk⟩, fun key => ?keys,
    isSurrounded_after hfilter [], fun earlier => ⟨_, getLast?_ofList earlier expr [], ?_, ?_,
      isSurrounded_after hfilter _⟩⟩
  case walk => rw [filter.run_walk, after_of_ofJson hfilter]
  case keys =>
    rw [keys_predicate, hfields]
    simp only [List.mem_map, mem_firstAppearances]
  · rw [after_of_ofJson hfilter]
  · rw [after_of_ofJson hfilter, ← recordFields_append, recordFields_eq_firstAppearances,
      List.filterMap_append, List.flatMap_append, List.filterMap_cons_some hfilter]
    simp

/-- A filter that looks at the quarter of a date twice. The number among its operands is left out. -/
def inLaterQuarter : Json :=
  .array [.array [.string "sent.quarter", .string ">", constant 1], .string "and", constant 0,
    .string "AND", .array [.string "!", .array [.string "sent.quarter", .string "=", constant 3]],
    .string "and", .string "done"]

/-- The predicate of that filter. -/
def inLaterQuarterPredicate : Json :=
  .single "$and" (.array [.single "___sent_quarter" (.single "$gt" (constant 1)),
    .single "$nor" (.array [.single "___sent_quarter" (.single "$eq" (constant 3))]),
    .single "done" (.single "$eq" (.bool true))])

theorem surrounded_inLaterQuarter :
    (ofJson inLaterQuarter).predicate = some inLaterQuarterPredicate ∧
      (ofJson inLaterQuarter).fields = ["sent.quarter", "done"] ∧
      (∀ key, key ∈ (predicateLeaves inLaterQuarterPredicate).map Prod.fst ↔
        key ∈ (ofJson inLaterQuarter).fields.map predicateField) ∧
      (ofJson inLaterQuarter).IsSurrounded inLaterQuarterPredicate := by
  have hpredicate : (ofJson inLaterQuarter).predicate = some inLaterQuarterPredicate := by
    decide +kernel
  obtain ⟨-, hkeys, hsurrounded, -⟩ := recorded_and_surrounded hpredicate
  exact ⟨hpredicate, by decide +kernel, hkeys, hsurrounded⟩

/-- A filter that looks at the quarter of a date. -/
def inThirdQuarter : Json :=
  .array [.string "sent.quarter", .string "=", constant 3]

/-- A quarter is subtracted from its scratch field, which is no date field. -/
theorem subtracts_from_scratch :
    (ofJson inThirdQuarter).predicate ≠ none ∧
      ∃ stage ∈ compiledStages (ofJson inThirdQuarter) 0, ∃ operands ∈ stage.subtractions,
        operands.head? = some (reference "___sent_mp2") ∧
          "___sent_mp2" ∉ dateFields (ofJson inThirdQuarter).fields := by
  decide +kernel

end CompiledFilter

end GridQuery
