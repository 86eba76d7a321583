import Mathlib
import GridQuery.Pipeline.Filtering
import GridQuery.Proofs.Chains

/-!
# Searches

A search is written as a filter expression, a comparison for each of its fields, and read like any
other one. With the token of a comparison it looks at its fields, and takes what is searched for as
it is. With a token of a chain each comparison is read as a chain of the field and of what is
searched for, which then is an expression of its own.

Results:
* `predicateLeaves`: the comparisons in a predicate document.
* `searchFilter_eq`: a search is read as its criteria, one of which has to hold.
* `looksAtListed_iff`: a search looks at its fields only, unless its token is one of a chain and
  the chain has an operand.
-/

namespace GridQuery

open Pipeline (compiledStages criterion filterStages isBlank searchExpression searchStages)

/-! ## The comparisons of a predicate -/

mutual

/-- The comparisons in a predicate document, each with its field, from left to right. -/
def predicateLeaves : Json → List (String × Json)
  | .object entries => leavesOfEntries entries
  | _ => []

/-- The comparisons in the entries of a predicate. -/
def leavesOfEntries : List (String × Json) → List (String × Json)
  | [] => []
  | (key, .array items) :: rest =>
    (if key = "$and" ∨ key = "$or" ∨ key = "$nor" then leavesOfItems items
      else [(key, .array items)]) ++ leavesOfEntries rest
  | (key, operand) :: rest => (key, operand) :: leavesOfEntries rest

/-- The comparisons in a list of predicates. -/
def leavesOfItems : List Json → List (String × Json)
  | [] => []
  | predicate :: rest => predicateLeaves predicate ++ leavesOfItems rest

end

/-- The comparisons of a compiled filter. -/
def CompiledFilter.comparisons (compiled : CompiledFilter) : List (String × Json) :=
  compiled.predicate.elim [] predicateLeaves

/-- The field that is looked at and its condition, for a comparison of a name with a value. -/
def comparisonOf (op : Comparison) (value : Json) (name : String) : String × Json :=
  (predicateField name, Filter.condition op value)

theorem predicateLeaves_compare (op : Comparison) (value : Json) (name : String) :
    predicateLeaves (Filter.compare name op value).predicate = [comparisonOf op value name] := by
  have hobject : ∃ entries, Filter.condition op value = .object entries := by
    cases op <;> exact ⟨_, rfl⟩
  obtain ⟨entries, hentries⟩ := hobject
  rw [Filter.predicate, comparisonOf, hentries]
  rfl

theorem leavesOfItems_compares (op : Comparison) (value : Json) (names : List String) :
    leavesOfItems (Filter.predicates (names.map fun name => .compare name op value)) =
      names.map (comparisonOf op value) := by
  induction names with
  | nil => rfl
  | cons name names ih =>
    rw [List.map_cons, Filter.predicates, leavesOfItems, predicateLeaves_compare, ih]
    rfl

theorem leavesOf_compares (op : Comparison) (value : Json) (names : List String) :
    Filter.leavesOf (names.map fun name => .compare name op value) = names := by
  induction names with
  | nil => rfl
  | cons name names ih =>
    rw [List.map_cons, Filter.leavesOf, ih]
    rfl

theorem predicateLeaves_chain (op : Combinator) (operands : List Filter) :
    predicateLeaves (Filter.chain op operands).predicate =
      leavesOfItems (Filter.predicates operands) := by
  rw [Filter.predicate]
  cases op <;> simp [Combinator.keyword, Json.single, predicateLeaves, leavesOfEntries]

/-! ## How a search is read -/

/-- The fields of a search. -/
def SearchFields.names : SearchFields → List String
  | single field => [field]
  | many fields => fields

/-- The filter of criteria one of which has to hold; what is no filter is left out. -/
def anyOf : List (Option Filter) → Option Filter
  | [filter] => filter
  | filters =>
    if filters.reduceOption = [] then none else some (.chain .or filters.reduceOption)

/-- One filter is left as it is, and several become a chain. -/
theorem anyOf_cases (filters : List (Option Filter)) :
    (anyOf filters = none ∧ filters.reduceOption = []) ∨
      (∃ filter, anyOf filters = some filter ∧ filters.reduceOption = [filter]) ∨
      (anyOf filters = some (.chain .or filters.reduceOption) ∧ filters.reduceOption ≠ []) := by
  match filters with
  | [none] => exact Or.inl ⟨rfl, rfl⟩
  | [some filter] => exact Or.inr (Or.inl ⟨filter, rfl, rfl⟩)
  | [] => exact Or.inl ⟨rfl, rfl⟩
  | first :: second :: rest =>
    rw [anyOf]
    · split_ifs with hnone
      · exact Or.inl ⟨rfl, hnone⟩
      · exact Or.inr (Or.inr ⟨rfl, hnone⟩)
    · simp

/-- A search is read as its criteria, one of which has to hold. -/
theorem searchFilter_eq (fields : SearchFields) (operation : String) (value : Json) :
    (searchExpression fields operation value).bind Filter.ofJson? =
      anyOf (fields.names.map fun name => Filter.ofJson? (criterion operation value name)) := by
  cases fields with
  | single field => rfl
  | many names =>
    rcases names with _ | ⟨first, _ | ⟨second, rest⟩⟩
    · rfl
    · simp [searchExpression, SearchFields.names, anyOf, Filter.ofJson?, Filter.ofItems?]
    · have hor : Combinator.ofToken? "or" = some .or := Combinator.or.ofToken?_token
      have hread : ((first :: second :: rest).map (criterion operation value)).filterMap
          Filter.ofJson? = ((first :: second :: rest).map fun name =>
            Filter.ofJson? (criterion operation value name)).reduceOption := by
        rw [List.reduceOption, List.filterMap_map, List.filterMap_map]
        rfl
      have hexpression : searchExpression (.many (first :: second :: rest)) operation value =
          some (.array (((first :: second :: rest).map
            (criterion operation value)).intersperse (.string "or"))) := rfl
      rw [hexpression, Option.bind_some, Filter.ofJson_chain hor (by simp), hread]
      rfl

/-- The token of a comparison takes the value as it is. -/
theorem ofJson_criterion_comparison {operation : String} {op : Comparison}
    (h : Comparison.ofToken? operation = some op) (value : Json) (name : String) :
    Filter.ofJson? (criterion operation value name) =
      if Filter.isFieldName name then some (.compare name op value) else none := by
  rw [criterion, Filter.ofJson_comparison (Comparison.combinator_eq_none h)]
  simp [Filter.comparison?, Json.string?, h]

theorem reduceOption_criteria {operation : String} {op : Comparison}
    (h : Comparison.ofToken? operation = some op) (value : Json) (names : List String) :
    (names.map fun name => Filter.ofJson? (criterion operation value name)).reduceOption =
      (names.filter Filter.isFieldName).map fun name => .compare name op value := by
  induction names with
  | nil => rfl
  | cons name names ih =>
    rw [List.map_cons, ofJson_criterion_comparison h]
    by_cases hname : Filter.isFieldName name = true
    · rw [if_pos hname, List.reduceOption_cons_of_some, ih, List.filter_cons_of_pos hname,
        List.map_cons]
    · rw [if_neg hname, List.reduceOption_cons_of_none, ih, List.filter_cons_of_neg hname]

/-- What is no token at all makes no filter. -/
theorem ofJson_criterion_none {operation : String} (h : Comparison.ofToken? operation = none)
    (hchain : Combinator.ofToken? operation = none) (value : Json) (name : String) :
    Filter.ofJson? (criterion operation value name) = none := by
  rw [criterion, Filter.ofJson_comparison hchain]
  simp [Filter.comparison?, Json.string?, h]

/-- The token of a chain makes a chain of the field and of what the value is read as. -/
theorem ofJson_criterion_chain {operation : String} {op : Combinator}
    (h : Combinator.ofToken? operation = some op) (value : Json) (name : String) :
    Filter.ofJson? (criterion operation value name) =
      if [Json.string name, value].filterMap Filter.ofJson? = [] then none
      else some (.chain op ([Json.string name, value].filterMap Filter.ofJson?)) :=
  Filter.ofJson_chain h (show 2 ≤ [Json.string name, value].length from le_rfl)

/-- The chain has an operand if the field or the value is a filter. -/
theorem isSome_criterion_chain {operation : String} {op : Combinator}
    (h : Combinator.ofToken? operation = some op) (value : Json) (name : String) :
    (Filter.ofJson? (criterion operation value name)).isSome = true ↔
      Filter.isFieldName name = true ∨ (Filter.ofJson? value).isSome = true := by
  rw [ofJson_criterion_chain h]
  by_cases hname : Filter.isFieldName name = true
  · simp [Filter.ofJson?, hname]
  · cases hvalue : Filter.ofJson? value <;> simp [Filter.ofJson?, hname, hvalue]

theorem anyOf_eq_none_iff {filters : List (Option Filter)} :
    anyOf filters = none ↔ ∀ filter ∈ filters, filter = none := by
  have hnone : anyOf filters = none ↔ filters.reduceOption = [] := by
    rcases anyOf_cases filters with ⟨h, hempty⟩ | ⟨filter, h, hsingle⟩ | ⟨h, hsome⟩
    · simp [h, hempty]
    · simp [h, hsingle]
    · simp [h, hsome]
  rw [hnone, List.reduceOption, List.filterMap_eq_nil_iff]
  rfl

/-! ## The stages of a search -/

/-- What a filter is compiled to. -/
def Filter.compiled (filter : Filter) : CompiledFilter :=
  ⟨some filter.predicate, recordFields [] filter.leaves⟩

theorem filterStages_eq_compiled (expr : Json) (offset : Int64) :
    filterStages expr offset =
      ((Filter.ofJson? expr).elim [] fun filter => compiledStages filter.compiled offset) := by
  rw [filterStages, CompiledFilter.ofJson, CompiledFilter.after]
  cases Filter.ofJson? expr <;> rfl

/-- A search of a token for a value that is not blank has the stages of its filter. -/
theorem searchStages_eq {operation : String} (hoperation : operation ≠ "") {value : Json}
    (hvalue : isBlank value = false) (fields : SearchFields) (offset : Int64) :
    searchStages (some fields) (some operation) (some value) offset =
      (anyOf (fields.names.map fun name =>
        Filter.ofJson? (criterion operation value name))).elim []
          fun filter => compiledStages filter.compiled offset := by
  rw [← searchFilter_eq, searchStages]
  simp only [String.isEmpty_iff, hoperation, hvalue, Bool.or_false]
  cases searchExpression fields operation value with
  | none => rfl
  | some expr => exact filterStages_eq_compiled expr offset

theorem compiledStages_ne_nil (filter : Filter) (offset : Int64) :
    compiledStages filter.compiled offset ≠ [] := by
  simp [compiledStages, Filter.compiled]

/-- The stages of a search look at nothing but the listed fields: there are none if the operation is
    no comparison, and else they are those of one comparison for each listed field name, with what
    is searched for as it is. -/
structure LooksAtListed (fields : SearchFields) (operation : String) (value : Json)
    (offset : Int64) : Prop where
  unsupported : Comparison.ofToken? operation = none →
    searchStages (some fields) (some operation) (some value) offset = []
  supported : ∀ op, Comparison.ofToken? operation = some op → isBlank value = false →
    ∃ compiled : CompiledFilter,
      searchStages (some fields) (some operation) (some value) offset =
        compiledStages compiled offset ∧
      compiled.fields = recordFields [] (fields.names.filter Filter.isFieldName) ∧
      compiled.comparisons =
        (fields.names.filter Filter.isFieldName).map (comparisonOf op value)

/-- The token is one of a chain, and for one of the fields the chain has an operand. -/
def IsReadAsChain (fields : SearchFields) (operation : String) (value : Json) : Prop :=
  (Combinator.ofToken? operation).isSome = true ∧ isBlank value = false ∧
    ∃ name ∈ fields.names, Filter.isFieldName name = true ∨ (Filter.ofJson? value).isSome = true

theorem ne_empty_of_comparison {operation : String} {op : Comparison}
    (h : Comparison.ofToken? operation = some op) : operation ≠ "" := by
  rintro rfl
  exact absurd h (by cases op <;> decide +kernel)

/-- A search with a comparison compares each listed field name. -/
theorem supported_of_comparison (fields : SearchFields) {operation : String} {op : Comparison}
    (h : Comparison.ofToken? operation = some op) {value : Json} (hvalue : isBlank value = false)
    (offset : Int64) :
    ∃ compiled : CompiledFilter,
      searchStages (some fields) (some operation) (some value) offset =
        compiledStages compiled offset ∧
      compiled.fields = recordFields [] (fields.names.filter Filter.isFieldName) ∧
      compiled.comparisons =
        (fields.names.filter Filter.isFieldName).map (comparisonOf op value) := by
  have hread : (fields.names.map fun name =>
      Filter.ofJson? (criterion operation value name)).reduceOption =
        (fields.names.filter Filter.isFieldName).map fun name => .compare name op value :=
    reduceOption_criteria h value fields.names
  rw [searchStages_eq (ne_empty_of_comparison h) hvalue]
  rcases anyOf_cases (fields.names.map fun name =>
      Filter.ofJson? (criterion operation value name)) with
    ⟨hnone, hempty⟩ | ⟨filter, hone, hsingle⟩ | ⟨hchain, -⟩
  · rw [hread, List.map_eq_nil_iff] at hempty
    rw [hnone, hempty]
    exact ⟨⟨none, []⟩, rfl, rfl, rfl⟩
  · rw [hread] at hsingle
    obtain ⟨name, hname, rfl⟩ := List.map_eq_singleton_iff.mp hsingle
    rw [hone, hname]
    exact ⟨(Filter.compare name op value).compiled, rfl, rfl,
      predicateLeaves_compare op value name⟩
  · rw [hchain, hread]
    refine ⟨Filter.compiled _, rfl, ?_, ?_⟩
    · exact congrArg (recordFields []) (leavesOf_compares op value _)
    · exact (predicateLeaves_chain .or _).trans (leavesOfItems_compares op value _)

/-- A search looks at the listed fields only, unless it is read as a chain of fields and of what it
    searches for. -/
theorem looksAtListed_iff (fields : SearchFields) (operation : String) (value : Json)
    (offset : Int64) :
    LooksAtListed fields operation value offset ↔ ¬IsReadAsChain fields operation value := by
  constructor
  · rintro ⟨hunsupported, -⟩ ⟨hchain, hvalue, name, hname, hoperand⟩
    obtain ⟨op, hop⟩ := Option.isSome_iff_exists.mp hchain
    have hcomparison : Comparison.ofToken? operation = none := by
      cases hcompares : Comparison.ofToken? operation with
      | none => rfl
      | some comparison =>
        rw [Comparison.combinator_eq_none hcompares] at hop
        cases hop
    have hoperation : operation ≠ "" := by
      rintro rfl
      exact absurd hop (by cases op <;> decide +kernel)
    have hnil := hunsupported hcomparison
    rw [searchStages_eq hoperation hvalue] at hnil
    cases hread : anyOf (fields.names.map fun name =>
        Filter.ofJson? (criterion operation value name)) with
    | none =>
      have hcriterion := anyOf_eq_none_iff.mp hread _ (List.mem_map_of_mem hname)
      have hsome := (isSome_criterion_chain hop value name).mpr hoperand
      rw [hcriterion] at hsome
      cases hsome
    | some filter =>
      rw [hread] at hnil
      exact compiledStages_ne_nil filter offset hnil
  · intro hnot
    refine ⟨fun hcomparison => ?_, fun op hop hvalue =>
      supported_of_comparison fields hop hvalue offset⟩
    by_cases hoperation : operation = ""
    · simp [searchStages, hoperation]
    by_cases hvalue : isBlank value = true
    · simp [searchStages, hvalue]
    rw [Bool.not_eq_true] at hvalue
    have hnone : ∀ name ∈ fields.names, Filter.ofJson? (criterion operation value name) = none := by
      intro name hname
      cases hchain : Combinator.ofToken? operation with
      | none => exact ofJson_criterion_none hcomparison hchain value name
      | some op =>
        rw [← Option.not_isSome_iff_eq_none, isSome_criterion_chain hchain]
        exact fun hoperand => hnot ⟨by rw [hchain]; rfl, hvalue, name, hname, hoperand⟩
    have hread : anyOf (fields.names.map fun name =>
        Filter.ofJson? (criterion operation value name)) = none := by
      refine anyOf_eq_none_iff.mpr fun filter hfilter => ?_
      obtain ⟨name, hname, rfl⟩ := List.mem_map.mp hfilter
      exact hnone name hname
    rw [searchStages_eq hoperation hvalue, hread]
    rfl

/-- A search for a text with the token of a chain: the text is read as a field. -/
theorem search_reads_value_as_field :
    Comparison.ofToken? "and" = none ∧
      searchStages (some (.single "a")) (some "and") (some (.string "b")) 0 =
        [.single "$match" (.single "$and" (.array
          [.single "a" (.single "$eq" (.bool true)), .single "b" (.single "$eq" (.bool true))]))] ∧
      ¬LooksAtListed (.single "a") "and" (.string "b") 0 := by
  have hcomparison : Comparison.ofToken? "and" = none := by decide +kernel
  have hstages : searchStages (some (.single "a")) (some "and") (some (.string "b")) 0 =
      [.single "$match" (.single "$and" (.array
        [.single "a" (.single "$eq" (.bool true)),
          .single "b" (.single "$eq" (.bool true))]))] := by
    decide +kernel
  refine ⟨hcomparison, hstages, fun hlooks => ?_⟩
  have hnone := hlooks.unsupported hcomparison
  rw [hstages] at hnone
  cases hnone

end GridQuery
