import Mathlib
import GridQuery.Proofs.Chains

/-!
# The grammar of filter expressions

The forms that a filter expression can have are written down as rules, apart from the function that
reads them. A chain leaves out what is no expression, so that its rule speaks of values that have no
tree; this is why a derivation is defined along the size of a value and not as an inductive
predicate.

Results:
* `Filter.Derives`: what a value derives, with `Filter.derives_iff`: what the rules give from what
  its parts derive.
* `Filter.ofJson_toJson`: a well-formed filter is read back from what is written for it.
* `Filter.ofJson_exactly_grammar`: reading finds the tree that a value derives and no other one, and
  the trees that are read are those with field names for names and without empty chains.
-/

namespace GridQuery

namespace Filter

/-! ## The rules -/

section

variable (D : Json → Filter → Prop)

/-- The trees of those values of a list that derive one, in order. -/
inductive Operands : List Json → List Filter → Prop where
  | nil : Operands [] []
  | keep {part : Json} {tree : Filter} {parts : List Json} {trees : List Filter}
      (h : D part tree) (rest : Operands parts trees) : Operands (part :: parts) (tree :: trees)
  | leave {part : Json} {parts : List Json} {trees : List Filter}
      (h : ∀ tree, ¬D part tree) (rest : Operands parts trees) : Operands (part :: parts) trees

/-- The rules of the grammar. `D part tree` says that a part of the value derives a tree. -/
inductive Rule : Json → Filter → Prop where
  | field {name : String} (h : isFieldName name = true) : Rule (.string name) (.field name)
  | wrapped {part : Json} {tree : Filter} (h : D part tree) : Rule (.array [part]) tree
  | negation {part : Json} {tree : Filter} (h : D part tree) :
      Rule (.array [.string "!", part]) (.not tree)
  | chain {op : Combinator} {first : Json} {rest : List (String × Json)} {operands : List Filter}
      (hrest : rest ≠ []) (htokens : ∀ p ∈ rest, p.1.map Char.toLower = op.token)
      (hparts : Operands D (first :: rest.map Prod.snd) operands) (hoperands : operands ≠ []) :
      Rule (.array (first :: behind rest)) (.chain op operands)
  | comparison {name token : String} {op : Comparison} {value : Json}
      (hname : isFieldName name = true) (htoken : token.map Char.toLower = op.token) :
      Rule (.array [.string name, .string token, value]) (.compare name op value)

end

/-- What a value derives. The parts that a rule speaks of are smaller than the value. -/
def Derives (expr : Json) (filter : Filter) : Prop :=
  Rule (fun part tree => ∃ _ : sizeOf part < sizeOf expr, Derives part tree) expr filter
termination_by sizeOf expr

/-! ## Derivations -/

theorem Operands.congr {D D' : Json → Filter → Prop} {parts : List Json} {trees : List Filter}
    (h : ∀ part ∈ parts, ∀ tree, D part tree ↔ D' part tree) (hparts : Operands D parts trees) :
    Operands D' parts trees := by
  induction hparts with
  | nil => exact .nil
  | keep hpart _ ih =>
    exact .keep ((h _ List.mem_cons_self _).mp hpart)
      (ih fun part hmem => h part (List.mem_cons_of_mem _ hmem))
  | leave hpart _ ih =>
    exact .leave (fun tree htree => hpart tree ((h _ List.mem_cons_self tree).mpr htree))
      (ih fun part hmem => h part (List.mem_cons_of_mem _ hmem))

theorem sizeOf_lt_array {part : Json} {items : List Json} (h : part ∈ items) :
    sizeOf part < sizeOf (Json.array items) := by
  have := List.sizeOf_lt_of_mem h
  simp only [Json.array.sizeOf_spec]
  omega

theorem mem_operands {part first : Json} {rest : List (String × Json)}
    (h : part ∈ first :: rest.map Prod.snd) : part ∈ first :: behind rest := by
  rcases List.mem_cons.mp h with rfl | h
  · exact List.mem_cons_self
  · obtain ⟨p, hp, rfl⟩ := List.mem_map.mp h
    exact List.mem_cons_of_mem _ (List.mem_flatMap.mpr ⟨p, hp, by simp⟩)

/-- A rule speaks only of parts that are smaller than the value. -/
theorem Rule.congr {D D' : Json → Filter → Prop} {expr : Json} {filter : Filter}
    (h : ∀ part, sizeOf part < sizeOf expr → ∀ tree, D part tree ↔ D' part tree)
    (hrule : Rule D expr filter) : Rule D' expr filter := by
  cases hrule with
  | field hname => exact .field hname
  | wrapped hpart => exact .wrapped ((h _ (sizeOf_lt_array List.mem_cons_self) _).mp hpart)
  | negation hpart => exact .negation ((h _ (sizeOf_lt_array (by simp)) _).mp hpart)
  | chain hrest htokens hparts hoperands =>
    have hcongr := hparts.congr fun part hmem => h part (sizeOf_lt_array (mem_operands hmem))
    exact .chain hrest htokens hcongr hoperands
  | comparison hname htoken => exact .comparison hname htoken

/-- What a value derives is what the rules give from what its parts derive. -/
theorem derives_iff {expr : Json} {filter : Filter} :
    Derives expr filter ↔ Rule Derives expr filter := by
  rw [Derives]
  constructor
  · exact Rule.congr fun part hpart tree => ⟨fun ⟨_, h⟩ => h, fun h => ⟨hpart, h⟩⟩
  · exact Rule.congr fun part hpart tree => ⟨fun h => ⟨hpart, h⟩, fun ⟨_, h⟩ => h⟩

/-! ## Reading by the rules -/

/-- A value is read as a tree. -/
def IsReadAs (expr : Json) (filter : Filter) : Prop := ofJson? expr = some filter

theorem operands_iff {parts : List Json} {trees : List Filter} :
    Operands IsReadAs parts trees ↔ parts.filterMap ofJson? = trees := by
  constructor
  · intro h
    induction h with
    | nil => rfl
    | keep hpart _ ih => rw [List.filterMap_cons_some hpart, ih]
    | leave hpart _ ih =>
      rw [List.filterMap_cons_none (Option.eq_none_iff_forall_ne_some.mpr hpart), ih]
  · intro h
    induction parts generalizing trees with
    | nil =>
      rw [← h]
      exact .nil
    | cons part parts ih =>
      cases hpart : ofJson? part with
      | none =>
        rw [List.filterMap_cons_none hpart] at h
        exact .leave (fun tree htree => by rw [IsReadAs, hpart] at htree; cases htree) (ih h)
      | some tree =>
        rw [List.filterMap_cons_some hpart] at h
        rw [← h]
        exact .keep hpart (ih rfl)

/-- Tokens and operands in turn, all of the tokens of one combinator. -/
theorem exists_behind_of_allJoinedBy {op : Combinator} :
    ∀ {rest : List Json}, ¬rest.length % 2 = 1 → allJoinedBy op rest = true →
      ∃ parts, rest = behind parts ∧ ∀ p ∈ parts, Combinator.ofToken? p.1 = some op
  | [], _, _ => ⟨[], rfl, fun p hp => absurd hp List.not_mem_nil⟩
  | [_], hlength, _ => absurd rfl hlength
  | token :: item :: rest, hlength, hjoined => by
    rw [allJoinedBy, Bool.and_eq_true, decide_eq_true_eq] at hjoined
    obtain ⟨text, htext, htoken⟩ := Option.bind_eq_some_iff.mp hjoined.1
    have hrest : ¬rest.length % 2 = 1 := by
      simp only [List.length_cons] at hlength
      omega
    obtain ⟨parts, rfl, hparts⟩ := exists_behind_of_allJoinedBy hrest hjoined.2
    refine ⟨(text, item) :: parts, ?_, ?_⟩
    · cases token <;> cases htext
      rfl
    · exact List.forall_mem_cons.mpr ⟨htoken, hparts⟩

theorem rule_of_comparison {first : Json} {token : String} {value : Json} {filter : Filter}
    (h : comparison? first token value = some filter) :
    Rule IsReadAs (.array [first, .string token, value]) filter := by
  simp only [comparison?, Option.bind_eq_bind, Option.bind_eq_some_iff] at h
  obtain ⟨name, hname, op, htoken, h⟩ := h
  split_ifs at h with hfield
  cases first <;> cases hname
  cases h
  exact .comparison hfield (Comparison.ofToken?_eq_some.mp htoken)

/-- What an array is read as is had by one of the rules. -/
theorem rule_of_ofItems {items : List Json} {filter : Filter} (h : ofItems? items = some filter) :
    Rule IsReadAs (.array items) filter := by
  fun_cases ofItems? items with
  | case1 part =>
    rw [ofItems?] at h
    exact .wrapped h
  | case2 part =>
    rw [ofItems?, if_pos rfl, Option.map_eq_some_iff] at h
    obtain ⟨tree, hpart, rfl⟩ := h
    exact .negation hpart
  | case5 first token second rest heven op htoken operands hjoined =>
    obtain ⟨parts, rfl, hparts⟩ :=
      exists_behind_of_allJoinedBy heven (Bool.and_eq_true_iff.mp hjoined).1
    have htokens : ∀ p ∈ (token, second) :: parts, Combinator.ofToken? p.1 = some op :=
      List.forall_mem_cons.mpr ⟨htoken, hparts⟩
    have hchain := ofJson_joined first (List.cons_ne_nil (token, second) parts) htokens
    rw [behind_cons, ofJson?, h] at hchain
    split_ifs at hchain with hempty
    cases hchain
    exact .chain (List.cons_ne_nil (token, second) parts)
      (fun p hp => Combinator.ofToken?_eq_some.mp (htokens p hp)) (operands_iff.mpr rfl) hempty
  | case7 first token second rest heven htoken hrest =>
    rw [ofItems?, if_neg heven, htoken] at h
    simp only [if_pos hrest] at h
    rw [List.isEmpty_iff.mp hrest]
    exact rule_of_comparison h
  | case6 first token second rest heven op htoken operands hjoined =>
    rw [ofItems?, if_neg heven, htoken] at h
    simp only at h
    rw [if_neg hjoined] at h
    cases h
  -- The other arrays are not read.
  | _ => simp_all [ofItems?]

/-- What a value is read as is what the rules give from what its parts are read as. -/
theorem isReadAs_iff {expr : Json} {filter : Filter} :
    IsReadAs expr filter ↔ Rule IsReadAs expr filter := by
  constructor
  · intro h
    rw [IsReadAs] at h
    fun_cases ofJson? expr with
    | case1 name hname =>
      rw [ofJson?, if_pos hname] at h
      cases h
      exact .field hname
    | case2 name hname =>
      rw [ofJson?, if_neg hname] at h
      cases h
    | case3 items =>
      rw [ofJson?] at h
      exact rule_of_ofItems h
    | case4 => simp_all [ofJson?]
  · intro h
    cases h with
    | field hname => simp [IsReadAs, ofJson?, hname]
    | wrapped hpart => exact hpart
    | negation hpart =>
      rw [IsReadAs] at hpart
      simp [IsReadAs, ofJson?, ofItems?, hpart]
    | chain hrest htokens hparts hoperands =>
      rw [IsReadAs, ofJson_joined _ hrest fun p hp => Combinator.ofToken?_eq_some.mpr (htokens p hp),
        operands_iff.mp hparts, if_neg hoperands]
    | comparison hname htoken =>
      have hop := Comparison.ofToken?_eq_some.mpr htoken
      rw [IsReadAs, ofJson_comparison (Comparison.combinator_eq_none hop)]
      simp [comparison?, Json.string?, hop, hname]

/-- A value is read as what it derives. -/
theorem isReadAs_iff_derives (expr : Json) (filter : Filter) :
    IsReadAs expr filter ↔ Derives expr filter := by
  rw [isReadAs_iff, derives_iff]
  constructor
  · exact Rule.congr fun part hpart tree => isReadAs_iff_derives part tree
  · exact Rule.congr fun part hpart tree => (isReadAs_iff_derives part tree).symm
termination_by sizeOf expr

/-! ## The trees -/

/-- All names are field names, and no chain is empty. -/
inductive IsWellFormed : Filter → Prop where
  | field {name : String} (h : isFieldName name = true) : IsWellFormed (.field name)
  | not {operand : Filter} (h : IsWellFormed operand) : IsWellFormed (.not operand)
  | compare {name : String} {op : Comparison} {value : Json} (h : isFieldName name = true) :
      IsWellFormed (.compare name op value)
  | chain {op : Combinator} {operands : List Filter} (hoperands : operands ≠ [])
      (h : ∀ operand ∈ operands, IsWellFormed operand) : IsWellFormed (.chain op operands)

/-- What is read is well formed. -/
theorem isWellFormed_of_isReadAs {expr : Json} {filter : Filter} (h : IsReadAs expr filter) :
    filter.IsWellFormed := by
  induction hsize : sizeOf expr using Nat.strong_induction_on generalizing expr filter with
  | _ size ih =>
  subst hsize
  cases isReadAs_iff.mp h with
  | field hname => exact .field hname
  | wrapped hpart => exact ih _ (sizeOf_lt_array List.mem_cons_self) hpart rfl
  | negation hpart => exact .not (ih _ (sizeOf_lt_array (by simp)) hpart rfl)
  | chain _ _ hparts hoperands =>
    refine .chain hoperands fun operand hmem => ?_
    rw [← operands_iff.mp hparts, List.mem_filterMap] at hmem
    obtain ⟨part, hpart, hread⟩ := hmem
    exact ih _ (sizeOf_lt_array (mem_operands hpart)) hread rfl
  | comparison hname _ => exact .compare hname

mutual

/-- A value that is read as the filter. In a chain, null, which is no expression, stands before the
    operands, so that a chain of one operand can be written. -/
def toJson : Filter → Json
  | field name => .string name
  | not operand => .array [.string "!", operand.toJson]
  | compare name op value => .array [.string name, .string op.token, value]
  | chain op operands => .array (.null :: behindTokens op.token (toJsons operands))

def toJsons : List Filter → List Json
  | [] => []
  | operand :: rest => operand.toJson :: toJsons rest

end

theorem toJsons_eq_map (operands : List Filter) : toJsons operands = operands.map toJson := by
  induction operands with
  | nil => rfl
  | cons operand rest ih => rw [toJsons, ih, List.map_cons]

/-- A well-formed filter is read back as it was. -/
theorem ofJson_toJson {filter : Filter} (h : filter.IsWellFormed) :
    ofJson? filter.toJson = some filter := by
  induction h with
  | field hname => simp [toJson, ofJson?, hname]
  | not _ ih => simp [toJson, ofJson?, ofItems?, ih]
  | compare hname => exact ofJson_compare hname _ _
  | @chain op operands hoperands _ ih =>
    have hread : (Json.null :: toJsons operands).filterMap ofJson? = operands := by
      have hnull : ofJson? .null = none := rfl
      rw [List.filterMap_cons_none hnull, toJsons_eq_map, List.filterMap_map]
      conv_rhs => rw [← List.filterMap_some (l := operands)]
      exact List.filterMap_congr ih
    have hitems : toJsons operands ≠ [] := by
      rw [toJsons_eq_map]
      simpa using hoperands
    rw [toJson, ofJson_behindTokens op.ofToken?_token _ hitems, hread, if_neg hoperands]

/-- The values that are read are those that derive a tree by the rules, and each is read as that
    tree. The trees are those with field names for names and without empty chains. -/
theorem ofJson_exactly_grammar :
    (∀ expr filter, ofJson? expr = some filter ↔ Derives expr filter) ∧
      ∀ filter : Filter, filter.IsWellFormed ↔ ∃ expr, ofJson? expr = some filter :=
  ⟨isReadAs_iff_derives, fun filter =>
    ⟨fun h => ⟨filter.toJson, ofJson_toJson h⟩, fun ⟨_, h⟩ => isWellFormed_of_isReadAs h⟩⟩

end Filter

end GridQuery
