import Mathlib
import GridQuery.Collection.Condition
import GridQuery.Filter.Predicate
import GridQuery.Proofs.Conditions

/-!
# What a filter says

A filter is read directly as a condition on the values of its fields: comparisons with literals,
joined and negated as the tree has it. The predicate document says the same of any document in which
the fields have these values.

Results:
* `Filter.holds`: the direct reading of a filter.
* `Filter.holds_error`: only a pattern that is not valid keeps a filter from having an answer.
* `Filter.exists_holds`: a filter that compares no text has an answer.
* `satisfies_predicate`: a document satisfies the predicate of a filter as the filter says.
-/

namespace GridQuery

/-! ## Comparisons -/

/-- The text that a comparison of text compares with: a literal that is no text is taken as it is
    written. -/
def literalText (literal : Json) : String := literal.string?.getD literal.text

/-- A value is a text of which something is asked; no other value answers. -/
def ofText (ask : String → Except CollectionError Bool) (value : Option Json) :
    Except CollectionError Bool :=
  match value with
  | some (.string text) => ask text
  | _ => .ok false

/-- A value compares with a literal. The comparisons of text take the literal as a pattern, which
    has to be at one end of the text, or anywhere in it, or nowhere. -/
def Comparison.holds (op : Comparison) (literal : Json) (value : Option Json) :
    Except CollectionError Bool :=
  let flags := patternFlags ""
  let pattern := literalText literal
  match op with
  | .eq => .ok (equalsOperand value literal)
  | .ne => .ok !(equalsOperand value literal)
  | .gt => .ok (inOrder (fun order => order = .gt) value literal)
  | .gte => .ok (inOrder (fun order => order ≠ .lt) value literal)
  | .lt => .ok (inOrder (fun order => order = .lt) value literal)
  | .lte => .ok (inOrder (fun order => order ≠ .gt) value literal)
  | .startsWith => ofText (matchesPattern flags ("^" ++ pattern)) value
  | .endsWith => ofText (matchesPattern flags (pattern ++ "$")) value
  | .contains => ofText (matchesPattern flags pattern) value
  | .notContains =>
    ofText (fun text => (compilePattern flags pattern).map fun p => !p.isMatch text) value

theorem compilePattern_error {flags : Flags} {pattern : String} {e : CollectionError}
    (h : compilePattern flags pattern = .error e) :
    ∃ pattern reason, e = .invalidPattern pattern reason := by
  unfold compilePattern at h
  cases hreason : Pattern.compile flags pattern with
  | error reason =>
    rw [hreason] at h
    exact ⟨pattern, reason, (Except.error.inj h).symm⟩
  | ok compiled =>
    rw [hreason] at h
    cases h

theorem map_compilePattern_error {flags : Flags} {pattern : String} {ask : Pattern → Bool}
    {e : CollectionError} (h : (compilePattern flags pattern).map ask = .error e) :
    ∃ pattern reason, e = .invalidPattern pattern reason := by
  cases hc : compilePattern flags pattern with
  | error e' =>
    rw [hc] at h
    cases h
    exact compilePattern_error hc
  | ok compiled =>
    rw [hc] at h
    cases h

theorem matchesPattern_error {flags : Flags} {pattern text : String} {e : CollectionError}
    (h : matchesPattern flags pattern text = .error e) :
    ∃ pattern reason, e = .invalidPattern pattern reason := by
  unfold matchesPattern at h
  split at h <;> exact map_compilePattern_error h

/-- A pattern that is not valid is all that keeps a comparison from having an answer. -/
theorem Comparison.holds_error {op : Comparison} {literal : Json} {value : Option Json}
    {e : CollectionError} (h : op.holds literal value = .error e) :
    ∃ pattern reason, e = .invalidPattern pattern reason := by
  have hask : ∀ {ask : String → Except CollectionError Bool},
      (∀ text, ask text = .error e → ∃ pattern reason, e = .invalidPattern pattern reason) →
        ofText ask value = .error e → ∃ pattern reason, e = .invalidPattern pattern reason := by
    intro ask hask h
    unfold ofText at h
    split at h
    · exact hask _ h
    · cases h
  cases op with
  | startsWith => exact hask (fun _ => matchesPattern_error) h
  | endsWith => exact hask (fun _ => matchesPattern_error) h
  | contains => exact hask (fun _ => matchesPattern_error) h
  | notContains => exact hask (fun _ => map_compilePattern_error) h
  | _ => cases h

/-! ## Trees -/

namespace Filter

mutual

/-- What a filter says where its fields have the given values. A field alone asks for true; the
    operands of a chain are looked at from the left, until one decides. -/
def holds (leaf : String → Option Json) : Filter → Except CollectionError Bool
  | field name => .ok (equalsOperand (leaf name) (.bool true))
  | not operand => do return !(← holds leaf operand)
  | compare name op literal => op.holds literal (leaf name)
  | chain .and operands => everyHolds leaf operands
  | chain .or operands => someHolds leaf operands

def everyHolds (leaf : String → Option Json) : List Filter → Except CollectionError Bool
  | [] => .ok true
  | operand :: rest => do if ← holds leaf operand then everyHolds leaf rest else return false

def someHolds (leaf : String → Option Json) : List Filter → Except CollectionError Bool
  | [] => .ok false
  | operand :: rest => do if ← holds leaf operand then return true else someHolds leaf rest

end

mutual

/-- Only a pattern that is not valid keeps a filter from having an answer. -/
theorem holds_error {leaf : String → Option Json} {e : CollectionError} : (filter : Filter) →
    filter.holds leaf = .error e → ∃ pattern reason, e = .invalidPattern pattern reason
  | field name, h => by cases h
  | not operand, h => by
    rw [holds] at h
    cases hoperand : operand.holds leaf with
    | error e' =>
      rw [hoperand] at h
      cases h
      exact holds_error operand hoperand
    | ok b =>
      rw [hoperand] at h
      cases h
  | compare name op literal, h => Comparison.holds_error h
  | chain .and operands, h => everyHolds_error operands h
  | chain .or operands, h => someHolds_error operands h

theorem everyHolds_error {leaf : String → Option Json} {e : CollectionError} :
    (operands : List Filter) → everyHolds leaf operands = .error e →
      ∃ pattern reason, e = .invalidPattern pattern reason
  | [], h => by cases h
  | operand :: rest, h => by
    rw [everyHolds] at h
    cases hoperand : operand.holds leaf with
    | error e' =>
      rw [hoperand] at h
      cases h
      exact holds_error operand hoperand
    | ok b =>
      rw [hoperand] at h
      cases b with
      | true => exact everyHolds_error rest h
      | false => cases h

theorem someHolds_error {leaf : String → Option Json} {e : CollectionError} :
    (operands : List Filter) → someHolds leaf operands = .error e →
      ∃ pattern reason, e = .invalidPattern pattern reason
  | [], h => by cases h
  | operand :: rest, h => by
    rw [someHolds] at h
    cases hoperand : operand.holds leaf with
    | error e' =>
      rw [hoperand] at h
      cases h
      exact holds_error operand hoperand
    | ok b =>
      rw [hoperand] at h
      cases b with
      | true => cases h
      | false => exact someHolds_error rest h

end

mutual

/-- The comparisons of a filter, from left to right. -/
def comparisons : Filter → List Comparison
  | field _ => []
  | not operand => comparisons operand
  | compare _ op _ => [op]
  | chain _ operands => comparisonsOf operands

def comparisonsOf : List Filter → List Comparison
  | [] => []
  | operand :: rest => comparisons operand ++ comparisonsOf rest

end

/-- No text is compared: all comparisons are by order. -/
def ComparesByOrder (comparisons : List Comparison) : Prop :=
  ∀ op ∈ comparisons, op.keyword?.isSome = true

theorem ComparesByOrder.append {first second : List Comparison}
    (h : ComparesByOrder (first ++ second)) : ComparesByOrder first ∧ ComparesByOrder second :=
  List.forall_mem_append.mp h

theorem exists_holds_comparison {op : Comparison} (h : op.keyword?.isSome = true) (literal : Json)
    (value : Option Json) : ∃ b, op.holds literal value = .ok b := by
  cases op <;> first | exact ⟨_, rfl⟩ | cases h

mutual

/-- A filter that compares no text has an answer, whatever values its fields have. -/
theorem exists_holds (leaf : String → Option Json) : (filter : Filter) →
    ComparesByOrder filter.comparisons → ∃ b, filter.holds leaf = .ok b
  | field name, _ => ⟨_, rfl⟩
  | not operand, h => by
    obtain ⟨b, hb⟩ := exists_holds leaf operand h
    exact ⟨!b, by rw [holds, hb]; rfl⟩
  | compare name op literal, h =>
    exists_holds_comparison (h op (List.mem_singleton_self op)) literal (leaf name)
  | chain .and operands, h => exists_everyHolds leaf operands h
  | chain .or operands, h => exists_someHolds leaf operands h

theorem exists_everyHolds (leaf : String → Option Json) : (operands : List Filter) →
    ComparesByOrder (comparisonsOf operands) → ∃ b, everyHolds leaf operands = .ok b
  | [], _ => ⟨true, rfl⟩
  | operand :: rest, h => by
    obtain ⟨b, hb⟩ := exists_holds leaf operand h.append.1
    rw [everyHolds, hb]
    cases b with
    | true => exact exists_everyHolds leaf rest h.append.2
    | false => exact ⟨false, rfl⟩

theorem exists_someHolds (leaf : String → Option Json) : (operands : List Filter) →
    ComparesByOrder (comparisonsOf operands) → ∃ b, someHolds leaf operands = .ok b
  | [], _ => ⟨false, rfl⟩
  | operand :: rest, h => by
    obtain ⟨b, hb⟩ := exists_holds leaf operand h.append.1
    rw [someHolds, hb]
    cases b with
    | true => exact ⟨true, rfl⟩
    | false => exact exists_someHolds leaf rest h.append.2

end

end Filter

/-! ## The predicate of a filter -/

/-- The frame around a pattern is found again. -/
theorem framed_frame (pattern : String) :
    framed? (withoutFrame.1 ++ pattern ++ withoutFrame.2) = some pattern := by
  have hprefix : withoutFrame.1.toList.isPrefixOf
      (withoutFrame.1.toList ++ (pattern.toList ++ withoutFrame.2.toList)) = true :=
    List.isPrefixOf_iff_prefix.mpr (List.prefix_append _ _)
  have hsuffix : withoutFrame.2.toList.isSuffixOf
      (pattern.toList ++ withoutFrame.2.toList) = true :=
    List.isSuffixOf_iff_suffix.mpr (List.suffix_append _ _)
  simp only [framed?, String.toList_append, List.append_assoc]
  rw [if_pos hprefix, List.drop_left, if_pos hsuffix, List.length_append, Nat.add_sub_cancel,
    List.take_left, String.ofList_toList]

/-- A pattern in the frame matches the texts in which there is no match of it. -/
theorem matchesPattern_framed (flags : Flags) (pattern text : String) :
    matchesPattern flags (withoutFrame.1 ++ pattern ++ withoutFrame.2) text =
      (compilePattern flags pattern).map fun p => !p.isMatch text := by
  rw [matchesPattern, framed_frame]

theorem operators_single {name : String} (h : startsWithDollar name = true)
    (hdate : name ≠ "$date") (operand : Json) :
    operators? (.single name operand) = some [(name, operand)] := by
  simp [operators?, Json.single, h, Entries.contains, Entries.get?, hdate]

theorem meets_single {name : String} (h : startsWithDollar name = true) (hdate : name ≠ "$date")
    (hoptions : name ≠ "$options") (value : Option Json) (operand : Json) :
    meets value (.single name operand) = holdsOperator "" value name operand := by
  have hletters : ((Entries.get? "$options" [(name, operand)]).bind Json.string?).getD "" = "" := by
    simp [Entries.get?, hoptions]
  rw [meets, operators_single h hdate]
  simp only [hletters, allHold]
  cases holdsOperator "" value name operand with
  | error e => rfl
  | ok b => cases b <;> rfl

/-- The condition of a comparison of text. -/
theorem meets_pattern (value : Option Json) (pattern : String) :
    meets value (.object [("$regex", .string pattern), ("$options", .string "")]) =
      ofText (matchesPattern (patternFlags "") pattern) value := by
  have hoperators : operators? (.object [("$regex", .string pattern), ("$options", .string "")]) =
      some [("$regex", .string pattern), ("$options", .string "")] := by
    simp [operators?, startsWithDollar, Entries.contains, Entries.get?]
  have hletters : ((Entries.get? "$options"
      [("$regex", .string pattern), ("$options", .string "")]).bind Json.string?).getD "" = "" := by
    simp [Entries.get?, Json.string?]
  rw [meets, hoperators]
  simp only [hletters, allHold, holdsOperator]
  have hask : matchesOperand (patternFlags "") value (.string pattern) =
      ofText (matchesPattern (patternFlags "") pattern) value := by
    rcases value with _ | v
    · rfl
    · cases v <;> rfl
  rw [hask]
  cases ofText (matchesPattern (patternFlags "") pattern) value with
  | error e => rfl
  | ok b => cases b <;> rfl

/-- A condition holds as its comparison says, whatever the literal is. -/
theorem meets_condition (op : Comparison) (literal : Json) (value : Option Json) :
    meets value (Filter.condition op literal) = op.holds literal value := by
  cases op with
  | startsWith => exact meets_pattern value _
  | endsWith => exact meets_pattern value _
  | contains => exact meets_pattern value _
  | notContains =>
    have hmatches : matchesPattern (patternFlags "") ("^((?!" ++ literalText literal ++ ").)*$") =
        fun text => (compilePattern (patternFlags "") (literalText literal)).map fun p =>
          !p.isMatch text := by
      funext text
      exact matchesPattern_framed (patternFlags "") (literalText literal) text
    exact (meets_pattern value _).trans (congrArg (ofText · value) hmatches)
  | _ => exact meets_single (by rfl) (by decide) (by decide) value literal

theorem satisfies_and (doc : Json) (predicates : List Json) :
    doc.satisfies (.single "$and" (.array predicates)) = doc.satisfiesEach predicates := by
  simp only [Json.single, Json.satisfies, Json.satisfiesClauses, if_true, Json.satisfiesAll]
  cases doc.satisfiesEach predicates with
  | error e => rfl
  | ok b => cases b <;> rfl

theorem satisfies_or (doc : Json) (predicates : List Json) :
    doc.satisfies (.single "$or" (.array predicates)) = doc.satisfiesSome predicates := by
  simp only [Json.single, Json.satisfies, Json.satisfiesClauses, if_true, Json.satisfiesAny,
    show ¬"$or" = "$and" by decide, if_false]
  cases doc.satisfiesSome predicates with
  | error e => rfl
  | ok b => cases b <;> rfl

theorem satisfies_nor_one (doc predicate : Json) :
    doc.satisfies (.single "$nor" (.array [predicate])) =
      do return !(← doc.satisfies predicate) := by
  simp only [Json.single, Json.satisfies, Json.satisfiesClauses, if_true, Json.satisfiesAny,
    Json.satisfiesSome, show ¬"$nor" = "$and" by decide, show ¬"$nor" = "$or" by decide, if_false]
  cases doc.satisfies predicate with
  | error e => rfl
  | ok b => cases b <;> rfl

namespace Filter

/-- The fields that a predicate looks at have the values of the leaves. -/
def Fits (doc : Json) (leaf : String → Option Json) (names : List String) : Prop :=
  ∀ name ∈ names, startsWithDollar (predicateField name) = false ∧
    doc.resolve? (predicateField name) = leaf name

mutual

/-- A document satisfies the predicate of a filter as the filter says, if its fields have the values
    of the filter's leaves. -/
theorem satisfies_predicate {doc : Json} {leaf : String → Option Json} : (filter : Filter) →
    Fits doc leaf filter.leaves → doc.satisfies filter.predicate = filter.holds leaf
  | field name, h => by
    obtain ⟨hdollar, hleaf⟩ := h name (by simp [leaves])
    rw [predicate, satisfies_single hdollar, hleaf,
      meets_single (by rfl) (by decide) (by decide)]
    rfl
  | not operand, h => by
    rw [predicate, satisfies_nor_one,
      satisfies_predicate operand fun name hname => h name (by simpa [leaves] using hname), holds]
  | compare name op literal, h => by
    obtain ⟨hdollar, hleaf⟩ := h name (by simp [leaves])
    rw [predicate, satisfies_single hdollar, hleaf, meets_condition]
    rfl
  | chain .and operands, h => by
    rw [predicate, holds, ← satisfiesEach_predicates operands fun name hname =>
      h name (by simpa [leaves] using hname)]
    exact satisfies_and doc _
  | chain .or operands, h => by
    rw [predicate, holds, ← satisfiesSome_predicates operands fun name hname =>
      h name (by simpa [leaves] using hname)]
    exact satisfies_or doc _

theorem satisfiesEach_predicates {doc : Json} {leaf : String → Option Json} :
    (operands : List Filter) → Fits doc leaf (leavesOf operands) →
      doc.satisfiesEach (predicates operands) = everyHolds leaf operands
  | [], _ => rfl
  | operand :: rest, h => by
    rw [predicates, Json.satisfiesEach, everyHolds,
      satisfies_predicate operand fun name hname => h name (by simp [leavesOf, hname]),
      satisfiesEach_predicates rest fun name hname => h name (by simp [leavesOf, hname])]

theorem satisfiesSome_predicates {doc : Json} {leaf : String → Option Json} :
    (operands : List Filter) → Fits doc leaf (leavesOf operands) →
      doc.satisfiesSome (predicates operands) = someHolds leaf operands
  | [], _ => rfl
  | operand :: rest, h => by
    rw [predicates, Json.satisfiesSome, someHolds,
      satisfies_predicate operand fun name hname => h name (by simp [leavesOf, hname]),
      satisfiesSome_predicates rest fun name hname => h name (by simp [leavesOf, hname])]

end

end Filter

end GridQuery
