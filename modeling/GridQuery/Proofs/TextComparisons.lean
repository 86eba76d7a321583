import Mathlib
import GridQuery.Proofs.LiteralPatterns
import GridQuery.Proofs.Filtering
import GridQuery.Proofs.Narrowing
import GridQuery.Proofs.Chains

/-!
# Comparisons of text

A comparison of text becomes a pattern, and the comparison that asks for a text without another one
becomes a pattern in a frame, which is found again when documents are matched. So it is the opposite
of the comparison that asks for a text with another one. On letters, digits and spaces the
comparisons say what their names say, as long as the text is not too long for a pattern.

Results:
* `framed?_eq_some_iff`: the texts that are taken for framed ones.
* `satisfies_comparison`: the predicate of a comparison asks it of the value of its field.
* `notContains_opposes_contains`: of a text one of the two comparisons holds, unless both fail.
* `Comparison.holds_literal`: what a comparison with a literal text says of a value.
* `filterStages_textComparison`: the documents that a comparison with a literal text keeps.
-/

namespace GridQuery

open Collection (aggregate_of_reads)
open Pipeline (filterStages)

/-! ## The frame -/

/-- A text is framed if it is the frame around something. -/
theorem framed?_eq_some_iff {text inner : String} :
    framed? text = some inner ↔ text = withoutFrame.1 ++ inner ++ withoutFrame.2 := by
  constructor
  · intro h
    unfold framed? at h
    simp only [List.isPrefixOf_iff_prefix, List.isSuffixOf_iff_suffix] at h
    split_ifs at h with hopening hclosing
    obtain ⟨rest, hrest⟩ := hopening
    rw [← hrest, List.drop_left] at h hclosing
    obtain ⟨middle, rfl⟩ := hclosing
    rw [List.length_append, Nat.add_sub_cancel, List.take_left, Option.some.injEq] at h
    subst h
    apply String.toList_injective
    simp only [String.toList_append, String.toList_ofList, ← hrest, List.append_assoc]
  · rintro rfl
    exact framed_frame inner

theorem matchesPattern_of_unframed {pattern : String}
    (h : ∀ inner, pattern ≠ withoutFrame.1 ++ inner ++ withoutFrame.2) (flags : Flags)
    (text : String) :
    matchesPattern flags pattern text =
      (compilePattern flags pattern).map fun p => p.isMatch text := by
  have hframed : framed? pattern = none := by
    rw [Option.eq_none_iff_forall_ne_some]
    intro inner hinner
    exact h inner (framed?_eq_some_iff.mp hinner)
  rw [matchesPattern, hframed]

/-! ## One comparison -/

section

variable {name : String} (hname : Filter.isFieldName name = true)
  (hpart : PartField.ofName? name = none)

include hname hpart

theorem predicate_comparison (op : Comparison) (literal : Json) :
    (CompiledFilter.ofJson (.array [.string name, .string op.token, literal])).predicate =
      some (.single name (Filter.condition op literal)) := by
  rw [CompiledFilter.ofJson, CompiledFilter.after, Filter.ofJson_compare hname]
  simp only [Filter.predicate, predicateField, hpart]

omit hpart in
theorem satisfies_comparison (op : Comparison) (literal doc : Json) :
    doc.satisfies (.single name (Filter.condition op literal)) =
      op.holds literal (doc.resolve? name) := by
  rw [satisfies_single (Filter.startsWithDollar_of_isFieldName hname), meets_condition]

/-- A comparison of a field that is no part of a date takes one stage. -/
theorem reads_comparison (op : Comparison) (literal : Json) (offset : Int64) :
    Reads (filterStages (.array [.string name, .string op.token, literal]) offset)
      [.keepMatching (.single name (Filter.condition op literal))] := by
  have hstages : filterStages (.array [.string name, .string op.token, literal]) offset =
      [.single "$match" (.single name (Filter.condition op literal))] := by
    rw [filterStages, Pipeline.compiledStages, predicate_comparison hname hpart]
    have hfields : (CompiledFilter.ofJson
        (.array [.string name, .string op.token, literal])).fields = [name] := by
      rw [CompiledFilter.ofJson, CompiledFilter.after, Filter.ofJson_compare hname]
      simp [Filter.leaves, recordFields]
    simp only [hfields, List.filterMap_cons, hpart, List.filterMap_nil]
    rfl
  rw [hstages]
  exact reads_one rfl

end

/-! ## With and without -/

theorem compilePattern_cases (flags : Flags) (pattern : String) :
    (∃ compiled, compilePattern flags pattern = .ok compiled) ∨
      ∃ reason, compilePattern flags pattern = .error (.invalidPattern pattern reason) := by
  unfold compilePattern
  cases Pattern.compile flags pattern with
  | ok compiled => exact Or.inl ⟨compiled, rfl⟩
  | error reason => exact Or.inr ⟨reason, rfl⟩

/-- A text is with another one or without it, unless the other is no pattern; a value that is no
    text is neither. -/
theorem notContains_opposes_contains {name text : String} (hname : Filter.isFieldName name = true)
    (hpart : PartField.ofName? name = none)
    (htext : ∀ inner, text ≠ "^((?!" ++ inner ++ ").)*$") :
    ∃ withText withoutText,
      (CompiledFilter.ofJson (.array [.string name, .string "contains", .string text])).predicate =
        some withText ∧
      (CompiledFilter.ofJson
        (.array [.string name, .string "notcontains", .string text])).predicate =
          some withoutText ∧
      ∀ doc : Json,
        (∀ whole, doc.resolve? name = some (.string whole) →
          (∃ b, doc.satisfies withText = .ok b ∧ doc.satisfies withoutText = .ok !b) ∨
          ∃ reason, doc.satisfies withText = .error (.invalidPattern text reason) ∧
            doc.satisfies withoutText = .error (.invalidPattern text reason)) ∧
        ((∀ whole, doc.resolve? name ≠ some (.string whole)) →
          doc.satisfies withText = .ok false ∧ doc.satisfies withoutText = .ok false) := by
  refine ⟨_, _, predicate_comparison hname hpart .contains (.string text),
    predicate_comparison hname hpart .notContains (.string text), fun doc => ?_⟩
  rw [satisfies_comparison hname, satisfies_comparison hname]
  have hliteral : literalText (.string text) = text := rfl
  simp only [Comparison.holds, hliteral]
  refine ⟨fun whole hwhole => ?_, fun hnone => ?_⟩
  · rw [hwhole]
    simp only [ofText, matchesPattern_of_unframed htext]
    rcases compilePattern_cases (patternFlags "") text with ⟨compiled, hok⟩ | ⟨reason, herror⟩
    · rw [hok]
      exact Or.inl ⟨compiled.isMatch whole, rfl, rfl⟩
    · rw [herror]
      exact Or.inr ⟨reason, rfl, rfl⟩
  · have hanswer : ∀ ask, ofText ask (doc.resolve? name) = .ok false := by
      intro ask
      unfold ofText
      split
      · next whole hwhole => exact absurd hwhole (hnone whole)
      · rfl
    exact ⟨hanswer _, hanswer _⟩

theorem notContains_opposes_contains_b :
    Filter.isFieldName "title" = true ∧ PartField.ofName? "title" = none ∧
      (∀ inner, "b" ≠ "^((?!" ++ inner ++ ").)*$") ∧
      ∃ withText withoutText,
        ((∃ b, (Json.single "title" (.string "abc")).satisfies withText = .ok b ∧
            (Json.single "title" (.string "abc")).satisfies withoutText = .ok !b) ∨
          ∃ reason, (Json.single "title" (.string "abc")).satisfies withText =
              .error (.invalidPattern "b" reason) ∧
            (Json.single "title" (.string "abc")).satisfies withoutText =
              .error (.invalidPattern "b" reason)) ∧
        (Json.single "title" .null).satisfies withText = .ok false ∧
        (Json.single "title" .null).satisfies withoutText = .ok false := by
  have hname : Filter.isFieldName "title" = true := by decide
  have hpart : PartField.ofName? "title" = none := by decide
  have htext : ∀ inner, "b" ≠ "^((?!" ++ inner ++ ").)*$" := by
    intro inner h
    have hlength := congrArg String.length h
    rw [String.length_append, String.length_append] at hlength
    have hone : "b".length = 1 := rfl
    have hfive : "^((?!".length = 5 := rfl
    omega
  have htitle : ∀ value, (Json.single "title" value).resolve? "title" = some value := by
    intro value
    rw [resolve?_of_noPoint (by unfold HasNoPoint; decide)]
    rfl
  obtain ⟨withText, withoutText, -, -, hall⟩ := notContains_opposes_contains hname hpart htext
  refine ⟨hname, hpart, htext, withText, withoutText, ?_, ?_⟩
  · exact (hall (.single "title" (.string "abc"))).1 "abc" (htitle _)
  · refine (hall (.single "title" .null)).2 fun whole hwhole => ?_
    rw [htitle] at hwhole
    cases hwhole

/-! ## Literal texts -/

namespace Comparison

/-- Where a comparison of text looks for its text. -/
def place : Comparison → Place
  | startsWith => .atStart
  | endsWith => .atEnd
  | _ => .anywhere

/-- What a comparison of text says of its text and the text of a field. -/
def Says : Comparison → (text whole : String) → Prop
  | startsWith, text, whole => text.toList <+: whole.toList
  | endsWith, text, whole => text.toList <:+ whole.toList
  | contains, text, whole => text.toList <:+: whole.toList
  | notContains, text, whole => ¬text.toList <:+: whole.toList
  | _, _, _ => False

instance : (op : Comparison) → (text whole : String) → Decidable (op.Says text whole)
  | startsWith, text, whole => inferInstanceAs (Decidable (text.toList <+: whole.toList))
  | endsWith, text, whole => inferInstanceAs (Decidable (text.toList <:+ whole.toList))
  | contains, text, whole => inferInstanceAs (Decidable (text.toList <:+: whole.toList))
  | notContains, text, whole => inferInstanceAs (Decidable ¬text.toList <:+: whole.toList)
  | eq, _, _ | ne, _, _ | gt, _, _ | gte, _, _ | lt, _, _ | lte, _, _ => isFalse id

/-- The pattern that a comparison of text comes to. -/
def searched (op : Comparison) (text : String) : String :=
  String.ofList (op.place.row text.toList)

end Comparison

/-- A row of literal characters and anchors is not framed. -/
theorem unframed_of_isRowChar {pattern : String} (h : ∀ c ∈ pattern.toList, isRowChar c = true)
    (inner : String) : pattern ≠ withoutFrame.1 ++ inner ++ withoutFrame.2 := by
  rintro rfl
  have hparenthesis : '(' ∈ (withoutFrame.1 ++ inner ++ withoutFrame.2).toList := by
    simp only [String.toList_append, List.mem_append]
    exact Or.inl (Or.inl (by decide))
  exact absurd (h _ hparenthesis) (by decide)

theorem compilePattern_searched {text : String} (h : IsLiteral text) (op : Comparison) :
    compilePattern (patternFlags "") (op.searched text) =
      if text.length ≤ op.place.longest then .ok (.rowAt op.place text.toList)
      else .error (.invalidPattern (op.searched text) .tooLarge) := by
  have hflags : patternFlags "" = {} := by simp [patternFlags]
  rw [compilePattern, hflags, Comparison.searched, Pattern.compile_row h, String.length_toList]
  split_ifs <;> rfl

theorem searched_startsWith (text : String) :
    Comparison.startsWith.searched text = "^" ++ text := by
  apply String.toList_injective
  rw [Comparison.searched, String.toList_ofList, String.toList_append]
  rfl

theorem searched_endsWith (text : String) : Comparison.endsWith.searched text = text ++ "$" := by
  apply String.toList_injective
  rw [Comparison.searched, String.toList_ofList, String.toList_append]
  rfl

theorem searched_anywhere {op : Comparison} (h : op.place = .anywhere) (text : String) :
    op.searched text = text := by
  rw [Comparison.searched, h, Place.row, String.ofList_toList]

section

variable {text : String} (h : IsLiteral text)

include h

theorem isMatch_rowAt_eq (place : Place) (whole : String) :
    (Pattern.rowAt place text.toList).isMatch whole =
      decide (place.Holds text.toList whole.toList) := by
  rw [Bool.eq_iff_iff, Pattern.isMatch_rowAt h, decide_eq_true_eq]

theorem matchesPattern_searched (op : Comparison) (whole : String) :
    matchesPattern (patternFlags "") (op.searched text) whole =
      if text.length ≤ op.place.longest then
        .ok (decide (op.place.Holds text.toList whole.toList))
      else .error (.invalidPattern (op.searched text) .tooLarge) := by
  have hrow : ∀ c ∈ (op.searched text).toList, isRowChar c = true := by
    rw [Comparison.searched, String.toList_ofList]
    exact isRowChar_row h op.place
  rw [matchesPattern_of_unframed (unframed_of_isRowChar hrow), compilePattern_searched h,
    ← isMatch_rowAt_eq h]
  split_ifs <;> rfl

/-- What a comparison with a literal text says of a value: only a text answers, and none does if the
    literal is too long for a pattern. -/
theorem Comparison.holds_literal {op : Comparison} (hop : op.keyword? = none)
    (value : Option Json) :
    op.holds (.string text) value = ofText (fun whole =>
      if text.length ≤ op.place.longest then .ok (decide (op.Says text whole))
      else .error (.invalidPattern (op.searched text) .tooLarge)) value := by
  have hliteral : literalText (.string text) = text := rfl
  cases op with
  | startsWith =>
    simp only [holds, hliteral, ← searched_startsWith]
    exact congrArg (ofText · value) (funext (matchesPattern_searched h startsWith))
  | endsWith =>
    simp only [holds, hliteral, ← searched_endsWith]
    exact congrArg (ofText · value) (funext (matchesPattern_searched h endsWith))
  | contains =>
    have hsearched := funext (matchesPattern_searched h contains)
    rw [searched_anywhere rfl] at hsearched ⊢
    exact congrArg (ofText · value) hsearched
  | notContains =>
    have hcompile := compilePattern_searched h notContains
    rw [searched_anywhere rfl] at hcompile ⊢
    have hnot : ∀ whole, (!(Pattern.rowAt .anywhere text.toList).isMatch whole) =
        decide (notContains.Says text whole) := by
      intro whole
      rw [isMatch_rowAt_eq h, ← decide_not]
      rfl
    simp only [holds, hliteral, hcompile]
    congr 1
    funext whole
    split_ifs
    · exact congrArg Except.ok (hnot whole)
    · rfl
  | eq | ne | gt | gte | lt | lte => cases hop

end

/-! ## The documents that are kept -/

/-- The text of a field, if it has one. -/
def Json.textAt? (doc : Json) (path : String) : Option String := (doc.resolve? path).bind string?

theorem ofText_eq (ask : String → Except CollectionError Bool) (doc : Json) (name : String) :
    ofText ask (doc.resolve? name) = ((doc.textAt? name).map ask).getD (.ok false) := by
  rw [Json.textAt?]
  rcases doc.resolve? name with _ | value
  · rfl
  · cases value <;> rfl

/-- Where every text fails, matching fails at the first of them. -/
theorem matching_of_refused {predicate : Json} (e : CollectionError) (hasText : Json → Bool)
    {docs : List Json}
    (h : ∀ doc ∈ docs, doc.satisfies predicate = if hasText doc then .error e else .ok false) :
    matching predicate docs = if docs.any hasText then .error e else .ok [] := by
  induction docs with
  | nil => rfl
  | cons doc rest ih =>
    have hdoc := h doc List.mem_cons_self
    have hrest := ih fun d hd => h d (List.mem_cons_of_mem _ hd)
    rw [matching, hdoc, List.any_cons]
    cases hasText doc with
    | true => rfl
    | false =>
      rw [hrest]
      cases rest.any hasText <;> rfl

section

variable {name text : String} {op : Comparison} (hname : Filter.isFieldName name = true)
  (hpart : PartField.ofName? name = none) (hop : op.keyword? = none) (h : IsLiteral text)

include hname hpart hop h

theorem aggregate_of_short (hlength : text.length ≤ op.place.longest) (docs : List Json)
    (offset : Int64) :
    (Collection.mk docs).aggregate
        (filterStages (.array [.string name, .string op.token, .string text]) offset) =
      .ok (docs.filter fun doc => (doc.textAt? name).any fun whole => op.Says text whole) := by
  rw [aggregate_of_reads (reads_comparison hname hpart op _ offset)]
  refine run_matchStages (Filter.startsWithDollar_of_isFieldName hname) fun doc _ => ?_
  rw [meets_condition, Comparison.holds_literal h hop, ofText_eq]
  simp only [if_pos hlength]
  cases doc.textAt? name <;> rfl

theorem aggregate_of_long (hlength : op.place.longest < text.length) (docs : List Json)
    (offset : Int64) :
    (Collection.mk docs).aggregate
        (filterStages (.array [.string name, .string op.token, .string text]) offset) =
      if docs.any fun doc => (doc.textAt? name).isSome then
        .error (.error (.invalidPattern (op.searched text) .tooLarge))
      else .ok [] := by
  rw [aggregate_of_reads (reads_comparison hname hpart op _ offset), Collection.runStages_one,
    Stage.run, matching_of_refused (.invalidPattern (op.searched text) .tooLarge)
      (fun doc => (doc.textAt? name).isSome)]
  · split_ifs <;> rfl
  · intro doc _
    rw [satisfies_comparison hname, Comparison.holds_literal h hop, ofText_eq]
    simp only [if_neg (Nat.not_le.mpr hlength)]
    cases doc.textAt? name <;> rfl

end

/-- A comparison with a literal text keeps the documents of whose text it holds, as they are and in
    order. A literal that is too long for a pattern is refused as soon as there is a text. -/
theorem filterStages_textComparison {name text : String} {op : Comparison}
    (hname : Filter.isFieldName name = true) (hpart : PartField.ofName? name = none)
    (hop : op.keyword? = none) (h : IsLiteral text) (docs : List Json) (offset : Int64) :
    (Collection.mk docs).aggregate
        (filterStages (.array [.string name, .string op.token, .string text]) offset) =
      if text.length ≤ op.place.longest then
        .ok (docs.filter fun doc => (doc.textAt? name).any fun whole => op.Says text whole)
      else if docs.any fun doc => (doc.textAt? name).isSome then
        .error (.error (.invalidPattern (op.searched text) .tooLarge))
      else .ok [] := by
  by_cases hlength : text.length ≤ op.place.longest
  · rw [if_pos hlength]
    exact aggregate_of_short hname hpart hop h hlength docs offset
  · rw [if_neg hlength]
    exact aggregate_of_long hname hpart hop h (Nat.not_le.mp hlength) docs offset

/-- Two documents with texts, one of several lines. -/
def titled : List Json :=
  [.single "title" (.string "on\nthe road"), .single "title" (.string "home"),
    .single "title" .null]

theorem filterStages_titled :
    Filter.isFieldName "title" = true ∧ PartField.ofName? "title" = none ∧
      Comparison.endsWith.keyword? = none ∧ IsLiteral "the road" ∧
      (Collection.mk titled).aggregate
          (filterStages (.array [.string "title", .string "endswith", .string "the road"]) 0) =
        .ok [.single "title" (.string "on\nthe road")] := by
  have hname : Filter.isFieldName "title" = true := by decide
  have hpart : PartField.ofName? "title" = none := by decide
  have hliteral : IsLiteral "the road" := by decide
  refine ⟨hname, hpart, rfl, hliteral, ?_⟩
  have hstages : (Collection.mk titled).aggregate (filterStages (.array [.string "title",
      .string Comparison.endsWith.token, .string "the road"]) 0) = _ :=
    filterStages_textComparison hname hpart rfl hliteral titled 0
  have hlength : "the road".length ≤ Comparison.endsWith.place.longest := by
    have hlongest : Comparison.endsWith.place.longest = 327672 := rfl
    have height : "the road".length = 8 := rfl
    omega
  rw [if_pos hlength] at hstages
  refine hstages.trans (congrArg Except.ok ?_)
  decide

/-- One letter so many times. -/
def oneLetter (n : Nat) : String := String.ofList (List.replicate n 'a')

theorem isLiteral_oneLetter (n : Nat) : IsLiteral (oneLetter n) := by
  intro c hc
  rw [oneLetter, String.toList_ofList] at hc
  rw [List.eq_of_mem_replicate hc]
  rfl

theorem length_oneLetter (n : Nat) : (oneLetter n).length = n := by
  rw [oneLetter, String.length_ofList, List.length_replicate]

/-- A text that is too long is refused, though it could not be in the document. -/
theorem filterStages_oneLetter :
    Filter.isFieldName "f" = true ∧ PartField.ofName? "f" = none ∧ IsLiteral (oneLetter 400000) ∧
      (Collection.mk [.single "f" (.string "b")]).aggregate
          (filterStages (.array [.string "f", .string "contains", .string (oneLetter 400000)]) 0) ≠
        .ok ([Json.single "f" (.string "b")].filter fun doc => (doc.textAt? "f").any fun whole =>
          Comparison.contains.Says (oneLetter 400000) whole) := by
  have hname : Filter.isFieldName "f" = true := by decide
  have hpart : PartField.ofName? "f" = none := by decide
  have hlong : ∀ n, 327673 < n → Comparison.contains.place.longest < (oneLetter n).length := by
    intro n hn
    rw [length_oneLetter]
    exact hn
  generalize hn : 400000 = n
  have hliteral := isLiteral_oneLetter n
  have hstages : (Collection.mk [.single "f" (.string "b")]).aggregate (filterStages (.array
      [.string "f", .string Comparison.contains.token, .string (oneLetter n)]) 0) = _ :=
    aggregate_of_long hname hpart rfl hliteral (hlong n (by omega)) [.single "f" (.string "b")] 0
  have hany : [Json.single "f" (.string "b")].any (fun doc => (doc.textAt? "f").isSome) = true := by
    decide
  rw [if_pos hany] at hstages
  refine ⟨hname, hpart, hliteral, fun heq => ?_⟩
  rw [show Comparison.contains.token = "contains" from rfl, heq] at hstages
  cases hstages

end GridQuery
