import Mathlib
import GridQuery.Filter.Basic

/-!
# Comparisons and chains as they are written

A comparison is written as a field, a token and a value, and a chain with the same token between any
two of its operands. What is no operand is left out of the chain.

Results:
* `ofJson_comparison`: what a field, a token and a value are read as, if the token is of no chain.
* `ofJson_compare`: a comparison of a field name is read as it is written.
* `ofJson_joined`: what expressions with tokens of one chain between them are read as.
* `ofJson_chain`: the same, if all the tokens are one.
-/

namespace GridQuery

namespace Combinator

/-- A token names a combinator if it is the combinator's own in some case of letters. -/
theorem ofToken?_eq_some {token : String} {op : Combinator} :
    ofToken? token = some op ↔ token.map Char.toLower = op.token := by
  constructor
  · intro h
    rw [ofToken?] at h
    have hfound := List.find?_some h
    exact (of_decide_eq_true hfound).symm
  · intro h
    rw [ofToken?, h]
    cases op <;> decide

theorem ofToken?_token (op : Combinator) : ofToken? op.token = some op := by
  cases op <;> decide +kernel

end Combinator

namespace Comparison

/-- A token names a comparison if it is the comparison's own in some case of letters. -/
theorem ofToken?_eq_some {token : String} {op : Comparison} :
    ofToken? token = some op ↔ token.map Char.toLower = op.token := by
  constructor
  · intro h
    rw [ofToken?] at h
    have hfound := List.find?_some h
    exact (of_decide_eq_true hfound).symm
  · intro h
    rw [ofToken?, h]
    cases op <;> decide

theorem ofToken?_token (op : Comparison) : ofToken? op.token = some op := by
  cases op <;> decide +kernel

/-- No token of a comparison joins a chain. -/
theorem combinator_eq_none {token : String} {op : Comparison} (h : ofToken? token = some op) :
    Combinator.ofToken? token = none := by
  rw [Combinator.ofToken?, ofToken?_eq_some.mp h]
  cases op <;> decide +kernel

end Comparison

namespace Filter

/-- A comparison as it is written. -/
theorem ofJson_comparison {token : String} (htoken : Combinator.ofToken? token = none)
    (name : String) (value : Json) :
    ofJson? (.array [.string name, .string token, value]) =
      comparison? (.string name) token value := by
  simp [ofJson?, ofItems?, htoken]

/-- A comparison of a field name is read as it is written. -/
theorem ofJson_compare {name : String} (h : isFieldName name = true) (op : Comparison)
    (value : Json) :
    ofJson? (.array [.string name, .string op.token, value]) = some (.compare name op value) := by
  rw [ofJson_comparison (Comparison.combinator_eq_none op.ofToken?_token)]
  simp [comparison?, Json.string?, op.ofToken?_token, h]

/-- What follows the first operand of a chain: tokens, each with an operand behind it. -/
def behind (parts : List (String × Json)) : List Json :=
  parts.flatMap fun p => [.string p.1, p.2]

theorem behind_cons (token : String) (item : Json) (parts : List (String × Json)) :
    behind ((token, item) :: parts) = .string token :: item :: behind parts :=
  rfl

theorem length_behind (parts : List (String × Json)) :
    (behind parts).length = 2 * parts.length := by
  induction parts with
  | nil => rfl
  | cons p parts ih =>
    rw [behind_cons, List.length_cons, List.length_cons, ih, List.length_cons]
    omega

theorem operandsAfter_behind (parts : List (String × Json)) :
    operandsAfter (behind parts) = (parts.map Prod.snd).filterMap ofJson? := by
  induction parts with
  | nil => simp [behind, operandsAfter]
  | cons p parts ih =>
    rw [behind_cons, operandsAfter, ih, List.map_cons]
    cases hitem : ofJson? p.2 with
    | none => rw [List.filterMap_cons_none hitem]; rfl
    | some operand => rw [List.filterMap_cons_some hitem]; rfl

theorem allJoinedBy_behind {op : Combinator} {parts : List (String × Json)}
    (htokens : ∀ p ∈ parts, Combinator.ofToken? p.1 = some op) :
    allJoinedBy op (behind parts) = true := by
  induction parts with
  | nil => rfl
  | cons p parts ih =>
    rw [behind_cons, allJoinedBy]
    simp [Json.string?, htokens p List.mem_cons_self,
      ih fun q hq => htokens q (List.mem_cons_of_mem p hq)]

/-- Expressions with tokens of one combinator between them are a chain of those that can be
    read. -/
theorem ofJson_joined {op : Combinator} (first : Json) {rest : List (String × Json)}
    (hrest : rest ≠ []) (htokens : ∀ p ∈ rest, Combinator.ofToken? p.1 = some op) :
    ofJson? (.array (first :: behind rest)) =
      if (first :: rest.map Prod.snd).filterMap ofJson? = [] then none
      else some (.chain op ((first :: rest.map Prod.snd).filterMap ofJson?)) := by
  obtain ⟨⟨token, second⟩, rest, rfl⟩ := List.exists_cons_of_ne_nil hrest
  have heven : ¬(behind rest).length % 2 = 1 := by
    rw [length_behind]
    omega
  have hoperands : (ofJson? first).toList ++ (ofJson? second).toList ++
      operandsAfter (behind rest) =
        (first :: second :: rest.map Prod.snd).filterMap ofJson? := by
    rw [operandsAfter_behind]
    cases hfirst : ofJson? first <;> cases hsecond : ofJson? second <;>
      simp [hfirst, hsecond]
  rw [behind_cons, ofJson?, ofItems?, if_neg heven, htokens (token, second) List.mem_cons_self,
    List.map_cons]
  simp only [hoperands, Bool.true_and,
    allJoinedBy_behind fun p hp => htokens p (List.mem_cons_of_mem _ hp)]
  cases hall : (first :: second :: rest.map Prod.snd).filterMap ofJson? with
  | nil => rfl
  | cons operand operands => rfl

/-- The operands of a chain, each behind a token. -/
def behindTokens (token : String) (items : List Json) : List Json :=
  items.flatMap fun item => [.string token, item]

theorem behindTokens_eq (token : String) (items : List Json) :
    behindTokens token items = behind (items.map (Prod.mk token)) := by
  rw [behind, List.flatMap_map]
  rfl

theorem intersperse_eq (token : String) (first : Json) (items : List Json) :
    (first :: items).intersperse (.string token) = first :: behindTokens token items := by
  induction items generalizing first with
  | nil => rfl
  | cons item items ih =>
    rw [List.intersperse_cons_cons, ih item]
    rfl

/-- The same, if all the tokens are one. -/
theorem ofJson_behindTokens {token : String} {op : Combinator}
    (htoken : Combinator.ofToken? token = some op) (first : Json) {items : List Json}
    (h : items ≠ []) :
    ofJson? (.array (first :: behindTokens token items)) =
      if (first :: items).filterMap ofJson? = [] then none
      else some (.chain op ((first :: items).filterMap ofJson?)) := by
  have htokens : ∀ p ∈ items.map (Prod.mk token), Combinator.ofToken? p.1 = some op := by
    intro p hp
    obtain ⟨item, -, rfl⟩ := List.mem_map.mp hp
    exact htoken
  have hitems : (items.map (Prod.mk token)).map Prod.snd = items := by
    rw [List.map_map]
    exact List.map_id _
  rw [behindTokens_eq, ofJson_joined first (by simpa using h) htokens, hitems]

/-- Two or more expressions with a token between them are a chain of those that can be read. -/
theorem ofJson_chain {token : String} {op : Combinator}
    (htoken : Combinator.ofToken? token = some op) {items : List Json} (h : 2 ≤ items.length) :
    ofJson? (.array (items.intersperse (.string token))) =
      if items.filterMap ofJson? = [] then none
      else some (.chain op (items.filterMap ofJson?)) := by
  match items, h with
  | first :: second :: rest, _ =>
    rw [intersperse_eq, ofJson_behindTokens htoken first (List.cons_ne_nil second rest)]

end Filter

end GridQuery
