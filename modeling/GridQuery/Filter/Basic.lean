import GridQuery.Json.Basic
import GridQuery.Unicode.Alphanumeric

/-!
# Filter expressions

Clients send a filter as nested arrays: a field name asks for a true field, `["!", e]` negates,
`[field, operator, value]` compares, `[e, "and", e, "and", e]` chains, and `[e]` is `e`. All of it
is read into one tree; what does not fit the grammar is no filter at all, and inside a chain it is
left out. Models `FilterExpr`, `Combinator` and `CompareOp`.

* `Filter.ofJson?`: the tree of an expression.
* `Comparison.keyword?`, `Comparison.pattern?`: an operator is either a keyword or a pattern.
-/

namespace GridQuery

/-! ## Operators -/

/-- How the operands of a chain are joined. -/
inductive Combinator where
  | and
  | or
deriving DecidableEq

namespace Combinator

def all : List Combinator := [and, or]

def token : Combinator → String
  | and => "and"
  | or => "or"

/-- The combinator of a token, in any case of ASCII letters (`Combinator::parse`). -/
def ofToken? (token : String) : Option Combinator :=
  all.find? fun c => c.token = token.map Char.toLower

def keyword : Combinator → String
  | and => "$and"
  | or => "$or"

end Combinator

/-- A comparison of a field with a value (`CompareOp`). -/
inductive Comparison where
  | eq
  | ne
  | gt
  | gte
  | lt
  | lte
  | startsWith
  | endsWith
  | contains
  | notContains
deriving DecidableEq

namespace Comparison

def all : List Comparison :=
  [eq, ne, gt, gte, lt, lte, startsWith, endsWith, contains, notContains]

def token : Comparison → String
  | eq => "="
  | ne => "<>"
  | gt => ">"
  | gte => ">="
  | lt => "<"
  | lte => "<="
  | startsWith => "startswith"
  | endsWith => "endswith"
  | contains => "contains"
  | notContains => "notcontains"

/-- The comparison of a token, in any case of ASCII letters (`CompareOp::parse`). -/
def ofToken? (token : String) : Option Comparison :=
  all.find? fun c => c.token = token.map Char.toLower

/-- The keyword of a comparison by order; the comparisons of text have none
    (`CompareOp::keyword`). -/
def keyword? : Comparison → Option String
  | eq => some "$eq"
  | ne => some "$ne"
  | gt => some "$gt"
  | gte => some "$gte"
  | lt => some "$lt"
  | lte => some "$lte"
  | startsWith | endsWith | contains | notContains => none

/-- The pattern of a comparison of text; the comparisons by order have none
    (`CompareOp::pattern`). -/
def pattern? (text : String) : Comparison → Option String
  | startsWith => some ("^" ++ text)
  | endsWith => some (text ++ "$")
  | contains => some text
  | notContains => some ("^((?!" ++ text ++ ").)*$")
  | eq | ne | gt | gte | lt | lte => none

end Comparison

/-! ## Trees -/

/-- A filter expression after reading (`FilterExpr`). -/
inductive Filter where
  /-- The field is true. -/
  | field (name : String)
  | not (operand : Filter)
  | compare (field : String) (op : Comparison) (value : Json)
  | chain (op : Combinator) (operands : List Filter)

namespace Filter

/-- A field name starts with an alphanumeric character or an underscore (`field_name`). -/
def isFieldName (name : String) : Bool :=
  match name.toList with
  | [] => false
  | c :: _ => Unicode.isAlphanumeric c || c = '_'

/-- All tokens between operands name the same combinator; `rest` starts with a token
    (`parse_chain`). -/
def allJoinedBy (op : Combinator) : (rest : List Json) → Bool
  | [] => true
  | token :: rest =>
    decide (token.string?.bind Combinator.ofToken? = some op) &&
      match rest with
      | [] => true
      | _ :: rest => allJoinedBy op rest

/-- The comparison of a field name, a comparison token and a value (`parse_comparison`). -/
def comparison? (field : Json) (token : String) (value : Json) : Option Filter := do
  let name ← field.string?
  let op ← Comparison.ofToken? token
  if isFieldName name then some (.compare name op value) else none

mutual

/-- The tree of an expression; `none` if it does not fit the grammar (`FilterExpr::parse`). -/
def ofJson? : Json → Option Filter
  | .string name => if isFieldName name then some (.field name) else none
  | .array items => ofItems? items
  | _ => none

/-- The tree of an array: a wrapped expression, a negation, a chain or a comparison
    (`parse_array`). -/
def ofItems? : List Json → Option Filter
  | [operand] => ofJson? operand
  | [.string op, operand] => if op = "!" then (ofJson? operand).map .not else none
  | first :: .string token :: second :: rest =>
    if rest.length % 2 = 1 then none
    else
      match Combinator.ofToken? token with
      | some op =>
        let operands := (ofJson? first).toList ++ (ofJson? second).toList ++ operandsAfter rest
        if allJoinedBy op rest && !operands.isEmpty then some (.chain op operands) else none
      | none => if rest.isEmpty then comparison? first token second else none
  | _ => none

/-- The trees of the operands that have one, in a list of tokens each followed by its operand
    (`parse_chain`). -/
def operandsAfter : List Json → List Filter
  | [] | [_] => []
  | _ :: operand :: rest => (ofJson? operand).toList ++ operandsAfter rest

end

end Filter

end GridQuery
