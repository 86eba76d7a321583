import GridQuery.Filter.Basic
import GridQuery.Filter.PartField
import GridQuery.Json.Printer

/-!
# Predicates of filters

A filter becomes a predicate document, and the fields its conditions name are recorded, each once,
in the order in which they are met. Models `FilterCompiler` and `CompiledFilter`.

* `Filter.predicate`: the document.
* `Filter.leaves`: the fields of the conditions, from left to right.
* `CompiledFilter.ofJson`: both, from an expression; no predicate for what is no filter.
-/

namespace GridQuery

namespace Filter

/-- The document that compares a value. A comparison of text takes the JSON text of a value that is
    no string. -/
def condition (op : Comparison) (value : Json) : Json :=
  match op.keyword? with
  | some keyword => .single keyword value
  | none =>
    let text := value.string?.getD value.text
    .object [("$regex", .string ((op.pattern? text).getD text)), ("$options", .string "")]

mutual

/-- The predicate document of a filter (`FilterCompiler::compile`). -/
def predicate : Filter → Json
  | field name => .single (predicateField name) (.single "$eq" (.bool true))
  | not operand => .single "$nor" (.array [predicate operand])
  | compare name op value => .single (predicateField name) (condition op value)
  | chain op operands => .single op.keyword (.array (predicates operands))

def predicates : List Filter → List Json
  | [] => []
  | operand :: rest => predicate operand :: predicates rest

end

mutual

/-- The field names of the conditions, from left to right. -/
def leaves : Filter → List String
  | field name => [name]
  | not operand => leaves operand
  | compare name _ _ => [name]
  | chain _ operands => leavesOf operands

def leavesOf : List Filter → List String
  | [] => []
  | operand :: rest => leaves operand ++ leavesOf rest

end

end Filter

/-- Adds the names that are not yet recorded (`FilterCompiler::leaf`). -/
def recordFields (recorded names : List String) : List String :=
  names.foldl (fun seen name => if name ∈ seen then seen else seen ++ [name]) recorded

/-- What a filter expression becomes. -/
structure CompiledFilter where
  /-- Absent when the expression is no filter. -/
  predicate : Option Json
  /-- The fields the predicate refers to, each once. -/
  fields : List String
deriving DecidableEq

namespace CompiledFilter

/-- Compiles an expression after others whose fields are already recorded. -/
def after (recorded : List String) (expr : Json) : CompiledFilter :=
  match Filter.ofJson? expr with
  | some filter => ⟨some filter.predicate, recordFields recorded filter.leaves⟩
  | none => ⟨none, recorded⟩

/-- Compiles an expression (`compile`). -/
def ofJson (expr : Json) : CompiledFilter := after [] expr

/-- Compiles expressions one after the other, with the fields recorded so far. -/
def ofList : (recorded : List String) → List Json → List CompiledFilter
  | _, [] => []
  | recorded, expr :: rest => after recorded expr :: ofList (after recorded expr).fields rest

end CompiledFilter

end GridQuery
