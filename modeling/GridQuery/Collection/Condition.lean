import GridQuery.Collection.Error
import GridQuery.Json.Path
import GridQuery.Pattern.Reader
import GridQuery.Value.Order

/-!
# Predicates over documents

A predicate is an object of clauses that all have to hold: combinators over lists of predicates, and
conditions on fields. Clauses are looked at in order, and the first that does not hold, or is no
clause, decides.

* `Json.satisfies`: a document satisfies a predicate.
* `meets`: a field meets a condition, which is a value or an object of operators.
* `matchesPattern`: a text matches a pattern, or contains no match of it.
-/

namespace GridQuery

/-! ## Values and patterns -/

/-- A field equals an operand (`equals`). A missing field equals null, and an array equals any of
    its items besides another array. -/
def equalsOperand (value : Option Json) (operand : Json) : Bool :=
  match value with
  | none => operand.isNull
  | some (.array items) =>
    if operand.isArray then (Json.array items).isEqualTo operand
    else items.any fun item => item.isEqualTo operand
  | some value => value.isEqualTo operand

/-- A field and an operand of one class are in an accepted order (`ordered`). -/
def inOrder (accept : Ordering → Bool) (value : Option Json) (operand : Json) : Bool :=
  ((value.bind fun value => value.compareAlike? operand).map accept).getD false

/-- The flags that letters switch on. -/
def patternFlags (letters : String) : Flags :=
  { caseless := letters.contains 'i', multiLine := letters.contains 'm',
    dotAll := letters.contains 's', spaced := letters.contains 'x' }

/-- What stands before and after the pattern of which a text contains no match
    (`NOT_CONTAINS_PREFIX`, `NOT_CONTAINS_SUFFIX`). -/
def withoutFrame : String × String := ("^((?!", ").)*$")

/-- The pattern inside the frame. -/
def framed? (text : String) : Option String :=
  let opening := withoutFrame.1.toList
  let closing := withoutFrame.2.toList
  let chars := text.toList
  if opening.isPrefixOf chars then
    let rest := chars.drop opening.length
    if closing.isSuffixOf rest then some (String.ofList (rest.take (rest.length - closing.length)))
    else none
  else none

/-- A pattern, or the error that names it (`compile`). -/
def compilePattern (flags : Flags) (pattern : String) : Except CollectionError Pattern :=
  (Pattern.compile flags pattern).mapError fun reason => .invalidPattern pattern reason

/-- A text matches a pattern; a framed pattern asks for a text without a match of what is inside. -/
def matchesPattern (flags : Flags) (pattern text : String) : Except CollectionError Bool :=
  match framed? pattern with
  | some inner => (compilePattern flags inner).map fun p => !p.isMatch text
  | none => (compilePattern flags pattern).map fun p => p.isMatch text

/-- A field matches a pattern; only a text does, and nothing is asked of the pattern otherwise
    (`regex_matches`). -/
def matchesOperand (flags : Flags) (value : Option Json) (pattern : Json) :
    Except CollectionError Bool :=
  match value with
  | some (.string text) =>
    match pattern with
    | .string pattern => matchesPattern flags pattern text
    | _ => .error (.invalidStage "$match" .patternNotAString)
  | _ => .ok false

/-! ## Conditions -/

def startsWithDollar (name : String) : Bool := "$".toList.isPrefixOf name.toList

/-- An operator holds of a field, with the letters of the options beside it. -/
def holdsOperator (letters : String) (value : Option Json) (op : String) (operand : Json) :
    Except CollectionError Bool :=
  match op with
  | "$eq" => .ok (equalsOperand value operand)
  | "$ne" => .ok !(equalsOperand value operand)
  | "$gt" => .ok (inOrder (fun order => order = .gt) value operand)
  | "$gte" => .ok (inOrder (fun order => order ≠ .lt) value operand)
  | "$lt" => .ok (inOrder (fun order => order = .lt) value operand)
  | "$lte" => .ok (inOrder (fun order => order ≠ .gt) value operand)
  | "$regex" => matchesOperand (patternFlags letters) value operand
  | "$options" => .ok true
  | other => .error (.unsupportedOperator other)

/-- All of a row of checks hold; the first that does not, or fails, decides. -/
def allHold {α : Type} (check : α → Except CollectionError Bool) :
    List α → Except CollectionError Bool
  | [] => .ok true
  | x :: rest => do if ← check x then allHold check rest else return false

/-- The operators of a condition: an object of operators only that is no date
    (`is_operator_object`). -/
def operators? (condition : Json) : Option Entries :=
  match condition with
  | .object entries =>
    if !entries.isEmpty && entries.all (fun entry => startsWithDollar entry.1) &&
        !Entries.contains "$date" entries then
      some entries
    else none
  | _ => none

/-- A field meets a condition: all its operators hold, or the field equals it (`field_matches`). -/
def meets (value : Option Json) (condition : Json) : Except CollectionError Bool :=
  match operators? condition with
  | none => .ok (equalsOperand value condition)
  | some operators =>
    let letters := ((Entries.get? "$options" operators).bind Json.string?).getD ""
    allHold (fun entry => holdsOperator letters value entry.1 entry.2) operators

/-! ## Predicates -/

namespace Json

mutual

/-- A document satisfies a predicate (`matches`). -/
def satisfies (doc : Json) : Json → Except CollectionError Bool
  | object clauses => satisfiesClauses doc clauses
  | _ => .error (.invalidStage "$match" .predicateNotAnObject)

/-- All clauses hold; the first that does not, or is no clause, decides. -/
def satisfiesClauses (doc : Json) : List (String × Json) → Except CollectionError Bool
  | [] => .ok true
  | (key, operand) :: rest => do
    let holds ←
      if key = "$and" then satisfiesAll doc key operand
      else if key = "$or" then satisfiesAny doc key operand
      else if key = "$nor" then do return !(← satisfiesAny doc key operand)
      else if startsWithDollar key then .error (.unsupportedOperator key)
      else meets (doc.resolve? key) operand
    if holds then satisfiesClauses doc rest else return false

/-- Every predicate of a list is satisfied (`all`). -/
def satisfiesAll (doc : Json) (key : String) : Json → Except CollectionError Bool
  | array predicates => satisfiesEach doc predicates
  | _ => .error (.invalidStage "$match" (.combinatorNotAList key))

/-- Some predicate of a list is satisfied (`any`). -/
def satisfiesAny (doc : Json) (key : String) : Json → Except CollectionError Bool
  | array predicates => satisfiesSome doc predicates
  | _ => .error (.invalidStage "$match" (.combinatorNotAList key))

/-- All predicates hold; the first that does not, or fails, decides. -/
def satisfiesEach (doc : Json) : List Json → Except CollectionError Bool
  | [] => .ok true
  | p :: rest => do if ← satisfies doc p then satisfiesEach doc rest else return false

/-- Some predicate holds; the first that does, or fails, decides. -/
def satisfiesSome (doc : Json) : List Json → Except CollectionError Bool
  | [] => .ok false
  | p :: rest => do if ← satisfies doc p then return true else satisfiesSome doc rest

end

end Json

end GridQuery
