import GridQuery.Collection.Error
import GridQuery.Json.Path
import GridQuery.Value.Date

/-!
# Expressions

What a stage can compute from a document: literals, fields, the document itself, objects and arrays
of expressions, arithmetic, and the parts of dates. Models `Expression`.

* `Expression.ofJson`: reads an expression.
* `Expression.eval`: its value; a missing field is null, and so is an operation on unsuitable
  values.
* `Expression.eval?`: its value; a field that is missing has none.
-/

namespace GridQuery

/-! ## Expressions -/

/-- A part of a date that an operator extracts (`DateOperator`). -/
inductive DatePart where
  | year
  | month
  | dayOfMonth
  | dayOfWeek
  | hour
  | minute
  | second
deriving DecidableEq

/-- An operation on two numbers; a difference is one of dates too. -/
inductive Operation where
  | subtract
  | mod
  | divide
deriving DecidableEq

/-- An expression over a document. -/
inductive Expression where
  | literal (value : Json)
  | field (path : String)
  | document
  | object (entries : List (String × Expression))
  | array (items : List Expression)
  | sum (terms : List Expression)
  | binary (op : Operation) (a b : Expression)
  | datePart (part : DatePart) (date : Expression)

namespace DatePart

def all : List DatePart := [year, month, dayOfMonth, dayOfWeek, hour, minute, second]

/-- The operator that extracts the part. -/
def operator : DatePart → String
  | year => "$year"
  | month => "$month"
  | dayOfMonth => "$dayOfMonth"
  | dayOfWeek => "$dayOfWeek"
  | hour => "$hour"
  | minute => "$minute"
  | second => "$second"

def ofOperator? (name : String) : Option DatePart := all.find? fun part => part.operator = name

/-- The part of an instant; days of the week count from one, Sunday. -/
def of (part : DatePart) (x : Instant) : Int :=
  match part with
  | year => x.date.year
  | month => x.date.month
  | dayOfMonth => x.date.day
  | dayOfWeek => weekday x.days
  | hour => x.hour
  | minute => x.minute
  | second => x.secondOfMinute

end DatePart

namespace Operation

def all : List Operation := [subtract, mod, divide]

def operator : Operation → String
  | subtract => "$subtract"
  | mod => "$mod"
  | divide => "$divide"

def ofOperator? (name : String) : Option Operation := all.find? fun op => op.operator = name

end Operation

namespace Expression

/-! ## Reading -/

def isOperator (name : String) : Bool := "$".toList.isPrefixOf name.toList

/-- An expression of a text: the document, a field, or the text itself (`Expression::parse`). -/
def ofString (text : String) : Except CollectionError Expression :=
  if text = "$$CURRENT" ∨ text = "$$ROOT" then .ok document
  else
    match text.toList with
    | '$' :: '$' :: _ => .error (.unsupportedOperator text)
    | '$' :: path => .ok (field (String.ofList path))
    | _ => .ok (literal (.string text))

mutual

/-- Reads an expression (`Expression::parse`). An object with one key that is an operator is an
    operation; no other object may have an operator among its keys. -/
def ofJson : Json → Except CollectionError Expression
  | .string text => ofString text
  | .array items => (ofItems items).map array
  | .object [(key, operand)] =>
    if isOperator key then ofOperation key operand
    else (ofJson operand).map fun e => object [(key, e)]
  | .object entries =>
    match entries.find? fun entry => isOperator entry.1 with
    | some (key, _) => .error (.unsupportedOperator key)
    | none => (ofEntries entries).map object
  | other => .ok (literal other)

/-- The operation of an operator (`parse_operator`). -/
def ofOperation (name : String) (operand : Json) : Except CollectionError Expression :=
  if name = "$date" then .ok (literal (.single name operand))
  else if name = "$literal" then .ok (literal operand)
  else if name = "$add" then
    match operand with
    | .array items => (ofItems items).map sum
    | _ => .error (.invalidStage name .operandsNotAList)
  else
    match Operation.ofOperator? name, DatePart.ofOperator? name with
    | some op, _ =>
      match operand with
      | .array [a, b] => do return binary op (← ofJson a) (← ofJson b)
      | .array _ => .error (.invalidStage name .notTwoOperands)
      | _ => .error (.invalidStage name .operandsNotAList)
    | none, some part =>
      match operand with
      | .array [date] => (ofJson date).map (datePart part)
      | date => (ofJson date).map (datePart part)
    | none, none => .error (.unsupportedOperator name)

/-- Reads expressions in order; the first error decides. -/
def ofItems : List Json → Except CollectionError (List Expression)
  | [] => .ok []
  | x :: rest => do return (← ofJson x) :: (← ofItems rest)

/-- Reads the expression of each entry in order. -/
def ofEntries : List (String × Json) → Except CollectionError (List (String × Expression))
  | [] => .ok []
  | (key, x) :: rest => do return (key, ← ofJson x) :: (← ofEntries rest)

end

/-! ## Evaluation -/

/-- An instant as a value, unless it lies beyond the years that are supported. -/
def dateOrOverflow (x : Option Instant) : Except DateOverflow Json :=
  match x with
  | some x => .ok (.ofInstant x)
  | none => .error .dateOverflow

/-- The sum of the numbers and the only date among the terms, if there is one; `none` when there are
    two dates or something else. -/
def sumOf : List Json → (date : Option Instant) → (total : Binary64) →
    Option (Option Instant × Binary64)
  | [], date, total => some (date, total)
  | x :: rest, date, total =>
    match x.instant?, x.binary64? with
    | some d, _ => if date.isSome then none else sumOf rest (some d) total
    | none, some n => sumOf rest date (total.add n)
    | none, none => none

/-- The sum of terms; a date is moved by the other terms, as milliseconds (`add`). -/
def addAll (terms : List Json) : Except DateOverflow Json :=
  match sumOf terms none .zero with
  | none => .ok .null
  | some (none, total) => .ok (.ofBinary64 total)
  | some (some d, total) => dateOrOverflow (d.addMillis total.toInt64.toInt)

/-- An operation on two numbers; nothing is divided by zero. -/
def arithmetic (op : Operation) (a b : Json) : Json :=
  match a.binary64?, b.binary64? with
  | some x, some y =>
    match op with
    | .subtract => .ofBinary64 (x.sub y)
    | .mod => if y.isZero then .null else .ofBinary64 (x.rem y)
    | .divide => if y.isZero then .null else .ofBinary64 (x.div y)
  | _, _ => .null

/-- The milliseconds between two dates, a date moved back by milliseconds, or the difference of two
    numbers (`subtract`). -/
def difference (a b : Json) : Except DateOverflow Json :=
  match a.instant?, b.instant? with
  | some x, some y => .ok (.ofInt64 (Int64.ofInt (x.millisSince y)))
  | some x, none =>
    match b.binary64? with
    | some millis => dateOrOverflow (x.addMillis (-millis.toInt64.toInt))
    | none => .ok .null
  | none, some _ => .ok .null
  | none, none => .ok (arithmetic .subtract a b)

def operate (op : Operation) (a b : Json) : Except DateOverflow Json :=
  match op with
  | .subtract => difference a b
  | op => .ok (arithmetic op a b)

/-- A part of a date, and null of anything else (`date_part`). -/
def partOf (part : DatePart) (date : Json) : Json :=
  match date.instant? with
  | some x => .ofInt64 (Int64.ofInt (part.of x))
  | none => .null

mutual

/-- The value of an expression; a field that is missing is null, but is left out of an object. -/
def eval (doc : Json) : Expression → Except DateOverflow Json
  | literal value => .ok value
  | field path => .ok ((doc.resolve? path).getD .null)
  | document => .ok doc
  | object entries => do return .object (Entries.ofList (← evalEntries doc entries))
  | array items => do return .array (← evalItems doc items)
  | sum terms => do addAll (← evalItems doc terms)
  | binary op a b => do operate op (← eval doc a) (← eval doc b)
  | datePart part date => do return partOf part (← eval doc date)

/-- The values of expressions in order. -/
def evalItems (doc : Json) : List Expression → Except DateOverflow (List Json)
  | [] => .ok []
  | e :: rest => do return (← eval doc e) :: (← evalItems doc rest)

/-- The values of entries in order; a field that is missing is left out. -/
def evalEntries (doc : Json) :
    List (String × Expression) → Except DateOverflow (List (String × Json))
  | [] => .ok []
  | (key, e) :: rest => do
    let value ← eval doc e
    let others ← evalEntries doc rest
    match e with
    | field path => return if (doc.resolve? path).isSome then (key, value) :: others else others
    | _ => return (key, value) :: others

end

/-- The value of an expression; a field that is missing has none (`eval_opt`). -/
def eval? (doc : Json) (e : Expression) : Except DateOverflow (Option Json) :=
  match e with
  | field path => .ok (doc.resolve? path)
  | e => (e.eval doc).map some

end Expression

end GridQuery
