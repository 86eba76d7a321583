import GridQuery.Json.Basic

/-!
# JSON text as far as it can be read

A reader that stops at the first fault still knows all that stood before it. A draft is that
knowledge: a value in which some part may be broken off. What is broken matters only to those who
look at it, so a decoder can name a wrong type that stands before the fault.

* `Literal.number?`: the number of a literal, `none` beyond the range of binary64.
* `Draft`: a value, its unread parts, and the contents that only a strict look rejects.
* `Draft.json?`: the whole value, when nothing is broken and the nesting is not too deep.
-/

namespace GridQuery

/-! ## Number literals -/

/-- A number as written: sign, digits before and after the point, and exponent. -/
structure Literal where
  neg : Bool
  whole : List Nat
  fraction : Option (List Nat)
  exponent : Option Int
deriving DecidableEq

namespace Literal

/-- Gathers digits into a significand while it stays within 64 bits; the second part is what no
    longer fits. -/
def gather : (significand : Nat) → (digits : List Nat) → Nat × List Nat
  | s, [] => (s, [])
  | s, d :: rest =>
    if s * 10 + d < UInt64.size then gather (s * 10 + d) rest else (s, d :: rest)

/-- A literal without point and exponent is an integer if it fits 64 bits, `-0` excepted. Any other
    is binary64: whole digits beyond 64 bits count as tens, fractional ones are dropped. -/
def number? (l : Literal) : Option Number :=
  let (significand, excess) := gather 0 l.whole
  let signed : Int := if l.neg then -significand else significand
  if h : excess = [] ∧ l.fraction = none ∧ l.exponent = none ∧
      ¬(l.neg ∧ significand = 0) ∧ InWordRange signed then
    some (.int signed h.2.2.2.2)
  else
    let fraction := l.fraction.getD []
    let (all, dropped) := gather significand fraction
    let exponent := excess.length - (fraction.length - dropped.length : Int) + l.exponent.getD 0
    (Binary64.scale all exponent).map fun x => .float (if l.neg then x.negate else x)

end Literal

/-! ## Drafts -/

/-- A value as far as its text could be read. -/
inductive Draft where
  | null
  | bool (b : Bool)
  /-- A number; `none` when it is beyond the range of binary64. -/
  | number (n : Option Number)
  /-- A string; `none` when an escape names half of a surrogate pair. -/
  | string (s : Option String)
  /-- Items up to the end of the array or to the fault in it. -/
  | array (items : List Draft) (closed : Bool)
  /-- Entries up to the end of the object or to the fault in it. -/
  | object (entries : List (Option String × Draft)) (closed : Bool)
  /-- No value starts here. -/
  | broken

/-- Where a draft comes from: from text, which may nest only so deep, or from a value. -/
inductive Origin where
  | text (depth : Nat)
  | value
deriving DecidableEq

namespace Origin

/-- A text may have 127 arrays and objects open at once. -/
def document : Origin := text 128

/-- The origin inside an array or object; `none` when a text nests too deep. -/
def inside? : Origin → Option Origin
  | text depth => if 1 < depth then some (text (depth - 1)) else none
  | value => some value

end Origin

namespace Draft

instance : Inhabited Draft := ⟨broken⟩

mutual

/-- A value is a draft without faults. -/
def ofJson : Json → Draft
  | .null => null
  | .bool b => bool b
  | .number n => number (some n)
  | .string s => string (some s)
  | .array items => array (ofItems items) true
  | .object entries => object (ofEntries entries) true

def ofItems : List Json → List Draft
  | [] => []
  | x :: rest => ofJson x :: ofItems rest

def ofEntries : List (String × Json) → List (Option String × Draft)
  | [] => []
  | (k, x) :: rest => (some k, ofJson x) :: ofEntries rest

end

mutual

/-- The value of a draft that has no fault and does not nest too deep. -/
def json? (origin : Origin) : Draft → Option Json
  | null => some .null
  | bool b => some (.bool b)
  | number n => n.map .number
  | string s => s.map .string
  | array items closed => do
    let inner ← origin.inside?
    let values ← items? inner items
    if closed then some (.array values) else none
  | object entries closed => do
    let inner ← origin.inside?
    let pairs ← entries? inner entries
    if closed then some (.object (Entries.ofList pairs)) else none
  | broken => none

def items? (origin : Origin) : List Draft → Option (List Json)
  | [] => some []
  | x :: rest => do
    let value ← json? origin x
    let values ← items? origin rest
    return value :: values

def entries? (origin : Origin) : List (Option String × Draft) → Option (List (String × Json))
  | [] => some []
  | (k, x) :: rest => do
    let key ← k
    let value ← json? origin x
    let pairs ← entries? origin rest
    return (key, value) :: pairs

end

mutual

/-- The text of a draft breaks off somewhere. -/
def hasFault : Draft → Bool
  | array items closed => !closed || itemsHaveFault items
  | object entries closed => !closed || entriesHaveFault entries
  | broken => true
  | null | bool _ | number _ | string _ => false

def itemsHaveFault : List Draft → Bool
  | [] => false
  | x :: rest => hasFault x || itemsHaveFault rest

def entriesHaveFault : List (Option String × Draft) → Bool
  | [] => false
  | (_, x) :: rest => hasFault x || entriesHaveFault rest

end

end Draft

end GridQuery
