import GridQuery.Json.Draft
import GridQuery.Unicode.Printable

/-!
# Decoding errors

What can be wrong with a text or a value that is to become a request or a configuration.

* `Shape`: what a message says it found.
* `DecodeError`: the causes, each with its `message`.
-/

namespace GridQuery

/-! ## Shown strings -/

/-- The digits of a code in lower case hexadecimal. -/
def hexDigits (code : Nat) : List Char := Nat.toDigits 16 code

/-- One character inside a shown string: what cannot be seen is given by its code. -/
def showChar (c : Char) : List Char :=
  if c = '"' then ['\\', '"']
  else if c = '\\' then ['\\', '\\']
  else if c = '\n' then ['\\', 'n']
  else if c = '\r' then ['\\', 'r']
  else if c = '\t' then ['\\', 't']
  else if c.toNat = 0 then ['\\', '0']
  else if Unicode.isCombining c || Unicode.isIgnorable c || Unicode.isUnprintable c then
    ['\\', 'u', '\x7b'] ++ hexDigits c.toNat ++ ['\x7d']
  else [c]

/-- A string as a message shows it, in quotes. -/
def showString (s : String) : String :=
  "\"" ++ String.ofList (s.toList.flatMap showChar) ++ "\""

/-! ## Shapes -/

/-- What stands where something else was expected. -/
inductive Shape where
  | null
  | bool (b : Bool)
  | integer (n : Int)
  | float (x : Binary64.Finite)
  | string (s : String)
  | sequence
  | map
deriving DecidableEq

namespace Shape

def describe : Shape → String
  | null => "null"
  | bool b => "boolean `" ++ (if b then "true" else "false") ++ "`"
  | integer n => "integer `" ++ toString n ++ "`"
  | float x => "floating point `" ++ x.text ++ "`"
  | string s => "string " ++ showString s
  | sequence => "sequence"
  | map => "map"

def ofNumber : Number → Shape
  | .int n _ => integer n
  | .float x => float x

end Shape

/-- The shape of a draft; `none` where its text has a fault. -/
def Draft.shape? : Draft → Option Shape
  | null => some .null
  | bool b => some (.bool b)
  | number n => n.map Shape.ofNumber
  | string s => s.map Shape.string
  | array _ _ => some .sequence
  | object _ _ => some .map
  | broken => none

/-! ## Errors -/

/-- Why a text cannot be read on. -/
inductive TextFault where
  /-- The text is not well formed. -/
  | malformed
  /-- A name was expected, or the end of an object. -/
  | valueExpected
  /-- An array goes on beyond its last expected item. -/
  | trailing
deriving DecidableEq

/-- Why decoding failed. -/
inductive DecodeError where
  | text (fault : TextFault)
  | wrongType (found : Shape) (expected : String)
  | wrongValue (found : Shape) (expected : String)
  | wrongLength (length : Nat) (expected : String)
  | missingField (name : String)
  | duplicateField (name : String)
  | noVariant (type : String)
deriving DecidableEq

namespace DecodeError

def message : DecodeError → String
  | text .malformed => "<json syntax error>"
  | text .valueExpected => "expected value"
  | text .trailing => "trailing characters"
  | wrongType found expected => "invalid type: " ++ found.describe ++ ", expected " ++ expected
  | wrongValue found expected => "invalid value: " ++ found.describe ++ ", expected " ++ expected
  | wrongLength length expected =>
    "invalid length " ++ toString length ++ ", expected " ++ expected
  | missingField name => "missing field `" ++ name ++ "`"
  | duplicateField name => "duplicate field `" ++ name ++ "`"
  | noVariant type => "data did not match any variant of untagged enum " ++ type

/-- Within a text that is not well formed, every fault of the text reads the same. -/
def inMalformed : DecodeError → DecodeError
  | text _ => text .malformed
  | other => other

end DecodeError

end GridQuery
