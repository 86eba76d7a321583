import GridQuery.Json.Basic

/-!
# JSON text of a value

Two forms: compact, without blanks, and indented by two spaces. Models `to_string` and
`to_writer_pretty`.

* `escape`: quotes, backslashes and control characters are escaped, all else is written as it is.
* `Json.text`: the compact form; it never has a line break.
* `Json.indentedText`: the indented form; empty arrays and objects stay closed up.
-/

namespace GridQuery

/-! ## Strings and numbers -/

/-- The lower case hexadecimal digit. -/
def hexDigit (n : Nat) : Char := (Nat.digitChar n)

/-- One character as it stands between quotes. -/
def escapeChar (c : Char) : List Char :=
  if c = '"' then ['\\', '"']
  else if c = '\\' then ['\\', '\\']
  else if c = '\n' then ['\\', 'n']
  else if c = '\r' then ['\\', 'r']
  else if c = '\t' then ['\\', 't']
  else if c.toNat = 8 then ['\\', 'b']
  else if c.toNat = 12 then ['\\', 'f']
  else if c.toNat < 32 then
    ['\\', 'u', '0', '0', hexDigit (c.toNat / 16), hexDigit (c.toNat % 16)]
  else [c]

/-- The characters of a string as they stand between quotes. -/
def escape (s : List Char) : List Char := s.flatMap escapeChar

/-- A string in quotes. -/
def quote (s : String) : List Char := '"' :: escape s.toList ++ ['"']

def Number.text : Number → String
  | int n _ => toString n
  | float x => x.text

/-! ## Values -/

namespace Json

mutual

/-- The compact text, character by character. -/
def compact : Json → List Char
  | null => "null".toList
  | bool b => (if b then "true" else "false").toList
  | number n => n.text.toList
  | string s => quote s
  | array items => '[' :: compactItems items ++ [']']
  | object entries => '\x7b' :: compactEntries entries ++ ['\x7d']

/-- The items with commas between them. -/
def compactItems : List Json → List Char
  | [] => []
  | [x] => compact x
  | x :: y :: rest => compact x ++ ',' :: compactItems (y :: rest)

/-- The entries with commas between them. -/
def compactEntries : List (String × Json) → List Char
  | [] => []
  | [(k, x)] => quote k ++ ':' :: compact x
  | (k, x) :: y :: rest => quote k ++ ':' :: compact x ++ ',' :: compactEntries (y :: rest)

end

/-- The compact text of a value. -/
def text (value : Json) : String := String.ofList value.compact

/-- A new line at a depth. -/
def newLine (depth : Nat) : List Char := '\n' :: List.replicate (2 * depth) ' '

mutual

/-- The indented text of a value that starts at a depth. -/
def indented (depth : Nat) : Json → List Char
  | null => "null".toList
  | bool b => (if b then "true" else "false").toList
  | number n => n.text.toList
  | string s => quote s
  | array [] => "[]".toList
  | array (x :: rest) =>
    '[' :: newLine (depth + 1) ++ indented (depth + 1) x ++ indentedItems (depth + 1) rest ++
      newLine depth ++ [']']
  | object [] => ['\x7b', '\x7d']
  | object ((k, x) :: rest) =>
    '\x7b' :: newLine (depth + 1) ++ quote k ++ [':', ' '] ++ indented (depth + 1) x ++
      indentedEntries (depth + 1) rest ++ newLine depth ++ ['\x7d']

/-- Further items, each after a comma on a line of its own. -/
def indentedItems (depth : Nat) : List Json → List Char
  | [] => []
  | x :: rest => ',' :: newLine depth ++ indented depth x ++ indentedItems depth rest

/-- Further entries, each after a comma on a line of its own. -/
def indentedEntries (depth : Nat) : List (String × Json) → List Char
  | [] => []
  | (k, x) :: rest =>
    ',' :: newLine depth ++ quote k ++ [':', ' '] ++ indented depth x ++
      indentedEntries depth rest

end

/-- The text of a value over several lines. -/
def indentedText (value : Json) : String := String.ofList (value.indented 0)

end Json

end GridQuery
