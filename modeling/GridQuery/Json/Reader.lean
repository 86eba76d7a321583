import GridQuery.Json.Draft

/-!
# Reading JSON text

The reader goes through the text once and gives a draft. Each step returns the rest of the text, or
nothing once a fault has been met, after which nothing more is read. Models `from_str`.

* `readString`: the characters up to the closing quote, with the escapes resolved.
* `readLiteral`: the longest number literal; a leading zero stands alone.
* `Document.read`: the draft of a text, and whether only blanks follow it.
* `Json.read?`: the value of a text, `none` if the text has a fault.
-/

namespace GridQuery.Reader

/-! ## Strings -/

/-- The value of a hexadecimal digit of either case. -/
def hexValue? (c : Char) : Option Nat :=
  if '0' ≤ c ∧ c ≤ '9' then some (c.toNat - 48)
  else if 'a' ≤ c ∧ c ≤ 'f' then some (c.toNat - 87)
  else if 'A' ≤ c ∧ c ≤ 'F' then some (c.toNat - 55)
  else none

/-- The code of four hexadecimal digits. -/
def fourDigits? (a b c d : Char) : Option Nat := do
  let a ← hexValue? a
  let b ← hexValue? b
  let c ← hexValue? c
  let d ← hexValue? d
  return ((a * 16 + b) * 16 + c) * 16 + d

/-- The code of an escape of one letter. -/
def simpleEscape? (c : Char) : Option Nat :=
  if c = '"' ∨ c = '\\' ∨ c = '/' then some c.toNat
  else if c = 'n' then some 10
  else if c = 'r' then some 13
  else if c = 't' then some 9
  else if c = 'b' then some 8
  else if c = 'f' then some 12
  else none

/-- The codes up to the closing quote and the text after it; `none` at a fault. -/
def readCodes : List Char → Option (List Nat × List Char)
  | [] => none
  | '"' :: rest => some ([], rest)
  | '\\' :: 'u' :: a :: b :: c :: d :: rest =>
    match fourDigits? a b c d with
    | some code => (readCodes rest).map fun (codes, rest) => (code :: codes, rest)
    | none => none
  | '\\' :: c :: rest =>
    match simpleEscape? c with
    | some code => (readCodes rest).map fun (codes, rest) => (code :: codes, rest)
    | none => none
  | c :: rest =>
    if c.toNat < 32 then none
    else (readCodes rest).map fun (codes, rest) => (c.toNat :: codes, rest)

/-- Joins the two halves of each surrogate pair; `none` if a half stands alone. -/
def joinPairs : List Nat → Option (List Char)
  | [] => some []
  | high :: rest =>
    if 0xD800 ≤ high ∧ high < 0xDC00 then
      match rest with
      | low :: rest =>
        if 0xDC00 ≤ low ∧ low < 0xE000 then
          (joinPairs rest).map
            (Char.ofNat (0x10000 + (high - 0xD800) * 0x400 + (low - 0xDC00)) :: ·)
        else none
      | [] => none
    else if 0xDC00 ≤ high ∧ high < 0xE000 then none
    else (joinPairs rest).map (Char.ofNat high :: ·)

/-- The string after an opening quote. -/
def readString (text : List Char) : Option (Option String × List Char) :=
  (readCodes text).map fun (codes, rest) => ((joinPairs codes).map String.ofList, rest)

/-! ## Numbers -/

/-- The leading decimal digits and what follows them. -/
def readDigits : List Char → List Nat × List Char
  | [] => ([], [])
  | c :: rest =>
    if c.isDigit then
      let (digits, rest) := readDigits rest
      ((c.toNat - 48) :: digits, rest)
    else ([], c :: rest)

/-- The number with the given decimal digits. -/
def decimalValue (digits : List Nat) : Nat := digits.foldl (fun n d => n * 10 + d) 0

/-- A number literal; `none` at a fault in it. -/
def readLiteral (text : List Char) : Option (Literal × List Char) := do
  let (neg, text) :=
    match text with
    | '-' :: rest => (true, rest)
    | _ => (false, text)
  let (whole, text) := readDigits text
  if whole = [] ∨ (whole.head? = some 0 ∧ whole.length ≠ 1) then none
  let (fraction, text) ←
    match text with
    | '.' :: rest =>
      let (digits, rest) := readDigits rest
      if digits = [] then none else some (some digits, rest)
    | _ => some (none, text)
  let (exponent, text) ←
    match text with
    | c :: rest =>
      if c = 'e' ∨ c = 'E' then
        let (minus, rest) :=
          match rest with
          | '+' :: rest => (false, rest)
          | '-' :: rest => (true, rest)
          | _ => (false, rest)
        let (digits, rest) := readDigits rest
        let size : Int := decimalValue digits
        if digits = [] then none else some (some (if minus then -size else size), rest)
      else some (none, text)
    | [] => some (none, text)
  return (⟨neg, whole, fraction, exponent⟩, text)

/-! ## Values -/

/-- Drops blanks: space, tab, line feed, carriage return. -/
def skipBlanks : List Char → List Char
  | [] => []
  | c :: rest =>
    if c = ' ' ∨ c = '\t' ∨ c = '\n' ∨ c = '\r' then skipBlanks rest else c :: rest

mutual

/-- The draft of the value at the head of the text, and the text after it unless a fault was met. -/
def readValue : (fuel : Nat) → List Char → Draft × Option (List Char)
  | 0, _ => (.broken, none)
  | fuel + 1, text =>
    match skipBlanks text with
    | '"' :: rest =>
      match readString rest with
      | some (s, rest) => (.string s, some rest)
      | none => (.broken, none)
    | '[' :: rest =>
      let (items, rest) := readItems fuel true rest
      (.array items rest.isSome, rest)
    | '\x7b' :: rest =>
      let (entries, rest) := readEntries fuel true rest
      (.object entries rest.isSome, rest)
    | 'n' :: 'u' :: 'l' :: 'l' :: rest => (.null, some rest)
    | 't' :: 'r' :: 'u' :: 'e' :: rest => (.bool true, some rest)
    | 'f' :: 'a' :: 'l' :: 's' :: 'e' :: rest => (.bool false, some rest)
    | text =>
      match readLiteral text with
      | some (l, rest) => (.number l.number?, some rest)
      | none => (.broken, none)

/-- The items up to the closing bracket; before all but the first stands a comma. -/
def readItems : (fuel : Nat) → (first : Bool) → List Char → List Draft × Option (List Char)
  | 0, _, _ => ([], none)
  | fuel + 1, first, text =>
    match skipBlanks text, first with
    | ']' :: rest, _ => ([], some rest)
    | ',' :: rest, false =>
      match skipBlanks rest with
      | ']' :: _ | [] => ([], none)
      | rest => readItem fuel rest
    | _, false => ([], none)
    | rest, true => readItem fuel rest

/-- One item and those after it. -/
def readItem : (fuel : Nat) → List Char → List Draft × Option (List Char)
  | 0, _ => ([], none)
  | fuel + 1, text =>
    match readValue fuel text with
    | (item, none) => ([item], none)
    | (item, some rest) =>
      let (items, rest) := readItems fuel false rest
      (item :: items, rest)

/-- The entries up to the closing brace; before all but the first stands a comma. -/
def readEntries : (fuel : Nat) → (first : Bool) → List Char →
    List (Option String × Draft) × Option (List Char)
  | 0, _, _ => ([], none)
  | fuel + 1, first, text =>
    match skipBlanks text, first with
    | '\x7d' :: rest, _ => ([], some rest)
    | ',' :: rest, false => readEntry fuel (skipBlanks rest)
    | _, false => ([], none)
    | rest, true => readEntry fuel rest

/-- One entry and those after it; a key without a value has a broken one. -/
def readEntry : (fuel : Nat) → List Char → List (Option String × Draft) × Option (List Char)
  | 0, _ => ([], none)
  | fuel + 1, text =>
    match text with
    | '"' :: rest =>
      match readString rest with
      | none => ([], none)
      | some (key, rest) =>
        match skipBlanks rest with
        | ':' :: rest =>
          match readValue fuel rest with
          | (value, none) => ([(key, value)], none)
          | (value, some rest) =>
            let (entries, rest) := readEntries fuel false rest
            ((key, value) :: entries, rest)
        | _ => ([(key, .broken)], none)
    | _ => ([], none)

end

end Reader

/-- A text read to its end: its draft, and whether nothing but blanks follows the value. -/
structure Document where
  draft : Draft
  complete : Bool

namespace Document

/-- Reads a text. -/
def read (text : String) : Document :=
  let chars := text.toList
  match Reader.readValue (2 * chars.length + 2) chars with
  | (draft, none) => ⟨draft, false⟩
  | (draft, some rest) => ⟨draft, (Reader.skipBlanks rest).isEmpty⟩

/-- The value of a text without faults. -/
def json? (d : Document) : Option Json :=
  if d.complete then d.draft.json? .document else none

end Document

/-- The value of a text; `none` if the text has a fault. -/
def Json.read? (text : String) : Option Json := (Document.read text).json?

end GridQuery
