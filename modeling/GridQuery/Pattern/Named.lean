import GridQuery.Pattern.CharSet
import GridQuery.Unicode.Age
import GridQuery.Unicode.Binary
import GridQuery.Unicode.Break
import GridQuery.Unicode.Category
import GridQuery.Unicode.Script
import GridQuery.Unicode.Word

/-!
# Named sets of characters

The sets a pattern names: the classes of one letter such as `\d`, the bracketed ASCII classes such
as `[:alpha:]`, and the Unicode classes such as `\p{Greek}`.

* `ShortClass.ranges`: digits, blanks and word characters.
* `asciiClass?`: a bracketed class.
* `unicodeClass?`: a category, a script, a version or another property by its name.
-/

namespace GridQuery

open Unicode (Ranges NamedClass)

/-! ## Short classes -/

/-- A class of one letter. -/
inductive ShortClass where
  | digit
  | blank
  | word
deriving DecidableEq

namespace ShortClass

/-- The class of a letter of either case, and whether its complement is meant. -/
def ofLetter? (c : Char) : Option (ShortClass × Bool) :=
  if c = 'd' then some (digit, false)
  else if c = 'D' then some (digit, true)
  else if c = 's' then some (blank, false)
  else if c = 'S' then some (blank, true)
  else if c = 'w' then some (word, false)
  else if c = 'W' then some (word, true)
  else none

/-- The characters of the class, of ASCII only or of all. -/
def ranges (asciiOnly : Bool) : ShortClass → Ranges
  | digit => if asciiOnly then [(0x30, 0x39)] else Unicode.decimalRanges
  | blank => if asciiOnly then [(0x09, 0x0d), (0x20, 0x20)] else Unicode.whitespaceRanges
  | word =>
    if asciiOnly then [(0x30, 0x39), (0x41, 0x5a), (0x5f, 0x5f), (0x61, 0x7a)]
    else Unicode.wordRanges

end ShortClass

/-! ## Bracketed classes -/

/-- The bracketed classes by their names. -/
def asciiClasses : List (String × Ranges) :=
  [ ("alnum", [(0x30, 0x39), (0x41, 0x5a), (0x61, 0x7a)]),
    ("alpha", [(0x41, 0x5a), (0x61, 0x7a)]),
    ("ascii", [(0x00, 0x7f)]),
    ("blank", [(0x09, 0x09), (0x20, 0x20)]),
    ("cntrl", [(0x00, 0x1f), (0x7f, 0x7f)]),
    ("digit", [(0x30, 0x39)]),
    ("graph", [(0x21, 0x7e)]),
    ("lower", [(0x61, 0x7a)]),
    ("print", [(0x20, 0x7e)]),
    ("punct", [(0x21, 0x2f), (0x3a, 0x40), (0x5b, 0x60), (0x7b, 0x7e)]),
    ("space", [(0x09, 0x0d), (0x20, 0x20)]),
    ("upper", [(0x41, 0x5a)]),
    ("word", [(0x30, 0x39), (0x41, 0x5a), (0x5f, 0x5f), (0x61, 0x7a)]),
    ("xdigit", [(0x30, 0x39), (0x41, 0x46), (0x61, 0x66)]) ]

def asciiClass? (name : String) : Option Ranges := asciiClasses.lookup name

/-! ## Unicode classes -/

/-- The name as tables give it: ASCII without case, blanks, hyphens, underscores and a leading `is`,
    which is kept in `isc`. -/
def looseName (name : String) : String :=
  let strip (s : List Char) : List Char :=
    (s.filter fun c => c ≠ ' ' && c ≠ '_' && c ≠ '-' && c.toNat < 128).map Char.toLower
  match name.toList with
  | a :: b :: rest =>
    if a.toLower = 'i' ∧ b.toLower = 's' then
      let short := strip rest
      String.ofList (if short = ['c'] then ['i', 's', 'c'] else short)
    else String.ofList (strip (a :: b :: rest))
  | short => String.ofList (strip short)

/-- A set over a table of named classes. -/
def tableClass? (table : List NamedClass) (name : String) : Option CharSet :=
  (NamedClass.find? table name).map CharSet.ranges

/-- All assigned characters are those that are not unassigned. -/
def category? (name : String) : Option CharSet :=
  if name = "any" then some (.compl .empty)
  else if name = "assigned" then (tableClass? Unicode.categories "cn").map CharSet.compl
  else if name = "ascii" then some (.ranges [(0, 0x7f)])
  else tableClass? Unicode.categories name

def script? (name : String) : Option CharSet := tableClass? Unicode.scripts name

/-- The characters used with a script. -/
def scriptExtension? (name : String) : Option CharSet :=
  match tableClass? Unicode.scriptExtensions name with
  | some set => some set
  | none => script? name

/-- The class of a name alone: a property, a category or a script, in this order; three short names
    are those of categories first. -/
def classByName? (name : String) : Option CharSet :=
  let name := looseName name
  let property :=
    if name ∈ ["cf", "sc", "lc"] then none else tableClass? Unicode.binaryProperties name
  (property.orElse fun _ => category? name).orElse fun _ => script? name

/-- The characters of a version and of all versions before it. -/
def age? (name : String) : Option CharSet :=
  let isNamed (c : NamedClass) : Bool := c.names.contains name
  let before := Unicode.versions.takeWhile fun c => !isNamed c
  (Unicode.versions.find? isNamed).map fun last =>
    .ranges ((before ++ [last]).flatMap NamedClass.ranges)

/-- The class of a value of a property. -/
def classByValue? (property value : String) : Option CharSet :=
  let property := looseName property
  let value := looseName value
  if property ∈ ["gc", "generalcategory"] then category? value
  else if property ∈ ["sc", "script"] then script? value
  else if property ∈ ["scx", "scriptextensions"] then scriptExtension? value
  else if property = "age" then age? value
  else if property ∈ ["gcb", "graphemeclusterbreak"] then tableClass? Unicode.graphemeBreaks value
  else if property ∈ ["wb", "wordbreak"] then tableClass? Unicode.wordBreaks value
  else if property ∈ ["sb", "sentencebreak"] then tableClass? Unicode.sentenceBreaks value
  else none

/-- The class named between braces: a name, or a property and a value with `!=`, `:` or `=` between
    them. With `!=` the complement of the class is meant. -/
def unicodeClass? (text : List Char) : Option (CharSet × Bool) :=
  let rec splitUnequal : List Char → Option (List Char × List Char)
    | [] => none
    | '!' :: '=' :: rest => some ([], rest)
    | c :: rest => (splitUnequal rest).map fun (a, b) => (c :: a, b)
  let splitAt (separator : Char) : Option (List Char × List Char) :=
    if separator ∈ text then
      some (text.takeWhile (· ≠ separator), (text.dropWhile (· ≠ separator)).drop 1)
    else none
  let byValue (parts : List Char × List Char) : Option CharSet :=
    classByValue? (String.ofList parts.1) (String.ofList parts.2)
  match splitUnequal text with
  | some parts => (byValue parts).map fun members => (members, true)
  | none =>
    let members :=
      match (splitAt ':').orElse fun _ => splitAt '=' with
      | some parts => byValue parts
      | none => classByName? (String.ofList text)
    members.map fun members => (members, false)

end GridQuery
