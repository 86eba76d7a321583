import GridQuery.Unicode.Ranges

/-!
# Named classes of characters

A table of named classes keeps the ranges of each class as lines of text, which are read when a
class is looked up. Names are given without blanks, hyphens and underscores, in lower case.

* `NamedClass.find?`: the ranges of the class with a name.
-/

namespace GridQuery.Unicode

/-- A class with its names and the lines of its table. -/
structure NamedClass where
  names : List String
  lines : List String

namespace NamedClass

def ranges (c : NamedClass) : Ranges := .ofHex c.lines

/-- The ranges of all classes of a table that have the name. -/
def find? (table : List NamedClass) (name : String) : Option Ranges :=
  match table.filter fun c => c.names.contains name with
  | [] => none
  | found => some (found.flatMap ranges)

end NamedClass

end GridQuery.Unicode
