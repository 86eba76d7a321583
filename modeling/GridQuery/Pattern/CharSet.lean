import GridQuery.Unicode.CaseFolding
import GridQuery.Unicode.Ranges

/-!
# Sets of characters

The sets that one place of a pattern matches, built from ranges by the operations of set classes.

* `CharSet.contains`: membership; `folded` adds all cases of its members.
* `CharSet.toRanges`: the members as ranges that ascend and do not touch, without surrogates.
-/

namespace GridQuery

/-- A set of characters. -/
inductive CharSet where
  | ranges (r : Unicode.Ranges)
  | union (a b : CharSet)
  | inter (a b : CharSet)
  | diff (a b : CharSet)
  | symmDiff (a b : CharSet)
  | compl (a : CharSet)
  /-- All cases of the members, of ASCII letters only or of all letters. -/
  | folded (asciiOnly : Bool) (a : CharSet)

namespace CharSet

def empty : CharSet := ranges []

def singleton (c : Char) : CharSet := ranges [(c.toNat, c.toNat)]

/-- Membership of a code. -/
def containsCode : CharSet → Nat → Bool
  | ranges r, code => r.containsCode code
  | union a b, code => a.containsCode code || b.containsCode code
  | inter a b, code => a.containsCode code && b.containsCode code
  | diff a b, code => a.containsCode code && !b.containsCode code
  | symmDiff a b, code => a.containsCode code != b.containsCode code
  | compl a, code => !a.containsCode code
  | folded asciiOnly a, code =>
    (if asciiOnly then Unicode.asciiVariants code else Unicode.caseVariants code).any
      fun variant => a.containsCode variant

def contains (set : CharSet) (c : Char) : Bool := set.containsCode c.toNat

/-- The codes of the members by ranges that ascend and do not touch. -/
def codeRanges : CharSet → Unicode.Ranges
  | ranges r => r.normalize
  | union a b => a.codeRanges.union b.codeRanges
  | inter a b => a.codeRanges.inter b.codeRanges
  | diff a b => a.codeRanges.diff b.codeRanges
  | symmDiff a b => a.codeRanges.symmDiff b.codeRanges
  | compl a => a.codeRanges.compl
  | folded asciiOnly a => a.codeRanges.folded asciiOnly

/-- The members by ranges that ascend and do not touch; surrogates are no characters. -/
def toRanges (set : CharSet) : Unicode.Ranges := set.codeRanges.scalars

end CharSet

end GridQuery
