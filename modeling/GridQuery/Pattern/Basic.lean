import GridQuery.Pattern.CharSet
import GridQuery.Unicode.Word

/-!
# Patterns

A pattern describes pieces of a text. Matching carries a set of positions through the pattern: from
the positions where a piece may start to those where it may end. The set is a row of marks, one for
each position of the text, so a pattern is searched for everywhere at once.

* `Pattern.advance`: the ends of the pieces that start at the marked positions.
* `Pattern.isMatch`: some piece of the text fits the pattern.
-/

namespace GridQuery

/-! ## Boundaries -/

/-- A condition on the characters before and after a position. -/
inductive Boundary where
  | textStart
  | textEnd
  | lineStart
  | lineEnd
  /-- Lines end with a line feed, a carriage return, or both together. -/
  | anyLineStart
  | anyLineEnd
  | word
  | notWord
  | wordStart
  | wordEnd
  | wordStartHalf
  | wordEndHalf
deriving DecidableEq

namespace Boundary

/-- The condition on the neighbours of a position, with the given word characters. -/
def holds (isWord : Char → Bool) (before after : Option Char) : Boundary → Bool
  | textStart => before.isNone
  | textEnd => after.isNone
  | lineStart => before.all (· = '\n')
  | lineEnd => after.all (· = '\n')
  | anyLineStart => before.all (· = '\n') || (before = some '\r' && after ≠ some '\n')
  | anyLineEnd => after.all (· = '\r') || (after = some '\n' && before ≠ some '\r')
  | word => before.any isWord != after.any isWord
  | notWord => before.any isWord == after.any isWord
  | wordStart => !before.any isWord && after.any isWord
  | wordEnd => before.any isWord && !after.any isWord
  | wordStartHalf => !before.any isWord
  | wordEndHalf => !after.any isWord

end Boundary

/-- A word character of ASCII. -/
def isAsciiWord (c : Char) : Bool := c.isAlphanum || c = '_'

/-! ## Patterns -/

/-- A pattern. Whether a repetition prefers many or few rounds changes no match, and neither does a
    group around a pattern; an automaton notes both. -/
inductive Pattern where
  | empty
  /-- One character of a set, which was written for ASCII only or for all characters. -/
  | set (asciiOnly : Bool) (s : CharSet)
  /-- A boundary, with words of ASCII only or of all characters. -/
  | boundary (asciiOnly : Bool) (b : Boundary)
  | sequence (parts : List Pattern)
  | choice (parts : List Pattern)
  /-- At least `least` times, and at most `most` times if that is given. -/
  | repeat (p : Pattern) (least : Nat) (most : Option Nat) (greedy : Bool)
  | group (p : Pattern)

/-- The marked positions of a text; there is one more position than there are characters. -/
abbrev Marks := List Bool

namespace Marks

/-- The positions marked in either row. -/
def union (a b : Marks) : Marks := List.zipWith (· || ·) a b

/-- Applies a step so many times, or until it changes nothing. -/
def iterate (step : Marks → Marks) : Nat → Marks → Marks
  | 0, marks => marks
  | n + 1, marks =>
    let next := step marks
    if next = marks then marks else iterate step n next

end Marks

namespace Pattern

/-- The characters before and after each position. -/
def neighbours (before : Option Char) : List Char → List (Option Char × Option Char)
  | [] => [(before, none)]
  | c :: rest => (before, some c) :: neighbours (some c) rest

mutual

/-- The ends of the pieces that fit the pattern and start at a marked position. -/
def advance (text : List Char) : Pattern → Marks → Marks
  | empty, marks => marks
  | set _ s, marks => false :: List.zipWith (fun mark c => mark && s.contains c) marks text
  | boundary asciiOnly b, marks =>
    let isWord := if asciiOnly then isAsciiWord else Unicode.isWord
    List.zipWith (fun mark sides => mark && b.holds isWord sides.1 sides.2) marks
      (neighbours none text)
  | sequence parts, marks => advanceAll text parts marks
  | choice parts, marks => advanceAny text parts marks
  | .repeat p least most _, marks =>
    let start := Marks.iterate (advance text p) least marks
    let rounds := ((most.map (· - least)).getD (text.length + 1)).min (text.length + 1)
    Marks.iterate (fun marks => Marks.union marks (advance text p marks)) rounds start
  | group p, marks => advance text p marks

/-- The ends of the pieces that fit all parts, one after the other. -/
def advanceAll (text : List Char) : List Pattern → Marks → Marks
  | [], marks => marks
  | p :: rest, marks => advanceAll text rest (advance text p marks)

/-- The ends of the pieces that fit one of the parts. -/
def advanceAny (text : List Char) : List Pattern → Marks → Marks
  | [], marks => marks.map fun _ => false
  | p :: rest, marks => (advance text p marks).union (advanceAny text rest marks)

end

/-- Some piece of the text fits the pattern. -/
def isMatch (p : Pattern) (text : String) : Bool :=
  let chars := text.toList
  (advance chars p (List.replicate (chars.length + 1) true)).any id

/-- The largest automaton that is accepted, in bytes. -/
def sizeLimit : Nat := 10485760

end Pattern

/-! ## Errors -/

/-- Why a text is no pattern. -/
inductive PatternError where
  | malformed
  | tooLarge
deriving DecidableEq

namespace PatternError

def message : PatternError → String
  | malformed => "regex parse error"
  | tooLarge =>
    "Compiled regex exceeds size limit of " ++ toString Pattern.sizeLimit ++ " bytes."

end PatternError

end GridQuery
