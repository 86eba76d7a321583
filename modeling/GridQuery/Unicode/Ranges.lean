/-!
# Ranges of code points

A class of characters is a list of ranges in ascending order. Tables of standard classes are
written as text: ranges in hexadecimal, `30-39 41-5a 5f`, with a space between them.

* `Ranges.contains`: a character lies in one of the ranges.
* `Ranges.ofHex`: the ranges that lines of text list.
* `Ranges.normalize`: the same codes by ranges that ascend and do not touch; on such ranges `compl`
  and the operations after it work.
-/

namespace GridQuery.Unicode

/-- Ranges of code points, both ends included. -/
abbrev Ranges := List (Nat × Nat)

namespace Ranges

def containsCode (ranges : Ranges) (code : Nat) : Bool :=
  ranges.any fun (lo, hi) => lo ≤ code && code ≤ hi

def contains (ranges : Ranges) (c : Char) : Bool := ranges.containsCode c.toNat

/-- Reads ranges from the digits of the code at hand and the low end before a hyphen. -/
def readHex (low : Option Nat) (code : Nat) : List Char → Ranges
  | [] => [(low.getD code, code)]
  | ' ' :: rest => (low.getD code, code) :: readHex none 0 rest
  | '-' :: rest => readHex (some code) 0 rest
  | c :: rest => readHex low (code * 16 + (if c.isDigit then c.toNat - 48 else c.toNat - 87)) rest

/-- The ranges that the lines of a table list. -/
def ofHex (lines : List String) : Ranges := lines.flatMap fun line => readHex none 0 line.toList

/-! ## Operations -/

/-- Joins ranges that touch, in a list with ascending low ends, after a first range. -/
def joinTouching (low high : Nat) : Ranges → Ranges
  | [] => [(low, high)]
  | (a, b) :: rest =>
    if a ≤ high + 1 then joinTouching low (max high b) rest
    else (low, high) :: joinTouching a b rest

/-- The same codes by ranges that ascend and do not touch. -/
def normalize (ranges : Ranges) : Ranges :=
  match ranges.mergeSort fun x y => x.1 ≤ y.1 with
  | [] => []
  | (low, high) :: rest => joinTouching low high rest

/-- The greatest code point. -/
def lastCode : Nat := 0x10ffff

/-- The codes from `start` on that no range has. -/
def gapsFrom (start : Nat) : Ranges → Ranges
  | [] => if start ≤ lastCode then [(start, lastCode)] else []
  | (low, high) :: rest =>
    (if start < low then [(start, low - 1)] else []) ++ gapsFrom (high + 1) rest

def compl (ranges : Ranges) : Ranges := gapsFrom 0 ranges

def union (a b : Ranges) : Ranges := normalize (a ++ b)

def inter (a b : Ranges) : Ranges := compl (union (compl a) (compl b))

def diff (a b : Ranges) : Ranges := inter a (compl b)

def symmDiff (a b : Ranges) : Ranges := diff (union a b) (inter a b)

/-- The ranges without surrogates, which are no characters. -/
def scalars (ranges : Ranges) : Ranges := diff ranges [(0xd800, 0xdfff)]

end Ranges

end GridQuery.Unicode
