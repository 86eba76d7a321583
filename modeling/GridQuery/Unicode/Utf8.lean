/-!
# UTF-8

The bytes of characters, and ranges of characters as sequences of byte ranges: a character lies in
the range if its bytes lie in one of the sequences, byte by byte.

* `Utf8.encode`: the bytes of a code.
* `Utf8.sequences`: the sequences for a range, in ascending order.
-/

namespace GridQuery.Unicode.Utf8

/-- The bytes of a code. -/
def encode (code : Nat) : List Nat :=
  if code < 0x80 then [code]
  else if code < 0x800 then [0xc0 + code / 0x40, 0x80 + code % 0x40]
  else if code < 0x10000 then
    [0xe0 + code / 0x1000, 0x80 + code / 0x40 % 0x40, 0x80 + code % 0x40]
  else
    [0xf0 + code / 0x40000, 0x80 + code / 0x1000 % 0x40, 0x80 + code / 0x40 % 0x40,
      0x80 + code % 0x40]

/-- The lowest and the highest byte at one place. -/
abbrev ByteRange := Nat × Nat

/-- The greatest codes of one, two and three bytes. -/
def lastOfLength : List Nat := [0x7f, 0x7ff, 0xffff]

/-- How many codes differ in their last byte only, in their last two and in their last three. -/
def blockSizes : List Nat := [0x40, 0x1000, 0x40000]

/-- Where a range has to be cut at blocks of a size that it neither lies in nor fills. -/
def blockCut? (low high size : Nat) : Option Nat :=
  if low / size = high / size then none
  else if low % size ≠ 0 then some ((low / size + 1) * size - 1)
  else if high % size ≠ size - 1 then some (high / size * size - 1)
  else none

/-- The last code of the first part, if a range has to be cut because its ends differ in length or
    the bytes in it do not range freely. -/
def cut? (low high : Nat) : Option Nat :=
  match lastOfLength.find? fun last => low ≤ last && last < high with
  | some last => some last
  | none => if high ≤ 0x7f then none else blockSizes.findSome? fun size => blockCut? low high size

/-- The sequences of byte ranges for the codes from `low` to `high`, none of them a surrogate. -/
def sequences (low high : Nat) : List (List ByteRange) :=
  match cut? low high with
  | none => [(encode low).zip (encode high)]
  | some last =>
    if low ≤ last ∧ last < high then sequences low last ++ sequences (last + 1) high
    else [(encode low).zip (encode high)]
termination_by high - low

end GridQuery.Unicode.Utf8
