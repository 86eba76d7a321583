import Mathlib
import GridQuery.Pattern.Reader

/-!
# Literal texts as patterns

Letters and digits of ASCII and spaces mean themselves in a pattern. A text of them is read as a row
of characters, with an anchor before or after it as one more piece, and is found at the place that
the anchor says. The automaton of such a row has a state for each character, so only a text of a
limited length is accepted.

Results:
* `Pattern.Reader.read_row`: a literal text is read as the row of its characters.
* `Pattern.isMatch_rowAt`: the row is found at the start of a text, at its end or anywhere.
* `Pattern.fits_rowAt`: how long a literal text may be.
* `Pattern.compile_row`: a literal text is accepted exactly up to that length.
-/

namespace GridQuery

/-! ## Literal texts -/

/-- A letter or a digit of ASCII, or a space. -/
def isLiteralChar (c : Char) : Bool := c.isAlphanum || c = ' '

/-- A text of such characters only. -/
def IsLiteral (text : String) : Prop := ∀ c ∈ text.toList, isLiteralChar c = true

instance (text : String) : Decidable (IsLiteral text) :=
  decidable_of_iff (text.toList.all isLiteralChar = true) List.all_eq_true

theorem isLiteralChar_bounds {c : Char} (h : isLiteralChar c = true) :
    32 ≤ c.toNat ∧ c.toNat < 128 := by
  have hcode : c.toNat = c.val.toNat := rfl
  simp only [isLiteralChar, Char.isAlphanum, Char.isAlpha, Char.isUpper, Char.isLower,
    Char.isDigit, Bool.or_eq_true, Bool.and_eq_true, decide_eq_true_eq, ge_iff_le,
    UInt32.le_iff_toNat_le, Char.ext_iff, UInt32.ext_iff] at h
  have hends : 'A'.val.toNat = 65 ∧ 'Z'.val.toNat = 90 ∧ 'a'.val.toNat = 97 ∧
      'z'.val.toNat = 122 ∧ '0'.val.toNat = 48 ∧ '9'.val.toNat = 57 ∧ ' '.val.toNat = 32 := by
    decide
  omega

/-- The place of a text inside another one. -/
inductive Place where
  | atStart
  | anywhere
  | atEnd

namespace Place

/-- The characters of the pattern: the text, with an anchor unless it may stand anywhere. -/
def row : Place → List Char → List Char
  | atStart, text => '^' :: text
  | anywhere, text => text
  | atEnd, text => text ++ ['$']

/-- A text stands at the place in another one. -/
def Holds (place : Place) (text whole : List Char) : Prop :=
  match place with
  | atStart => text <+: whole
  | anywhere => text <:+: whole
  | atEnd => text <:+ whole

instance : (place : Place) → (text whole : List Char) → Decidable (place.Holds text whole)
  | atStart, text, whole => inferInstanceAs (Decidable (text <+: whole))
  | anywhere, text, whole => inferInstanceAs (Decidable (text <:+: whole))
  | atEnd, text, whole => inferInstanceAs (Decidable (text <:+ whole))

/-- The length of the longest text that is accepted for the place. Within the limit there is room
    for 327679 states, and the pattern takes five, six or seven besides those of its text. -/
def longest : Place → Nat
  | atStart => 327674
  | anywhere => 327673
  | atEnd => 327672

end Place

/-- A character that is read as one piece: a literal one or an anchor. -/
def isRowChar (c : Char) : Bool := isLiteralChar c || c = '^' || c = '$'

theorem isRowChar_row {text : List Char} (h : ∀ c ∈ text, isLiteralChar c = true) (place : Place) :
    ∀ c ∈ place.row text, isRowChar c = true := by
  have htext : ∀ c ∈ text, isRowChar c = true := fun c hc => by simp [isRowChar, h c hc]
  intro c hc
  cases place with
  | atStart =>
    rcases List.mem_cons.mp hc with rfl | hc
    · rfl
    · exact htext c hc
  | anywhere => exact htext c hc
  | atEnd =>
    rcases List.mem_append.mp hc with hc | hc
    · exact htext c hc
    · rw [List.mem_singleton.mp hc]
      rfl

namespace Pattern

/-- What a character of a row is read as. -/
def ofChar (c : Char) : Pattern :=
  if c = '^' then boundary false .textStart
  else if c = '$' then boundary false .textEnd
  else set false (.singleton c)

theorem ofChar_literal {c : Char} (h : isLiteralChar c = true) :
    ofChar c = set false (.singleton c) := by
  rw [ofChar, if_neg, if_neg]
  · rintro rfl
    cases h
  · rintro rfl
    cases h

/-- Patterns one after the other. -/
def inRow : List Pattern → Pattern
  | [] => empty
  | [p] => p
  | parts => sequence parts

theorem inRow_of_two {parts : List Pattern} (h : 2 ≤ parts.length) :
    inRow parts = sequence parts := by
  match parts, h with
  | _ :: _ :: _, _ => rfl

/-- The pattern that finds a text at a place. -/
def rowAt (place : Place) (text : List Char) : Pattern := inRow ((place.row text).map ofChar)

/-! ## Reading -/

namespace Reader

/-- The piece of a character. -/
def pieceOf (c : Char) : Piece := ⟨ofChar c, 0, false⟩

theorem readRow_cons {c : Char} (h : isRowChar c = true) (fuel : Nat) (pieces : List Piece)
    (rest : List Char) :
    readRow (fuel + 1) pieces ⟨c :: rest, {}, []⟩ =
      readRow fuel (pieceOf c :: pieces) ⟨rest, {}, []⟩ := by
  by_cases hstart : c = '^'
  · subst hstart
    rfl
  by_cases hend : c = '$'
  · subst hend
    rfl
  have hliteral : isLiteralChar c = true := by simpa [isRowChar, hstart, hend] using h
  rw [readRow, show State.space ⟨c :: rest, {}, []⟩ = ⟨c :: rest, {}, []⟩ from rfl]
  split
  all_goals
    rename_i heq
    cases heq
  -- no character with a meaning of its own is literal
  all_goals try cases hliteral
  rw [pieceOf, ofChar_literal hliteral]
  rfl

theorem readRow_row {chars : List Char} (h : ∀ c ∈ chars, isRowChar c = true) {fuel : Nat}
    (hfuel : chars.length < fuel) (pieces : List Piece) :
    readRow fuel pieces ⟨chars, {}, []⟩ =
      some ((chars.map pieceOf).reverse ++ pieces, ⟨[], {}, []⟩) := by
  induction chars generalizing fuel pieces with
  | nil =>
    obtain ⟨fuel, rfl⟩ := Nat.exists_eq_succ_of_ne_zero (by omega : fuel ≠ 0)
    rfl
  | cons c rest ih =>
    obtain ⟨fuel, rfl⟩ := Nat.exists_eq_succ_of_ne_zero (by omega : fuel ≠ 0)
    rw [List.length_cons] at hfuel
    rw [readRow_cons (h c List.mem_cons_self),
      ih (fun d hd => h d (List.mem_cons_of_mem _ hd)) (by omega)]
    simp

theorem pattern_row (pieces : List Piece) :
    (row pieces).pattern = inRow (pieces.reverse.map (·.pattern)) := by
  match pieces with
  | [] => rfl
  | [_] => rfl
  | a :: b :: rest => exact (inRow_of_two (by simp)).symm

/-- A row of pieces that do not nest nests once. -/
theorem depth_row {pieces : List Piece} (h : ∀ piece ∈ pieces, piece.depth = 0) :
    (row pieces).depth ≤ 1 := by
  match pieces with
  | [] => exact Nat.zero_le 1
  | [piece] => exact (h piece List.mem_cons_self).le.trans (Nat.zero_le 1)
  | a :: b :: rest =>
    have hzero : ∀ l : List Piece, (∀ piece ∈ l, piece.depth = 0) →
        (l.map (·.depth)).foldl max 0 = 0 := by
      intro l hl
      induction l with
      | nil => rfl
      | cons piece l ih =>
        rw [List.map_cons, List.foldl_cons, hl piece List.mem_cons_self]
        exact ih fun other hother => hl other (List.mem_cons_of_mem _ hother)
    exact (congrArg (· + 1) (hzero _ h)).le

/-- A literal text, with an anchor or without, is read as the row of its characters. -/
theorem read_row {text : String} (h : ∀ c ∈ text.toList, isRowChar c = true) :
    read {} text = some (inRow (text.toList.map ofChar)) := by
  have hrow : readRow (4 * text.toList.length + 3) [] ⟨text.toList, {}, []⟩ = some _ :=
    readRow_row h (by omega) []
  have hchoices : readChoices (4 * text.toList.length + 4) [] ⟨text.toList, {}, []⟩ =
      some (row (text.toList.map pieceOf).reverse, ⟨[], {}, []⟩) := by
    rw [readChoices, hrow, List.append_nil]
    rfl
  have hdepth : (row (text.toList.map pieceOf).reverse).depth ≤ 1 := by
    refine depth_row fun piece hpiece => ?_
    obtain ⟨c, -, rfl⟩ := List.mem_map.mp (List.mem_reverse.mp hpiece)
    rfl
  have hpattern : (row (text.toList.map pieceOf).reverse).pattern =
      inRow (text.toList.map ofChar) := by
    rw [pattern_row, List.reverse_reverse, List.map_map]
    rfl
  have hlimit : (row (text.toList.map pieceOf).reverse).depth ≤ maxDepth :=
    hdepth.trans (by decide)
  simp only [read, hchoices, Option.bind_eq_bind, Option.bind_some, hlimit, hpattern]
  rfl

end Reader

/-! ## Matching -/

/-- After one character of a set, the positions behind its occurrences at marked ones. -/
theorem advance_set_iff {text : List Char} {asciiOnly : Bool} {members : CharSet} {marks : Marks}
    {j : Nat} :
    (advance text (set asciiOnly members) marks)[j]? = some true ↔
      ∃ i c, j = i + 1 ∧ marks[i]? = some true ∧ text[i]? = some c ∧ members.contains c = true := by
  rw [advance]
  cases j with
  | zero => simp
  | succ i =>
    rw [List.getElem?_cons_succ, List.getElem?_zipWith_eq_some]
    simp only [Bool.and_eq_true, Nat.add_right_cancel_iff]
    constructor
    · rintro ⟨mark, c, hmark, hc, rfl, hmember⟩
      exact ⟨i, c, rfl, hmark, hc, hmember⟩
    · rintro ⟨_, c, rfl, hmark, hc, hmember⟩
      exact ⟨true, c, hmark, hc, rfl, hmember⟩

theorem neighbours_getElem?_eq_some (before : Option Char) (text : List Char) {i : Nat}
    {sides : Option Char × Option Char} :
    (neighbours before text)[i]? = some sides ↔
      i ≤ text.length ∧ sides = (if i = 0 then before else text[i - 1]?, text[i]?) := by
  induction text generalizing before i with
  | nil => cases i <;> simp [neighbours, eq_comm]
  | cons c rest ih =>
    cases i with
    | zero => simp [neighbours, eq_comm]
    | succ i =>
      rw [neighbours, List.getElem?_cons_succ, ih (some c)]
      cases i <;> simp

/-- A boundary keeps the marked positions at which it holds. -/
theorem advance_boundary_iff {text : List Char} {b : Boundary} {marks : Marks} {j : Nat} :
    (advance text (boundary false b) marks)[j]? = some true ↔
      j ≤ text.length ∧ marks[j]? = some true ∧
        b.holds Unicode.isWord (if j = 0 then none else text[j - 1]?) text[j]? = true := by
  rw [advance, List.getElem?_zipWith_eq_some]
  simp only [neighbours_getElem?_eq_some, Bool.and_eq_true, Bool.false_eq_true, if_false]
  constructor
  · rintro ⟨mark, sides, hmark, ⟨hj, rfl⟩, rfl, hholds⟩
    exact ⟨hj, hmark, hholds⟩
  · rintro ⟨hj, hmark, hholds⟩
    exact ⟨true, _, hmark, ⟨hj, rfl⟩, rfl, hholds⟩

theorem advance_textStart_iff {text : List Char} {marks : Marks} {j : Nat} :
    (advance text (boundary false .textStart) marks)[j]? = some true ↔
      j = 0 ∧ marks[0]? = some true := by
  rw [advance_boundary_iff]
  cases j with
  | zero => simp [Boundary.holds]
  | succ j =>
    simp only [Nat.add_eq_zero_iff, one_ne_zero, and_false, if_false, Nat.add_sub_cancel,
      Boundary.holds, Option.isNone_iff_eq_none, List.getElem?_eq_none_iff, false_and, iff_false]
    omega

theorem advance_textEnd_iff {text : List Char} {marks : Marks} {j : Nat} :
    (advance text (boundary false .textEnd) marks)[j]? = some true ↔
      j = text.length ∧ marks[j]? = some true := by
  rw [advance_boundary_iff]
  simp only [Boundary.holds, Option.isNone_iff_eq_none, List.getElem?_eq_none_iff]
  constructor
  · rintro ⟨hle, hmark, hge⟩
    exact ⟨by omega, hmark⟩
  · rintro ⟨rfl, hmark⟩
    exact ⟨le_rfl, hmark, le_rfl⟩

theorem contains_singleton {c d : Char} : (CharSet.singleton c).contains d = true ↔ d = c := by
  have hcode : c.toNat = d.toNat ↔ d = c := by
    rw [eq_comm]
    exact ⟨fun h => Char.ext (UInt32.toNat_inj.mp h), fun h => congrArg Char.toNat h⟩
  rw [← hcode]
  simp only [CharSet.contains, CharSet.singleton, CharSet.containsCode,
    Unicode.Ranges.containsCode, List.any_cons, List.any_nil, Bool.or_false, Bool.and_eq_true,
    decide_eq_true_eq]
  omega

theorem cons_prefix_drop_iff {c : Char} {rest text : List Char} {i : Nat} :
    c :: rest <+: text.drop i ↔ text[i]? = some c ∧ rest <+: text.drop (i + 1) := by
  rw [← List.head?_drop, ← List.tail_drop]
  cases text.drop i with
  | nil => simp
  | cons d tail => simp [List.cons_prefix_cons, eq_comm]

/-- After a literal text, the positions behind its occurrences at marked ones. -/
theorem advanceAll_literal_iff {text literal : List Char}
    (h : ∀ c ∈ literal, isLiteralChar c = true) {marks : Marks} {j : Nat} :
    (advanceAll text (literal.map ofChar) marks)[j]? = some true ↔
      ∃ i, j = i + literal.length ∧ marks[i]? = some true ∧ literal <+: text.drop i := by
  induction literal generalizing marks with
  | nil => simp [advanceAll]
  | cons c rest ih =>
    rw [List.map_cons, advanceAll, ih fun d hd => h d (List.mem_cons_of_mem _ hd),
      ofChar_literal (h c List.mem_cons_self)]
    simp only [advance_set_iff, contains_singleton, cons_prefix_drop_iff, List.length_cons]
    constructor
    · rintro ⟨_, rfl, ⟨i, d, rfl, hmark, hd, rfl⟩, hrest⟩
      exact ⟨i, by omega, hmark, hd, hrest⟩
    · rintro ⟨i, rfl, hmark, hc, hrest⟩
      exact ⟨i + 1, by omega, ⟨i, c, rfl, hmark, hc, rfl⟩, hrest⟩

theorem advanceAll_append (text : List Char) (a b : List Pattern) (marks : Marks) :
    advanceAll text (a ++ b) marks = advanceAll text b (advanceAll text a marks) := by
  induction a generalizing marks with
  | nil => rfl
  | cons p rest ih => rw [List.cons_append, advanceAll, ih, advanceAll]

theorem advance_inRow (text : List Char) (parts : List Pattern) (marks : Marks) :
    advance text (inRow parts) marks = advanceAll text parts marks := by
  match parts with
  | [] => rfl
  | [_] => rfl
  | _ :: _ :: _ => rw [inRow_of_two (by simp), advance]

/-- At first all positions are marked. -/
theorem marked_iff {text : List Char} {i : Nat} :
    (List.replicate (text.length + 1) true)[i]? = some true ↔ i ≤ text.length := by
  rw [List.getElem?_replicate]
  split_ifs with h
  · exact iff_of_true rfl (by omega)
  · exact iff_of_false (by simp) (by omega)

theorem isMatch_inRow_iff {parts : List Pattern} {text : String} :
    (inRow parts).isMatch text = true ↔
      ∃ j : Nat, (advanceAll text.toList parts
        (List.replicate (text.toList.length + 1) true))[j]? = some true := by
  rw [isMatch, advance_inRow, List.any_eq_true]
  constructor
  · rintro ⟨_, hmem, rfl⟩
    exact List.mem_iff_getElem?.mp hmem
  · intro h
    exact ⟨true, List.mem_iff_getElem?.mpr h, rfl⟩

theorem infix_iff_prefix_drop {text whole : List Char} :
    text <:+: whole ↔ ∃ i ≤ whole.length, text <+: whole.drop i := by
  constructor
  · rintro ⟨before, behind, rfl⟩
    refine ⟨before.length, ?_, behind, ?_⟩
    · simp only [List.length_append]
      omega
    · rw [List.append_assoc, List.drop_left]
  · rintro ⟨i, -, hprefix⟩
    exact hprefix.isInfix.trans (List.drop_suffix i whole).isInfix

theorem suffix_iff_prefix_drop {text whole : List Char} :
    text <:+ whole ↔ ∃ i, whole.length = i + text.length ∧ text <+: whole.drop i := by
  constructor
  · rintro ⟨before, rfl⟩
    refine ⟨before.length, List.length_append, ?_⟩
    rw [List.drop_left]
  · rintro ⟨i, hlength, hprefix⟩
    have hall : text = whole.drop i := by
      refine hprefix.eq_of_length ?_
      rw [List.length_drop]
      omega
    rw [hall]
    exact List.drop_suffix i whole

/-- A literal text is found exactly where its place says. -/
theorem isMatch_rowAt {place : Place} {literal : List Char}
    (h : ∀ c ∈ literal, isLiteralChar c = true) (text : String) :
    (rowAt place literal).isMatch text = true ↔ place.Holds literal text.toList := by
  rw [rowAt, isMatch_inRow_iff]
  cases place with
  | atStart =>
    have hstart : ofChar '^' = boundary false .textStart := rfl
    rw [Place.row, List.map_cons, hstart]
    simp only [advanceAll, advanceAll_literal_iff h, advance_textStart_iff, marked_iff]
    constructor
    · rintro ⟨_, _, rfl, ⟨rfl, -⟩, hprefix⟩
      exact hprefix
    · intro hprefix
      exact ⟨_, 0, rfl, ⟨rfl, Nat.zero_le _⟩, hprefix⟩
  | anywhere =>
    rw [Place.row, Place.Holds, infix_iff_prefix_drop]
    simp only [advanceAll_literal_iff h, marked_iff]
    constructor
    · rintro ⟨_, i, -, hi, hprefix⟩
      exact ⟨i, hi, hprefix⟩
    · rintro ⟨i, hi, hprefix⟩
      exact ⟨_, i, rfl, hi, hprefix⟩
  | atEnd =>
    have hend : ofChar '$' = boundary false .textEnd := rfl
    rw [Place.row, List.map_append, List.map_cons, List.map_nil, hend, Place.Holds,
      suffix_iff_prefix_drop]
    simp only [advanceAll_append, advanceAll, advance_textEnd_iff, advanceAll_literal_iff h,
      marked_iff]
    constructor
    · rintro ⟨_, hlength, i, rfl, -, hprefix⟩
      exact ⟨i, hlength.symm, hprefix⟩
    · rintro ⟨i, hlength, hprefix⟩
      exact ⟨_, hlength.symm, i, rfl, by omega, hprefix⟩

end Pattern

/-! ## Sizes -/

namespace Automaton

/-- So many states and bytes more. -/
def Size.plus (s : Size) (states edgeBytes : Nat) : Size :=
  ⟨s.states + states, s.edgeBytes + edgeBytes⟩

/-- Building adds so much to every size, and fails only if that is beyond the limit. -/
def Adds {α : Type} (step : Build α) (result : α) (states edgeBytes : Nat) : Prop :=
  ∀ s : Size, s.bytes ≤ Pattern.sizeLimit → step s =
    if (s.plus states edgeBytes).bytes ≤ Pattern.sizeLimit then
      some (result, s.plus states edgeBytes)
    else none

-- Each step of building a pattern without forks is one of the three below, so a size is read off
-- the steps and compared with the limit once, at the end.
theorem adds_grow (states edgeBytes : Nat) : Adds (grow states edgeBytes) () states edgeBytes :=
  fun _ _ => rfl

theorem adds_pure {α : Type} (result : α) : Adds (pure result) result 0 0 :=
  fun _ hs => (if_pos hs).symm

theorem Adds.bind {α β : Type} {step : Build α} {next : α → Build β} {a : α} {b : β}
    {states edgeBytes states' edgeBytes' m n : Nat} (hstep : Adds step a states edgeBytes)
    (hnext : Adds (next a) b states' edgeBytes') (hm : states + states' = m)
    (hn : edgeBytes + edgeBytes' = n) : Adds (step >>= next) b m n := by
  intro s hs
  have hbind : (step >>= next) s = (step s).bind fun result => next result.1 result.2 := rfl
  have hplus : (s.plus states edgeBytes).plus states' edgeBytes' = s.plus m n := by
    simp only [Size.plus, Size.mk.injEq]
    omega
  rw [hbind, hstep s hs]
  by_cases hfits : (s.plus states edgeBytes).bytes ≤ Pattern.sizeLimit
  · rw [if_pos hfits, Option.bind_some, hnext _ hfits, hplus]
  · have hbeyond : ¬(s.plus m n).bytes ≤ Pattern.sizeLimit := by
      simp only [Size.plus, Size.bytes] at hfits ⊢
      omega
    rw [if_neg hfits, if_neg hbeyond, Option.bind_none]

end Automaton

namespace Blueprint

open Automaton

section

variable {backward : Bool}

theorem adds_boundary (asciiOnly : Bool) (b : Boundary) :
    Adds ((boundary asciiOnly b).build backward) false 1 0 := by
  rw [build]
  exact (adds_grow 1 0).bind (adds_pure false) rfl rfl

theorem length_literalBytes {text : List Char} (h : ∀ c ∈ text, isLiteralChar c = true) :
    (literalBytes text).length = text.length := by
  induction text with
  | nil => rfl
  | cons c rest ih =>
    have hcode := (isLiteralChar_bounds (h c List.mem_cons_self)).2
    rw [literalBytes, List.flatMap_cons, List.length_append, ← literalBytes,
      ih fun d hd => h d (List.mem_cons_of_mem _ hd), Unicode.Utf8.encode, if_pos hcode]
    simp [Nat.add_comm]

/-- A literal takes a state for each character. -/
theorem adds_literal {text : List Char} (h : ∀ c ∈ text, isLiteralChar c = true) :
    Adds ((literal text).build backward) false text.length 0 := by
  rw [build, length_literalBytes h]
  exact (adds_grow text.length 0).bind (adds_pure false) rfl rfl

/-- A part before a row adds its own states only, as none of the parts ends in a fork. -/
theorem adds_buildRow_cons {p : Blueprint} {rest : List Blueprint} {last : Option Bool} {m n : Nat}
    (hp : Adds (p.build backward) false m 0) (hrest : Adds (buildRow backward rest) last n 0)
    (hlast : last.getD false = false) :
    Adds (buildRow backward (p :: rest)) (some false) (m + n) 0 := by
  rw [buildRow]
  cases backward with
  | true =>
    have hpart : Adds (do
        let isFork ← p.build true
        grow 0 (wayOut (last.getD false))
        return some isFork) (some false) m 0 := by
      rw [hlast]
      exact hp.bind ((adds_grow 0 0).bind (adds_pure (some false)) rfl rfl) rfl rfl
    exact hrest.bind hpart (Nat.add_comm n m) rfl
  | false =>
    refine hp.bind ?_ rfl (Nat.add_zero 0)
    cases last with
    | none => exact hrest.bind (adds_pure (some false)) rfl rfl
    | some isFork =>
      obtain rfl : isFork = false := hlast
      exact hrest.bind ((adds_grow 0 0).bind (adds_pure (some false)) rfl rfl) rfl rfl

/-- Two parts in a row take the states of both. -/
theorem adds_pair {a b : Blueprint} {m n : Nat} (ha : Adds (a.build backward) false m 0)
    (hb : Adds (b.build backward) false n 0) :
    Adds ((sequence [a, b]).build backward) false (m + n) 0 := by
  have hnil : Adds (buildRow backward []) none 0 0 := by
    rw [buildRow]
    exact adds_pure none
  have hrow := adds_buildRow_cons ha (adds_buildRow_cons hb hnil rfl) rfl
  rw [build]
  exact hrow.bind (adds_pure false) rfl rfl

/-- The size of a whole automaton: a few states besides those of its blueprint. -/
def wholeSize (p : Blueprint) (backward : Bool) (states : Nat) : Size :=
  ⟨(if p.isAnchored backward then 1 else 3) + (states + if backward then 1 else 3),
    if p.isAnchored backward then 0 else 16⟩

theorem adds_buildAll {p : Blueprint} {n : Nat} (hp : Adds (p.build backward) false n 0) :
    Adds (p.buildAll backward) () (p.wholeSize backward n).states
      (p.wholeSize backward n).edgeBytes := by
  unfold buildAll wholeSize
  cases backward with
  | true =>
    have hbody : Adds (do grow 1 (wayOut (← p.build true))) () (n + 1) 0 :=
      hp.bind (adds_grow 1 0) rfl rfl
    cases p.isAnchored true with
    | true => exact (adds_grow 1 0).bind hbody rfl rfl
    | false => exact (adds_grow 3 16).bind hbody rfl rfl
  | false =>
    have hbody : Adds (do
        grow 1 0
        grow 2 (wayOut (← p.build false))) () (n + 3) 0 :=
      (adds_grow 1 0).bind (hp.bind (adds_grow 2 0) rfl rfl) (by omega) rfl
    cases p.isAnchored false with
    | true => exact (adds_grow 1 0).bind hbody rfl rfl
    | false => exact (adds_grow 3 16).bind hbody rfl rfl

theorem isSome_buildAll_iff {p : Blueprint} {n : Nat} (hp : Adds (p.build backward) false n 0) :
    ((p.buildAll backward).run ⟨0, 0⟩).isSome = true ↔
      (p.wholeSize backward n).bytes ≤ Pattern.sizeLimit := by
  rw [StateT.run, adds_buildAll hp ⟨0, 0⟩ (Nat.zero_le _)]
  simp only [Size.plus, Nat.zero_add]
  by_cases h : (p.wholeSize backward n).bytes ≤ Pattern.sizeLimit
  · rw [if_pos h]
    exact iff_of_true rfl h
  · rw [if_neg h]
    exact iff_of_false Bool.false_ne_true h

end

theorem isAnchored_atStart (text : List Char) (backward : Bool) :
    (sequence [boundary false .textStart, literal text]).isAnchored backward = !backward := by
  cases backward <;> simp [isAnchored, anchors, leads, isOnlyEmpty]

theorem isAnchored_atEnd (text : List Char) (backward : Bool) :
    (sequence [literal text, boundary false .textEnd]).isAnchored backward = backward := by
  cases backward <;> simp [isAnchored, anchors, leads, isOnlyEmpty]

/-- Both automata keep within the limit if their sizes do. -/
theorem fits_iff {p : Blueprint} {n : Nat} (hword : p.isWordList = false)
    (hp : ∀ backward, Adds (p.build backward) false n 0) :
    p.fits = true ↔ (p.wholeSize false n).bytes ≤ Pattern.sizeLimit ∧
      (p.wholeSize true n).bytes ≤ Pattern.sizeLimit := by
  rw [fits, hword, Bool.false_or, Bool.and_eq_true, isSome_buildAll_iff (hp false),
    isSome_buildAll_iff (hp true)]

end Blueprint

/-! ## Blueprints -/

/-- One code that is no surrogate is a range of its own. -/
theorem Unicode.Ranges.scalars_one {n : Nat} (hlow : 0 < n) (hhigh : n + 1 < 0xd800) :
    Unicode.Ranges.scalars [(n, n)] = [(n, n)] := by
  have hlast : lastCode = 0x10ffff := rfl
  have hcompl : compl [(n, n)] = [(0, n - 1), (n + 1, lastCode)] := by
    simp only [compl, gapsFrom]
    rw [if_pos hlow, if_pos (by omega)]
    rfl
  have hsurrogates : compl (compl [(0xd800, 0xdfff)]) = [(0xd800, 0xdfff)] := by decide
  have hunion : union [(0, n - 1), (n + 1, lastCode)] [(0xd800, 0xdfff)] =
      [(0, n - 1), (n + 1, lastCode)] := by
    have hsorted : List.mergeSort ([(0, n - 1), (n + 1, lastCode)] ++ [(0xd800, 0xdfff)])
        (fun x y => x.1 ≤ y.1) = [(0, n - 1), (n + 1, lastCode), (0xd800, 0xdfff)] := by
      refine List.mergeSort_of_pairwise ?_
      simp
      omega
    have hmax : max lastCode 0xdfff = lastCode := rfl
    rw [union, normalize, hsorted]
    simp only [joinTouching]
    rw [if_neg (by omega), if_pos (by omega), hmax]
  rw [scalars, diff, inter, hcompl, hsurrogates, hunion]
  simp only [compl, gapsFrom]
  rw [if_neg (by omega), if_pos (by omega), if_neg (by omega)]
  simp only [List.nil_append, List.append_nil, List.cons.injEq, Prod.mk.injEq, and_true]
  omega

theorem CharSet.toRanges_singleton {c : Char} (h : isLiteralChar c = true) :
    (CharSet.singleton c).toRanges = [(c.toNat, c.toNat)] := by
  obtain ⟨hlow, hhigh⟩ := isLiteralChar_bounds h
  have hcodes : (CharSet.singleton c).codeRanges = [(c.toNat, c.toNat)] := by
    rw [singleton, codeRanges, Unicode.Ranges.normalize, List.mergeSort_singleton]
    rfl
  rw [toRanges, hcodes, Unicode.Ranges.scalars_one (by omega) (by omega)]

theorem Pattern.blueprint_ofChar {c : Char} (h : isLiteralChar c = true) :
    (ofChar c).blueprint = .literal [c] := by
  rw [ofChar_literal h, blueprint, CharSet.toRanges_singleton h, Blueprint.ofSet]
  simp only [if_true]
  rw [Char.ofNat_toNat]

namespace Blueprint

theorem joined_literal_of_literal {a b : List Char} {rest parts : List Blueprint}
    (h : joined rest = literal b :: parts) :
    joined (literal a :: rest) = literal (a ++ b) :: parts := by
  rw [joined.eq_def]
  simp only [h]

theorem joined_literal_of_ne {a : List Char} {rest : List Blueprint}
    (h : ∀ b parts, joined rest ≠ literal b :: parts) :
    joined (literal a :: rest) = literal a :: joined rest := by
  rw [joined.eq_def]
  cases hrest : joined rest with
  | nil => simp only [hrest]
  | cons part parts =>
    cases part with
    | literal b => exact absurd hrest (h b parts)
    | _ => simp only [hrest]

theorem joined_boundary (asciiOnly : Bool) (b : Boundary) (rest : List Blueprint) :
    joined (boundary asciiOnly b :: rest) = boundary asciiOnly b :: joined rest := by
  rw [joined.eq_def]

/-- The characters of a literal text become one literal, before what follows it. -/
theorem joined_characters {text : List Char} {tail : List Blueprint} (htext : text ≠ [])
    (htail : ∀ b parts, joined tail ≠ literal b :: parts) :
    joined (text.map (fun c => literal [c]) ++ tail) = literal text :: joined tail := by
  induction text with
  | nil => exact absurd rfl htext
  | cons c rest ih =>
    rw [List.map_cons, List.cons_append]
    cases rest with
    | nil => exact joined_literal_of_ne htail
    | cons d rest => exact joined_literal_of_literal (ih (List.cons_ne_nil d rest))

theorem joined_characters_alone {text : List Char} (htext : text ≠ []) :
    joined (text.map fun c => literal [c]) = [literal text] := by
  have hnil : ∀ b parts, joined [] ≠ literal b :: parts := by simp [joined]
  have hjoined := joined_characters htext hnil
  rwa [List.append_nil, joined] at hjoined

theorem flatMap_inRow_characters (text : List Char) :
    (text.map fun c => literal [c]).flatMap inRow = text.map fun c => literal [c] := by
  induction text with
  | nil => rfl
  | cons c rest ih =>
    rw [List.map_cons, List.flatMap_cons, ih]
    rfl

end Blueprint

namespace Pattern

theorem blueprints_eq_map (parts : List Pattern) : blueprints parts = parts.map blueprint := by
  induction parts with
  | nil => rfl
  | cons p rest ih => rw [blueprints, ih, List.map_cons]

section

variable {text : List Char} (h : ∀ c ∈ text, isLiteralChar c = true)

include h

theorem blueprints_literal :
    (text.map ofChar).map blueprint = text.map fun c => .literal [c] := by
  rw [List.map_map]
  exact List.map_congr_left fun c hc => blueprint_ofChar (h c hc)

theorem blueprint_anywhere (htext : text ≠ []) :
    (rowAt .anywhere text).blueprint = .literal text := by
  match text, htext with
  | [c], _ => exact blueprint_ofChar (h c List.mem_cons_self)
  | c :: d :: rest, htext =>
    rw [rowAt, Place.row, inRow_of_two (by simp), blueprint, blueprints_eq_map,
      blueprints_literal h, Blueprint.ofSequence, Blueprint.flatMap_inRow_characters,
      Blueprint.joined_characters_alone htext]

theorem blueprint_atStart (htext : text ≠ []) :
    (rowAt .atStart text).blueprint =
      .sequence [.boundary false .textStart, .literal text] := by
  have hlength := List.length_pos_iff.mpr htext
  have hstart : (ofChar '^').blueprint = .boundary false .textStart := rfl
  rw [rowAt, Place.row, List.map_cons, inRow_of_two (by simp; omega), blueprint, blueprints_eq_map,
    List.map_cons, blueprints_literal h, hstart, Blueprint.ofSequence, List.flatMap_cons,
    Blueprint.flatMap_inRow_characters]
  have hrow : Blueprint.inRow (.boundary false .textStart) ++
      text.map (fun c => .literal [c]) =
        .boundary false .textStart :: text.map fun c => .literal [c] := rfl
  rw [hrow, Blueprint.joined_boundary, Blueprint.joined_characters_alone htext]

theorem blueprint_atEnd (htext : text ≠ []) :
    (rowAt .atEnd text).blueprint = .sequence [.literal text, .boundary false .textEnd] := by
  have hlength := List.length_pos_iff.mpr htext
  have hend : (ofChar '$').blueprint = .boundary false .textEnd := rfl
  have htail : ∀ b parts, Blueprint.joined [.boundary false .textEnd] ≠ .literal b :: parts := by
    simp [Blueprint.joined]
  rw [rowAt, Place.row, inRow_of_two (by simp; omega), blueprint, blueprints_eq_map,
    List.map_append, List.map_append, blueprints_literal h, List.map_singleton,
    List.map_singleton, hend, Blueprint.ofSequence, List.flatMap_append,
    Blueprint.flatMap_inRow_characters]
  have hrow : List.flatMap Blueprint.inRow [.boundary false .textEnd] =
      [.boundary false .textEnd] := rfl
  rw [hrow, Blueprint.joined_characters htext htail, Blueprint.joined_boundary]
  rfl

/-- A literal text is accepted up to a length that depends on its place. -/
theorem fits_rowAt (place : Place) :
    (rowAt place text).blueprint.fits = true ↔ text.length ≤ place.longest := by
  by_cases htext : text = []
  · subst htext
    refine iff_of_true ?_ (Nat.zero_le _)
    cases place <;> decide
  have hliteral : ∀ backward, Automaton.Adds ((Blueprint.literal text).build backward) false
      text.length 0 := fun _ => Blueprint.adds_literal h
  have hboundary : ∀ b backward, Automaton.Adds ((Blueprint.boundary false b).build backward)
      false 1 0 := fun b _ => Blueprint.adds_boundary false b
  cases place with
  | atStart =>
    rw [blueprint_atStart h htext, Blueprint.fits_iff rfl fun backward =>
      Blueprint.adds_pair (hboundary .textStart backward) (hliteral backward)]
    simp only [Blueprint.wholeSize, Blueprint.isAnchored_atStart, Automaton.Size.bytes,
      sizeLimit, Place.longest, Bool.not_false, Bool.not_true, Bool.false_eq_true, if_true,
      if_false]
    omega
  | anywhere =>
    rw [blueprint_anywhere h htext, Blueprint.fits_iff rfl hliteral]
    simp only [Blueprint.wholeSize, Blueprint.isAnchored, Automaton.Size.bytes, sizeLimit,
      Place.longest, Bool.false_eq_true, if_true, if_false]
    omega
  | atEnd =>
    rw [blueprint_atEnd h htext, Blueprint.fits_iff rfl fun backward =>
      Blueprint.adds_pair (hliteral backward) (hboundary .textEnd backward)]
    simp only [Blueprint.wholeSize, Blueprint.isAnchored_atEnd, Automaton.Size.bytes,
      sizeLimit, Place.longest, Bool.false_eq_true, if_true, if_false]
    omega

/-- The pattern of a literal text at a place; a text that is too long for it has none. -/
theorem compile_row (place : Place) :
    compile {} (String.ofList (place.row text)) =
      if text.length ≤ place.longest then .ok (rowAt place text) else .error .tooLarge := by
  have hread : Reader.read {} (String.ofList (place.row text)) = some (rowAt place text) := by
    rw [Reader.read_row (by rw [String.toList_ofList]; exact isRowChar_row h place),
      String.toList_ofList, rowAt]
  simp only [compile, hread, fits_rowAt h place]

end

end Pattern

end GridQuery
