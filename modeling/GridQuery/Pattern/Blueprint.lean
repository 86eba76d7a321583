import GridQuery.Pattern.Basic
import GridQuery.Unicode.Utf8

/-!
# Blueprints

What the automaton of a pattern is built from. A blueprint is a pattern in a simpler form: sets are
ranges, single characters in a row are one literal, rows inside rows and choices inside choices are
dissolved, a choice of characters is a set, and what all parts of a choice start with stands before
it.

* `Blueprint.ofSet`, `Blueprint.ofSequence`, `Blueprint.ofChoice`, `Blueprint.ofRepeat`: build
  simple forms from simple forms.
* `Blueprint.leastLength?`, `Blueprint.isOnlyEmpty`: about the lengths of what fits.
* `Blueprint.isAnchored`: what fits starts at the start of the text, or ends at its end.
* `Pattern.blueprint`: the blueprint of a pattern.
-/

namespace GridQuery

open Unicode (Ranges)

/-- What an automaton is built from. -/
inductive Blueprint where
  | empty
  | literal (text : List Char)
  | set (asciiOnly : Bool) (members : Ranges)
  | boundary (asciiOnly : Bool) (b : Boundary)
  | sequence (parts : List Blueprint)
  | choice (parts : List Blueprint)
  | repeat (part : Blueprint) (least : Nat) (most : Option Nat) (greedy : Bool)
  | group (part : Blueprint)

namespace Blueprint

mutual

/-- The same form. Every group is one of its own, so no two are the same. -/
def isSame : Blueprint → Blueprint → Bool
  | empty, empty => true
  | literal a, literal b => a = b
  | set x a, set y b => x = y && a = b
  | boundary x a, boundary y b => x = y && a = b
  | sequence a, sequence b | choice a, choice b => areSame a b
  | .repeat a l m g, .repeat b l' m' g' => l = l' && m = m' && g = g' && isSame a b
  | _, _ => false

/-- The same forms one by one. -/
def areSame : List Blueprint → List Blueprint → Bool
  | [], [] => true
  | x :: a, y :: b => isSame x y && areSame a b
  | _, _ => false

end

/-! ## Lengths -/

/-- The least of some lengths, unless there is none or one is missing. -/
def leastOf : List (Option Nat) → Option Nat
  | [] => none
  | [x] => x
  | x :: rest => do return min (← x) (← leastOf rest)

mutual

/-- A lower bound of the bytes of what fits; nothing at all fits where there is none. -/
def leastLength? : Blueprint → Option Nat
  | empty | boundary _ _ => some 0
  | literal text => some text.length
  | set _ members => if members.isEmpty then none else some 1
  | sequence parts =>
    (leastLengths parts).foldl (fun total x => do return (← total) + (← x)) (some 0)
  | choice parts => leastOf (leastLengths parts)
  | .repeat part least _ _ => (leastLength? part).map (· * least)
  | group part => leastLength? part

def leastLengths : List Blueprint → List (Option Nat)
  | [] => []
  | part :: rest => leastLength? part :: leastLengths rest

end

mutual

/-- Only the empty text fits. -/
def isOnlyEmpty : Blueprint → Bool
  | empty | boundary _ _ => true
  | literal text => text.isEmpty
  | set _ _ => false
  | sequence parts | choice parts => areOnlyEmpty parts
  | .repeat part _ most _ => most = some 0 || (most.isSome && isOnlyEmpty part)
  | group part => isOnlyEmpty part

def areOnlyEmpty : List Blueprint → Bool
  | [] => true
  | part :: rest => isOnlyEmpty part && areOnlyEmpty rest

end

/-! ## Anchors -/

/-- In a row of parts, each given with whether it is anchored and whether only the empty text fits
    it, one is anchored before anything else fits. -/
def leads : List (Bool × Bool) → Bool
  | [] => false
  | (anchored, thin) :: rest => anchored || (thin && leads rest)

mutual

/-- What fits starts at the start of the text, or, backward, ends at its end. -/
def isAnchored (backward : Bool) : Blueprint → Bool
  | boundary _ b => b = if backward then .textEnd else .textStart
  | sequence parts =>
    let marks := anchors backward parts
    leads (if backward then marks.reverse else marks)
  | choice parts => !parts.isEmpty && (anchors backward parts).all (·.1)
  | .repeat part least _ _ => 0 < least && isAnchored backward part
  | group part => isAnchored backward part
  | empty | literal _ | set _ _ => false

/-- Whether each part is anchored, and whether only the empty text fits it. -/
def anchors (backward : Bool) : List Blueprint → List (Bool × Bool)
  | [] => []
  | part :: rest => (isAnchored backward part, isOnlyEmpty part) :: anchors backward rest

end

/-! ## Sets and repetitions -/

/-- Nothing fits. -/
def nothing : Blueprint := set true []

/-- A set of characters; a single one is a literal. -/
def ofSet (asciiOnly : Bool) (members : Ranges) : Blueprint :=
  match members with
  | [] => nothing
  | [(low, high)] => if low = high then literal [Char.ofNat low] else set asciiOnly members
  | _ => set asciiOnly members

/-- A repetition; one of the empty text only is done at most once, and exactly one round is no
    repetition. -/
def ofRepeat (part : Blueprint) (least : Nat) (most : Option Nat) (greedy : Bool) : Blueprint :=
  let (least, most) :=
    if part.isOnlyEmpty then (min least 1, some (min (most.getD 1) 1)) else (least, most)
  if least = 0 ∧ most = some 0 then empty
  else if least = 1 ∧ most = some 1 then part
  else .repeat part least most greedy

/-! ## Sequences -/

/-- The parts of a row, or the one part. -/
def inRow : Blueprint → List Blueprint
  | sequence parts => parts
  | part => [part]

/-- Leaves out the empty parts and joins literals that stand next to each other. -/
def joined : List Blueprint → List Blueprint
  | [] => []
  | part :: rest =>
    match part, joined rest with
    | empty, parts => parts
    | literal a, literal b :: parts => literal (a ++ b) :: parts
    | part, parts => part :: parts

/-- Parts one after the other. -/
def ofSequence (parts : List Blueprint) : Blueprint :=
  match joined (parts.flatMap inRow) with
  | [] => empty
  | [part] => part
  | parts => sequence parts

/-! ## Choices -/

/-- The parts of a choice, or the one part. -/
def inChoice : Blueprint → List Blueprint
  | choice parts => parts
  | part => [part]

/-- The character of a literal that has one only. -/
def singleChar? : Blueprint → Option Char
  | literal [c] => some c
  | _ => none

/-- The members of a set. -/
def members? : Blueprint → Option Ranges
  | set _ members => some members
  | _ => none

/-- The parts of a row. -/
def row? : Blueprint → Option (List Blueprint)
  | sequence parts => some parts
  | _ => none

/-- How many parts two rows have in common from the start. -/
def commonLength : List Blueprint → List Blueprint → Nat
  | x :: a, y :: b => if x.isSame y then commonLength a b + 1 else 0
  | _, _ => 0

/-- How many parts all rows have in common with the first of them. -/
def sharedLength : List (List Blueprint) → Nat
  | [] => 0
  | first :: rest => (rest.map (commonLength first)).foldl min first.length

/-- A choice as one set, if all its parts are single characters or all are sets. -/
def asSet? (parts : List Blueprint) : Option Blueprint :=
  match parts.mapM singleChar? with
  | some chars => some (ofSet false (Ranges.normalize (chars.map fun c => (c.toNat, c.toNat))))
  | none => (parts.mapM members?).map fun members => ofSet false (Ranges.normalize members.flatten)

/-- One of the parts. What all of them start with is taken out, at most `fuel` times in turn. -/
def choiceOf : (fuel : Nat) → List Blueprint → Blueprint
  | fuel, parts =>
    match parts.flatMap inChoice with
    | [] => nothing
    | [part] => part
    | parts =>
      match asSet? parts with
      | some form => form
      | none =>
        match fuel, parts.mapM row? with
        | fuel + 1, some rows =>
          match sharedLength rows with
          | 0 => choice parts
          | shared + 1 =>
            let rests := rows.map fun row => ofSequence (row.drop (shared + 1))
            ofSequence ((rows.headD []).take (shared + 1) ++ [choiceOf fuel rests])
        | _, _ => choice parts

mutual

/-- How many forms a form is made of. -/
def count : Blueprint → Nat
  | sequence parts | choice parts => countAll parts + 1
  | .repeat part _ _ _ | group part => count part + 1
  | empty | literal _ | set _ _ | boundary _ _ => 1

def countAll : List Blueprint → Nat
  | [] => 0
  | part :: rest => count part + countAll rest

end

/-- One of the parts. Whatever is taken out leaves fewer forms, so there is fuel enough. -/
def ofChoice (parts : List Blueprint) : Blueprint := choiceOf (countAll parts) parts

end Blueprint

/-! ## Patterns -/

/-- What kind of word characters there are matters to these boundaries. -/
def Boundary.isOfWords : Boundary → Bool
  | textStart | textEnd | lineStart | lineEnd | anyLineStart | anyLineEnd => false
  | word | notWord | wordStart | wordEnd | wordStartHalf | wordEndHalf => true

namespace Pattern

mutual

/-- The blueprint of a pattern. -/
def blueprint : Pattern → Blueprint
  | empty => .empty
  | set asciiOnly s => .ofSet asciiOnly s.toRanges
  | boundary asciiOnly b => .boundary (asciiOnly && b.isOfWords) b
  | sequence parts => .ofSequence (blueprints parts)
  | choice parts => .ofChoice (blueprints parts)
  | .repeat p least most greedy => .ofRepeat (blueprint p) least most greedy
  | group p => .group (blueprint p)

def blueprints : List Pattern → List Blueprint
  | [] => []
  | p :: rest => blueprint p :: blueprints rest

end

end Pattern

end GridQuery
