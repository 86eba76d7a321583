import GridQuery.Pattern.Blueprint
import Std.Data.HashMap

/-!
# Sizes of automata

A pattern is accepted if two automata over bytes keep within a limit: one for reading forward, which
notes where groups start and end, and one for reading backward. States are numbered as they are
built. Each takes 32 bytes; an edge out of a state with several takes 8 bytes more, and each way out
of a fork 4.

* `Automaton.Build`: the size so far; building fails beyond the limit.
* `Blueprint.build`: builds a part.
* `Blueprint.fits`: both automata keep within the limit.
-/

namespace GridQuery

open Unicode

namespace Automaton

/-- The states built so far and the bytes of their edges. -/
structure Size where
  states : Nat
  edgeBytes : Nat
deriving DecidableEq

/-- All bytes. -/
def Size.bytes (s : Size) : Nat := s.states * 32 + s.edgeBytes

/-- A step of building: it goes on from a size, and fails beyond the limit. -/
abbrev Build (α : Type) := StateT Size Option α

/-- Adds states and bytes of edges. -/
def grow (states edgeBytes : Nat) : Build Unit := fun s =>
  let s : Size := ⟨s.states + states, s.edgeBytes + edgeBytes⟩
  if s.bytes ≤ Pattern.sizeLimit then some ((), s) else none

/-- The bytes of one way out of a fork, if the state is one. -/
def wayOut (isFork : Bool) : Nat := if isFork then 4 else 0

/-! ## Shared states -/

/-- States that may be used again, each with what it does, in numbered slots. -/
abbrev Slots := Std.HashMap Nat (List Nat × Nat)

/-- How many slots there are for reading forward. -/
def forwardSlots : UInt64 := 10000

/-- How many slots there are for reading backward. -/
def backwardSlots : UInt64 := 1000

/-- The hash of numbers: each is mixed in and the product taken with a prime, in 64 bits. -/
def hashNumbers (numbers : List Nat) : UInt64 :=
  numbers.foldl (fun h n => (h ^^^ UInt64.ofNat n) * 1099511628211) 14695981039346656037

/-- The state that does what the numbers say: the one in its slot, if it does the same, or else a
    new one, which takes over the slot. -/
def share (slotCount : UInt64) (numbers : List Nat) (edgeBytes : Nat) : StateT Slots Build Nat :=
  fun slots => do
    let slot := (hashNumbers numbers % slotCount).toNat
    match slots[slot]?.filter fun state => state.1 = numbers with
    | some (_, id) => return (id, slots)
    | none =>
      let id := (← get).states
      grow 1 edgeBytes
      return (id, slots.insert slot (numbers, id))

/-! ## Sets -/

/-- Builds a state for sequences of byte ranges that all lead to a last state. Sequences that start
    with the same range go on together. -/
def addForward (last : Nat) : (depth : Nat) → List (List Utf8.ByteRange) → StateT Slots Build Nat
  | 0, _ => return last
  | depth + 1, sequences => do
    let groups := sequences.splitBy fun a b => a.head? = b.head?
    let edges ← groups.mapM fun group =>
      match group with
      | [(low, high)] :: _ => return [low, high, last]
      | ((low, high) :: _) :: _ => do
        return [low, high, ← addForward last depth (group.map (·.drop 1))]
      | _ => return []
    share forwardSlots edges.flatten (8 * edges.length)

/-- Builds a chain of states for a sequence of byte ranges, from the state where reading backward
    ends to the one where it starts. -/
def addBackward : (next : Nat) → List Utf8.ByteRange → StateT Slots Build Nat
  | next, [] => return next
  | next, (low, high) :: rest => do addBackward (← share backwardSlots [next, low, high] 0) rest

/-- Builds a set. One of ASCII only takes one state, another one as many as its bytes need. -/
def addSet (backward : Bool) (members : Ranges) : Build Unit := do
  if members.all fun range => range.2 ≤ 0x7f then grow 2 (8 * members.length)
  else
    let sequences := members.flatMap fun (low, high) => Utf8.sequences low high
    if backward then
      let last := (← getThe Size).states + 1
      grow 2 (4 * sequences.length)
      let _ ← (sequences.forM fun sequence => do discard (addBackward last sequence)).run ∅
    else
      let last := (← getThe Size).states
      grow 1 0
      let _ ← (addForward last 4 sequences).run ∅

/-! ## Literals -/

/-- The bytes of a literal. -/
def literalBytes (text : List Char) : List Nat := text.flatMap fun c => Utf8.encode c.toNat

/-- Splits literals where one of them has ended. -/
def untilEnds : List (List Nat) → List (List (List Nat))
  | [] => [[]]
  | [] :: rest => [] :: untilEnds rest
  | word :: rest =>
    match untilEnds rest with
    | [] => [[word]]
    | segment :: more => (word :: segment) :: more

/-- The first bytes, each once. -/
def firstBytes (words : List (List Nat)) : List Nat := (words.filterMap List.head?).eraseDups

/-- What follows a first byte. -/
def after (byte : Nat) (words : List (List Nat)) : List (List Nat) :=
  words.filterMap fun word => if word.head? = some byte then some (word.drop 1) else none

/-- States and bytes of edges for words that share beginnings, at most `depth` bytes long. Where a
    word ends, the words after it share nothing with those before it. -/
def trieSize : (depth : Nat) → List (List Nat) → Nat × Nat
  | 0, _ => (0, 0)
  | depth + 1, words =>
    let segments := untilEnds (words.dropWhile List.isEmpty)
    let segments := if words.head? = some [] then [] :: segments else segments
    let filled := segments.filter fun segment => !segment.isEmpty
    let forkBytes := 4 * (filled.length + (segments.length - 1))
    filled.foldl (fun total segment =>
      let bytes := firstBytes segment
      let edgeBytes := if bytes.length = 1 then 0 else 8 * bytes.length
      bytes.foldl (fun total byte =>
        let rest := after byte segment
        if rest.all List.isEmpty then total
        else
          let inner := trieSize depth rest
          (total.1 + inner.1, total.2 + inner.2)) (total.1 + 1, total.2 + edgeBytes))
      (1, forkBytes)

/-- The literals of a choice that has nothing else. -/
def literals? (parts : List Blueprint) : Option (List (List Char)) :=
  parts.mapM fun
    | .literal text => some text
    | _ => none

/-! ## Repetitions -/

/-- Builds a part so many times more, after one whose last state may be a fork. -/
def again (one : Build Bool) : Nat → Bool → Build Bool
  | 0, isFork, s => some (isFork, s)
  | n + 1, isFork, s =>
    match (one s) with
    | none => none
    | some (next, s) =>
      match grow 0 (wayOut isFork) s with
      | none => none
      | some ((), s) => again one n next s

/-- Builds a part so many times. -/
def times (one : Build Bool) : Nat → Build Bool
  | 0 => do
    grow 1 0
    return false
  | n + 1 => do again one n (← one)

/-- Builds a part that may be left out, so many times more. -/
def upTo (one : Build Bool) : Nat → Bool → Build Bool
  | 0, isFork, s => some (isFork, s)
  | n + 1, isFork, s =>
    match grow 1 (8 + wayOut isFork) s with
    | none => none
    | some ((), s) =>
      match one s with
      | none => none
      | some (next, s) => upTo one n next s

/-- Builds a repetition without an upper bound of a part that may be empty or not. -/
def atLeast (one : Build Bool) (mayBeEmpty : Bool) : Nat → Build Bool
  | 0 =>
    if mayBeEmpty then do
      let isFork ← one
      grow 3 (wayOut isFork + 16)
      return false
    else do
      grow 1 0
      grow 0 (wayOut (← one) + 4)
      return true
  | 1 => do
    grow 1 (wayOut (← one) + 4)
    return true
  | n + 1 => do
    let isFork ← times one n
    grow 1 (wayOut isFork + wayOut (← one) + 4)
    return true

/-- Builds a repetition with an upper bound. -/
def between (one : Build Bool) (least most : Nat) : Build Bool :=
  if least = 0 ∧ most = 1 then do
    grow 1 0
    grow 1 (8 + wayOut (← one))
    return false
  else if least = most then times one least
  else do
    let isFork ← times one least
    grow 1 0
    let isFork ← upTo one (most - least) isFork
    grow 0 (wayOut isFork)
    return false

end Automaton

/-! ## Building -/

namespace Blueprint

open Automaton

mutual

/-- Builds a part, and says whether its last state is a fork. -/
def build (backward : Bool) : Blueprint → Build Bool
  | empty | boundary _ _ => do
    grow 1 0
    return false
  | literal text => do
    grow (literalBytes text).length 0
    return false
  | set _ members => do
    addSet backward members
    return false
  | sequence parts => do return (← buildRow backward parts).getD false
  | choice parts =>
    match literals? parts with
    | some texts => do
      let words := texts.map fun text =>
        if backward then (literalBytes text).reverse else literalBytes text
      let size := trieSize ((words.map List.length).foldl max 0) words
      grow (size.1 + 1) size.2
      return false
    | none => do
      buildChoice backward 0 parts
      return false
  | .repeat part least most _ =>
    match most with
    | none => atLeast (build backward part) (part.leastLength?.getD 0 = 0) least
    | some most => between (build backward part) least most
  | group part =>
    if backward then build backward part
    else do
      grow 1 0
      grow 1 (wayOut (← build backward part))
      return false

/-- Builds the parts of a row, backward from the last one. Gives nothing for an empty row, and else
    whether the last state is a fork. -/
def buildRow (backward : Bool) : List Blueprint → Build (Option Bool)
  | [] => return none
  | part :: rest =>
    if backward then do
      let before ← buildRow backward rest
      let isFork ← build backward part
      grow 0 (wayOut (before.getD false))
      return some isFork
    else do
      let isFork ← build backward part
      match ← buildRow backward rest with
      | none => return some isFork
      | some last => do
        grow 0 (wayOut isFork)
        return some last

/-- Builds the parts of a choice, of which so many are already built. With the second one come the
    fork before them all and the state after them all. -/
def buildChoice (backward : Bool) : (built : Nat) → List Blueprint → Build Unit
  | _, [] => return ()
  | built, part :: rest => do
    let isFork ← build backward part
    grow (if built = 1 then 2 else 0) (4 + wayOut isFork)
    buildChoice backward (built + 1) rest

end

/-- Builds a whole automaton: what skips the text before, unless the blueprint is anchored, then the
    blueprint, as the first group unless it is read backward, and the state of a match. -/
def buildAll (backward : Bool) (p : Blueprint) : Build Unit := do
  if p.isAnchored backward then grow 1 0 else grow 3 16
  if backward then grow 1 (wayOut (← p.build backward))
  else do
    grow 1 0
    grow 2 (wayOut (← p.build backward))

/-- The least length of a list of words. -/
def wordListLength : Nat := 3000

/-- A long choice of literals, which are looked for as words. -/
def isWordList : Blueprint → Bool
  | choice parts => wordListLength ≤ parts.length && (literals? parts).isSome
  | _ => false

/-- Both automata keep within the limit. A list of words needs none. -/
def fits (p : Blueprint) : Bool :=
  p.isWordList ||
    (((p.buildAll false).run ⟨0, 0⟩).isSome && ((p.buildAll true).run ⟨0, 0⟩).isSome)

end Blueprint

end GridQuery
