import GridQuery.Pattern.Automaton
import GridQuery.Pattern.Named
import GridQuery.Unicode.Alphanumeric

/-!
# Reading patterns

The text form of patterns: literals, `.`, classes in brackets, groups, alternatives, repetitions,
boundaries and flags. There are no back-references and no look-around. Models `RegexBuilder`.

* `Flags`: what the letters `i`, `m`, `s`, `x`, `u`, `R` and `U` switch.
* `Pattern.compile`: the pattern of a text, or why there is none.
-/

namespace GridQuery

/-- What flags switch. -/
structure Flags where
  /-- Letters match all their cases. -/
  caseless : Bool := false
  /-- `^` and `$` match at lines. -/
  multiLine : Bool := false
  /-- A point matches line ends too. -/
  dotAll : Bool := false
  /-- Blanks and comments in the pattern are skipped. -/
  spaced : Bool := false
  /-- Classes and cases are those of Unicode. -/
  unicode : Bool := true
  /-- A carriage return ends a line too. -/
  anyLineEnd : Bool := false
  /-- Repetitions prefer few rounds, and many with a question mark after them. -/
  swapGreed : Bool := false
deriving DecidableEq

namespace Pattern.Reader

/-! ## State -/

/-- What is still to be read, the flags in force and the group names met. -/
structure State where
  rest : List Char
  flags : Flags
  names : List (List Char)

/-- Something read, with how deep it nests. -/
structure Nested (α : Type) where
  value : α
  depth : Nat

/-- One element of a row; a setting of flags is one too, but cannot be repeated. -/
structure Piece where
  pattern : Pattern
  depth : Nat
  isSetting : Bool := false

/-- The piece as a group. -/
def Piece.grouped (piece : Piece) : Piece := { piece with pattern := .group piece.pattern }

/-- How deep a pattern may nest. -/
def maxDepth : Nat := 250

/-- Skips blanks and comments, which run from a number sign to the end of the line. -/
def skipSpaces : (comment : Bool) → List Char → List Char
  | _, [] => []
  | true, c :: rest => skipSpaces (c ≠ '\n') rest
  | false, c :: rest =>
    if Unicode.isWhitespace c then skipSpaces false rest
    else if c = '#' then skipSpaces true rest
    else c :: rest

namespace State

/-- Skips blanks and comments if the flags say so. -/
def space (s : State) : State :=
  if s.flags.spaced then { s with rest := skipSpaces false s.rest } else s

/-- Goes on to another rest. -/
def goto (s : State) (rest : List Char) : State := { s with rest := rest }

/-- Goes on to another rest and skips blanks. -/
def gotoSpace (s : State) (rest : List Char) : State := (s.goto rest).space

end State

/-! ## Characters -/

/-- Characters that mean something; with a backslash they stand for themselves. -/
def isMeta (c : Char) : Bool := c ∈ "\\.+*?()|[]\x7b\x7d^$#&-~".toList

/-- A character that stands for itself after a backslash. -/
def isEscapable (c : Char) : Bool :=
  isMeta c || (c.toNat < 128 && !c.isAlphanum && c ≠ '<' && c ≠ '>')

/-- The code of a hexadecimal digit. -/
def hexValue? (c : Char) : Option Nat :=
  if '0' ≤ c ∧ c ≤ '9' then some (c.toNat - 48)
  else if 'a' ≤ c ∧ c ≤ 'f' then some (c.toNat - 87)
  else if 'A' ≤ c ∧ c ≤ 'F' then some (c.toNat - 55)
  else none

/-- The character of a code; surrogates have none. -/
def charOf? (code : Nat) : Option Char :=
  if code < 0xD800 ∨ (0xE000 ≤ code ∧ code < 0x110000) then some (Char.ofNat code) else none

/-- So many hexadecimal digits. -/
def hexDigits : (count code : Nat) → State → Option (Nat × State)
  | 0, code, s => some (code, s)
  | count + 1, code, s =>
    match s.rest with
    | [] => none
    | c :: rest => do
      let digit ← hexValue? c
      hexDigits count (code * 16 + digit) (s.gotoSpace rest)

/-- Hexadecimal digits up to a closing brace; there is at least one. -/
def hexBrace : (fuel : Nat) → (code : Option Nat) → State → Option (Nat × State)
  | 0, _, _ => none
  | fuel + 1, code, s =>
    match s.rest with
    | [] => none
    | c :: rest =>
      if c = '\x7d' then code.map fun code => (code, s.gotoSpace rest)
      else do
        let digit ← hexValue? c
        hexBrace fuel (some (code.getD 0 * 16 + digit)) (s.gotoSpace rest)

/-- A literal; one of two hexadecimal digits may name a byte. -/
structure LiteralChar where
  char : Char
  isByte : Bool := false

/-- What a backslash and the characters after it stand for. -/
inductive Escape where
  | literal (c : LiteralChar)
  | short (c : ShortClass) (negated : Bool)
  | named (set : CharSet) (negated : Bool)
  | boundary (b : Boundary)

/-- The hexadecimal escape of a letter. -/
def hexEscape (letter : Char) (s : State) : Option (Escape × State) := do
  let count := if letter = 'x' then 2 else if letter = 'u' then 4 else 8
  match s.rest with
  | [] => none
  | c :: rest =>
    let (code, s) ←
      if c = '\x7b' then
        let s := s.gotoSpace rest
        hexBrace (s.rest.length + 1) none s
      else hexDigits count 0 s
    let char ← charOf? code
    return (.literal ⟨char, letter = 'x' && c ≠ '\x7b'⟩, s)

/-- The characters up to a closing brace. -/
def braceText : (fuel : Nat) → State → Option (List Char × State)
  | 0, _ => none
  | fuel + 1, s =>
    match s.rest with
    | [] => none
    | c :: rest =>
      if c = '\x7d' then some ([], s.goto rest)
      else (braceText fuel (s.gotoSpace rest)).map fun (text, s) => (c :: text, s)

/-- A Unicode class, named by one letter or between braces. -/
def classEscape (negated : Bool) (s : State) : Option (Escape × State) := do
  if !s.flags.unicode then none
  match s.rest with
  | [] => none
  | c :: rest =>
    let (name, s) ←
      if c = '\x7b' then
        let s := s.gotoSpace rest
        braceText (s.rest.length + 1) s
      else if c = '\\' then none
      else some ([c], s.gotoSpace rest)
    let (members, isComplement) ← unicodeClass? name
    return (.named members (negated != isComplement), s)

/-- The letters of a special word boundary. -/
def boundaryName : (fuel : Nat) → State → List Char × State
  | 0, s => ([], s)
  | fuel + 1, s =>
    match s.rest with
    | c :: rest =>
      if c.isAlpha || c = '-' then
        let (name, s) := boundaryName fuel (s.gotoSpace rest)
        (c :: name, s)
      else ([], s)
    | [] => ([], s)

/-- The special word boundaries by their names. -/
def namedBoundary? (name : List Char) : Option Boundary :=
  if name = "start".toList then some .wordStart
  else if name = "end".toList then some .wordEnd
  else if name = "start-half".toList then some .wordStartHalf
  else if name = "end-half".toList then some .wordEndHalf
  else none

/-- A word boundary, special if a name in braces follows; what else follows in braces is left to be
    a repetition. -/
def wordBoundary (s : State) : Option (Escape × State) :=
  match s.rest with
  | '\x7b' :: rest =>
    let inner := s.gotoSpace rest
    match inner.rest with
    | [] => none
    | c :: _ =>
      if c.isAlpha || c = '-' then
        let (name, after) := boundaryName (inner.rest.length + 1) inner
        match after.rest with
        | '\x7d' :: rest => (namedBoundary? name).map fun b => (.boundary b, after.goto rest)
        | _ => none
      else some (.boundary .word, s)
  | _ => some (.boundary .word, s)

/-- What follows a backslash. -/
def escape (s : State) : Option (Escape × State) :=
  match s.rest with
  | [] => none
  | c :: rest =>
    let code (n : Nat) : Option (Escape × State) :=
      some (.literal ⟨Char.ofNat n, false⟩, s.goto rest)
    let boundary (b : Boundary) : Option (Escape × State) := some (.boundary b, s.goto rest)
    if c = 'x' ∨ c = 'u' ∨ c = 'U' then hexEscape c (s.gotoSpace rest)
    else if c = 'p' ∨ c = 'P' then classEscape (c = 'P') (s.gotoSpace rest)
    else
      match ShortClass.ofLetter? c with
      | some (short, negated) => some (.short short negated, s.goto rest)
      | none =>
        if isEscapable c then code c.toNat
        else if c = 'a' then code 7
        else if c = 'f' then code 12
        else if c = 't' then code 9
        else if c = 'n' then code 10
        else if c = 'r' then code 13
        else if c = 'v' then code 11
        else if c = 'A' then boundary .textStart
        else if c = 'z' then boundary .textEnd
        else if c = 'b' then wordBoundary (s.goto rest)
        else if c = 'B' then boundary .notWord
        else if c = '<' then boundary .wordStart
        else if c = '>' then boundary .wordEnd
        else none

/-! ## Sets -/

/-- All cases, if the flags say so. -/
def foldIf (flags : Flags) (set : CharSet) : CharSet :=
  if flags.caseless then .folded (!flags.unicode) set else set

/-- The set or its complement; a complement needs Unicode. -/
def negateIf (flags : Flags) (negated : Bool) (set : CharSet) : Option CharSet :=
  if !negated then some set else if flags.unicode then some (.compl set) else none

/-- A set that is written on its own: folded, and then complemented. -/
def finish (flags : Flags) (negated : Bool) (set : CharSet) : Option CharSet :=
  negateIf flags negated (foldIf flags set)

/-- The set of an escape, unless it is a boundary. -/
def escapeSet? (flags : Flags) : Escape → Option CharSet
  | .short c negated => negateIf flags negated (.ranges (c.ranges !flags.unicode))
  | .named members negated => finish flags negated members
  | .literal _ | .boundary _ => none

/-- A literal as the flags allow it: without Unicode, a byte beyond ASCII is no character. -/
def allowed? (flags : Flags) (c : LiteralChar) : Option Char :=
  if !flags.unicode && c.isByte && 127 < c.char.toNat then none else some c.char

/-- A literal inside brackets; without Unicode it is one of ASCII. -/
def allowedInSet? (flags : Flags) (c : LiteralChar) : Option Char :=
  if !flags.unicode && 127 < c.char.toNat then none else some c.char

/-- One element of a set: a literal or an escape. -/
def setItem (s : State) : Option (Escape × State) :=
  match s.rest with
  | [] => none
  | '\\' :: rest => escape (s.goto rest)
  | c :: rest => some (.literal ⟨c, false⟩, s.goto rest)

/-- The character after the one at hand, blanks left out if the flags say so. -/
def peekSpace (flags : Flags) : List Char → Option Char
  | [] => none
  | _ :: rest =>
    if flags.spaced then
      let rec go : (comment : Bool) → List Char → Option Char
        | _, [] => none
        | comment, c :: rest =>
          if Unicode.isWhitespace c then go comment rest
          else if !comment && c = '#' then go true rest
          else some c
      go false rest
    else rest.head?

/-- A range, or a single element. -/
def setRange (s : State) : Option (CharSet × State) := do
  let (first, s) ← setItem s
  let s := s.space
  match s.rest with
  | [] => none
  | c :: rest =>
    let next := peekSpace s.flags s.rest
    if c ≠ '-' ∨ next = some ']' ∨ next = some '-' then
      match first with
      | .literal l =>
        let char ← allowedInSet? s.flags l
        return (.singleton char, s)
      | other =>
        let members ← escapeSet? s.flags other
        return (members, s)
    else
      let (last, s) ← setItem (s.gotoSpace rest)
      match first, last with
      | .literal a, .literal b =>
        let low ← allowedInSet? s.flags a
        let high ← allowedInSet? s.flags b
        if low ≤ high then some (.ranges [(low.toNat, high.toNat)], s) else none
      | _, _ => none

/-- An operation on two sets. -/
inductive SetOperation where
  | inter
  | diff
  | symmDiff

/-- The elements of a set in brackets as one set. -/
def unite : List (Nested CharSet) → Nested CharSet
  | [] => ⟨.empty, 0⟩
  | [x] => x
  | x :: rest =>
    rest.foldl (fun all y => ⟨.union all.value y.value, max all.depth (y.depth + 1)⟩)
      ⟨x.value, x.depth + 1⟩

/-- The operands of an operation so far, joined with the elements after it. -/
def combine (flags : Flags) (pending : Option (SetOperation × Nested CharSet))
    (last : Nested CharSet) : Nested CharSet :=
  match pending with
  | none => last
  | some (operation, first) =>
    let a := foldIf flags first.value
    let b := foldIf flags last.value
    let set : CharSet :=
      match operation with
      | .inter => .inter a b
      | .diff => .diff a b
      | .symmDiff => .symmDiff a b
    ⟨set, max first.depth last.depth + 1⟩

/-- A bracketed class of ASCII after its opening bracket, if one stands there. -/
def asciiSet? (rest : List Char) : Option (Unicode.Ranges × Bool × List Char) :=
  match rest with
  | ':' :: rest =>
    let (negated, rest) :=
      match rest with
      | '^' :: rest => (true, rest)
      | _ => (false, rest)
    match rest.dropWhile (· ≠ ':') with
    | ':' :: ']' :: after =>
      (asciiClass? (String.ofList (rest.takeWhile (· ≠ ':')))).map fun r => (r, negated, after)
    | _ => none
  | _ => none

/-- Hyphens at the start of a set, and without one a closing bracket, stand for themselves. -/
def leading : (fuel : Nat) → (items : List (Nested CharSet)) → State →
    List (Nested CharSet) × State
  | 0, items, s => (items, s)
  | fuel + 1, items, s =>
    match s.rest with
    | '-' :: rest => leading fuel (⟨.singleton '-', 0⟩ :: items) (s.gotoSpace rest)
    | ']' :: rest =>
      if items.isEmpty then ([⟨.singleton ']', 0⟩], s.gotoSpace rest) else (items, s)
    | _ => (items, s)

mutual

/-- A set after its opening bracket. -/
def readSet : (fuel : Nat) → State → Option (Nested CharSet × State)
  | 0, _ => none
  | fuel + 1, s => do
    let s := s.space
    let (negated, s) :=
      match s.rest with
      | '^' :: rest => (true, s.gotoSpace rest)
      | _ => (false, s)
    let (items, s) := leading (s.rest.length + 1) [] s
    let (inner, s) ← readSetItems fuel items none s
    let set ← finish s.flags negated inner.value
    return (⟨set, inner.depth + 1⟩, s)

/-- The elements of a set up to its closing bracket, last first, after an operation if one is
    pending. -/
def readSetItems : (fuel : Nat) → (items : List (Nested CharSet)) →
    (pending : Option (SetOperation × Nested CharSet)) → State →
    Option (Nested CharSet × State)
  | 0, _, _, _ => none
  | fuel + 1, items, pending, s =>
    let s := s.space
    let joined := combine s.flags pending (unite items)
    match s.rest with
    | [] => none
    | '[' :: rest =>
      match asciiSet? rest with
      | some (r, negated, after) => do
        let set ← finish s.flags negated (.ranges r)
        readSetItems fuel (⟨set, 0⟩ :: items) pending (s.goto after)
      | none => do
        let (inner, s) ← readSet fuel (s.goto rest)
        readSetItems fuel (inner :: items) pending s
    | ']' :: rest => some (joined, s.goto rest)
    | '&' :: '&' :: rest => readSetItems fuel [] (some (.inter, joined)) (s.goto rest)
    | '-' :: '-' :: rest => readSetItems fuel [] (some (.diff, joined)) (s.goto rest)
    | '~' :: '~' :: rest => readSetItems fuel [] (some (.symmDiff, joined)) (s.goto rest)
    | _ => do
      let (members, s) ← setRange s
      readSetItems fuel (⟨members, 0⟩ :: items) pending s

end

/-! ## Flags -/

/-- Switches one flag. -/
def Flags.switch? (value : Bool) (letter : Char) (flags : Flags) : Option Flags :=
  if letter = 'i' then some { flags with caseless := value }
  else if letter = 'm' then some { flags with multiLine := value }
  else if letter = 's' then some { flags with dotAll := value }
  else if letter = 'x' then some { flags with spaced := value }
  else if letter = 'u' then some { flags with unicode := value }
  else if letter = 'R' then some { flags with anyLineEnd := value }
  else if letter = 'U' then some { flags with swapGreed := value }
  else none

/-- Flag letters up to a colon or a closing parenthesis: none twice, and none missing after the
    hyphen that switches flags off. Gives the flags, the letters met and the rest. -/
def readFlags (flags : Flags) :
    (met : List Char) → List Char → Option (Flags × List Char × List Char)
  | _, [] => none
  | met, c :: rest =>
    if c = ':' ∨ c = ')' then
      if met.head? = some '-' then none else some (flags, met, c :: rest)
    else if c ∈ met then none
    else if c = '-' then readFlags flags (c :: met) rest
    else
      match Flags.switch? (decide ('-' ∉ met)) c flags with
      | some flags => readFlags flags (c :: met) rest
      | none => none

/-! ## Repetitions -/

/-- A decimal number with blanks around it. -/
def readCount (s : State) : Option (Nat × State) :=
  let rec digits : (fuel : Nat) → (count : Option Nat) → State → Option Nat × State
    | 0, count, s => (count, s)
    | fuel + 1, count, s =>
      match s.rest with
      | c :: rest =>
        if c.isDigit then
          digits fuel (some (count.getD 0 * 10 + (c.toNat - 48))) (s.gotoSpace rest)
        else (count, s)
      | [] => (count, s)
  let rec blanks : (fuel : Nat) → State → State
    | 0, s => s
    | fuel + 1, s =>
      match s.rest with
      | c :: rest => if Unicode.isWhitespace c then blanks fuel (s.gotoSpace rest) else s
      | [] => s
  let start := s.goto (s.rest.dropWhile Unicode.isWhitespace)
  let fuel := s.rest.length + 1
  match digits fuel none start with
  | (some count, s) => if count < UInt32.size then some (count, blanks fuel s) else none
  | (none, _) => none

/-- A repetition of the last piece. A question mark after it changes what it prefers. -/
def repeated (pieces : List Piece) (least : Nat) (most : Option Nat) (s : State) :
    Option (List Piece × State) :=
  match pieces with
  | [] => none
  | piece :: before =>
    if piece.isSetting then none
    else
      let (isMarked, rest) :=
        match s.rest with
        | '?' :: rest => (true, rest)
        | rest => (false, rest)
      let greedy := isMarked == s.flags.swapGreed
      some (⟨.repeat piece.pattern least most greedy, piece.depth + 1, false⟩ :: before,
        s.goto rest)

/-- A counted repetition after its opening brace. -/
def countedRepetition (pieces : List Piece) (s : State) : Option (List Piece × State) := do
  let (least, s) ← readCount s
  match s.rest with
  | '\x7d' :: rest => repeated pieces least (some least) (s.gotoSpace rest)
  | ',' :: rest =>
    let s := s.gotoSpace rest
    match s.rest with
    | '\x7d' :: rest => repeated pieces least none (s.gotoSpace rest)
    | _ =>
      let (most, s) ← readCount s
      match s.rest with
      | '\x7d' :: rest =>
        if least ≤ most then repeated pieces least (some most) (s.gotoSpace rest) else none
      | _ => none
  | _ => none

/-! ## Patterns -/

/-- One character of a set. -/
def setPattern (flags : Flags) (members : CharSet) : Pattern := .set (!flags.unicode) members

/-- One character in all the cases that the flags ask for. -/
def charPattern (flags : Flags) (c : Char) : Pattern :=
  setPattern flags (foldIf flags (.singleton c))

/-- Any character, or any but the ends of lines; without Unicode it would be a byte. -/
def dotPattern? (flags : Flags) : Option Pattern :=
  if !flags.unicode then none
  else
    let excluded : Unicode.Ranges :=
      if flags.dotAll then []
      else if flags.anyLineEnd then [(10, 10), (13, 13)]
      else [(10, 10)]
    some (setPattern flags (.compl (.ranges excluded)))

/-- What `^` stands for. -/
def lineStart (flags : Flags) : Boundary :=
  if !flags.multiLine then .textStart else if flags.anyLineEnd then .anyLineStart else .lineStart

/-- What `$` stands for. -/
def lineEnd (flags : Flags) : Boundary :=
  if !flags.multiLine then .textEnd else if flags.anyLineEnd then .anyLineEnd else .lineEnd

/-- The pattern of an escape. -/
def escapePattern? (flags : Flags) : Escape → Option Pattern
  | .literal l => (allowed? flags l).map (charPattern flags)
  | .boundary b => some (.boundary (!flags.unicode) b)
  | other => (escapeSet? flags other).map (setPattern flags)

/-- A character of a group name. -/
def isNameChar (first : Bool) (c : Char) : Bool :=
  if first then c = '_' || Unicode.isAlphabetic c
  else c = '_' || c = '.' || c = '[' || c = ']' || Unicode.isAlphanumeric c

/-- A group name up to its closing angle bracket; no name twice. -/
def groupName (s : State) : Option State :=
  let name := s.rest.takeWhile (· ≠ '>')
  match s.rest.dropWhile (· ≠ '>'), name with
  | '>' :: rest, first :: more =>
    if isNameChar true first && more.all (isNameChar false) && name ∉ s.names then
      some { s with rest := rest, names := name :: s.names }
    else none
  | _, _ => none

/-- A row of pieces, last first, as one piece. -/
def row (pieces : List Piece) : Piece :=
  match pieces with
  | [] => ⟨.empty, 0, false⟩
  | [piece] => ⟨piece.pattern, piece.depth, false⟩
  | pieces =>
    ⟨Pattern.sequence (pieces.reverse.map (·.pattern)),
      (pieces.map (·.depth)).foldl max 0 + 1, false⟩

/-- Alternatives, last first, as one piece. -/
def choices (rows : List Piece) : Piece :=
  match rows with
  | [piece] => piece
  | rows =>
    ⟨Pattern.choice (rows.reverse.map (·.pattern)), (rows.map (·.depth)).foldl max 0 + 1, false⟩

mutual

/-- Alternatives up to a closing parenthesis or the end. -/
def readChoices : (fuel : Nat) → (rows : List Piece) → State → Option (Piece × State)
  | 0, _, _ => none
  | fuel + 1, rows, s => do
    let (pieces, s) ← readRow fuel [] s
    let rows := row pieces :: rows
    match s.rest with
    | '|' :: rest => readChoices fuel rows (s.goto rest)
    | _ => some (choices rows, s)

/-- Pieces, last first, up to a bar, a closing parenthesis or the end. -/
def readRow : (fuel : Nat) → (pieces : List Piece) → State → Option (List Piece × State)
  | 0, _, _ => none
  | fuel + 1, pieces, s =>
    let s := s.space
    let boundary (b : Boundary) (rest : List Char) : Option (List Piece × State) :=
      readRow fuel (⟨.boundary (!s.flags.unicode) b, 0, false⟩ :: pieces) (s.goto rest)
    match s.rest with
    | [] | '|' :: _ | ')' :: _ => some (pieces, s)
    | '(' :: rest => do
      let (piece, s) ← readGroup fuel (s.gotoSpace rest)
      readRow fuel (piece :: pieces) s
    | '[' :: rest => do
      let (inner, s) ← readSet fuel (s.goto rest)
      readRow fuel (⟨setPattern s.flags inner.value, inner.depth, false⟩ :: pieces) s
    | '?' :: rest => do
      let (pieces, s) ← repeated pieces 0 (some 1) (s.goto rest)
      readRow fuel pieces s
    | '*' :: rest => do
      let (pieces, s) ← repeated pieces 0 none (s.goto rest)
      readRow fuel pieces s
    | '+' :: rest => do
      let (pieces, s) ← repeated pieces 1 none (s.goto rest)
      readRow fuel pieces s
    | '\x7b' :: rest => do
      if pieces.isEmpty then none
      let (pieces, s) ← countedRepetition pieces (s.gotoSpace rest)
      readRow fuel pieces s
    | '\\' :: rest => do
      let (e, s) ← escape (s.goto rest)
      let p ← escapePattern? s.flags e
      readRow fuel (⟨p, 0, false⟩ :: pieces) s
    | '.' :: rest => do
      let p ← dotPattern? s.flags
      readRow fuel (⟨p, 0, false⟩ :: pieces) (s.goto rest)
    | '^' :: rest => boundary (lineStart s.flags) rest
    | '$' :: rest => boundary (lineEnd s.flags) rest
    | c :: rest => readRow fuel (⟨charPattern s.flags c, 0, false⟩ :: pieces) (s.goto rest)

/-- A group after its opening parenthesis, or a setting of flags. -/
def readGroup : (fuel : Nat) → State → Option (Piece × State)
  | 0, _ => none
  | fuel + 1, s =>
    match s.rest with
    | '?' :: '=' :: _ | '?' :: '!' :: _ | '?' :: '<' :: '=' :: _ | '?' :: '<' :: '!' :: _ => none
    | '?' :: 'P' :: '<' :: rest => do
      let inner ← groupName (s.goto rest)
      let (piece, s) ← closeGroup fuel s.flags inner
      return (piece.grouped, s)
    | '?' :: '<' :: rest => do
      let inner ← groupName (s.goto rest)
      let (piece, s) ← closeGroup fuel s.flags inner
      return (piece.grouped, s)
    | '?' :: rest => do
      let (flags, met, rest) ← readFlags s.flags [] rest
      match rest with
      | ')' :: rest =>
        if met.isEmpty then none
        else some (⟨.empty, 0, true⟩, { s with rest := rest, flags := flags })
      | ':' :: rest => closeGroup fuel s.flags { s with rest := rest, flags := flags }
      | _ => none
    | _ => do
      let (piece, s) ← closeGroup fuel s.flags s
      return (piece.grouped, s)

/-- The content of a group and its closing parenthesis, after which the flags are as before. -/
def closeGroup : (fuel : Nat) → Flags → State → Option (Piece × State)
  | 0, _, _ => none
  | fuel + 1, outer, s => do
    let (piece, s) ← readChoices fuel [] s
    match s.rest with
    | ')' :: rest =>
      some (⟨piece.pattern, piece.depth + 1, false⟩, { s with rest := rest, flags := outer })
    | _ => none

end

/-- The pattern of a whole text. -/
def read (flags : Flags) (text : String) : Option Pattern := do
  let chars := text.toList
  let (piece, s) ← readChoices (4 * chars.length + 4) [] ⟨chars, flags, []⟩
  if s.rest.isEmpty && piece.depth ≤ maxDepth then some piece.pattern else none

end Pattern.Reader

/-- The pattern of a text under the given flags. -/
def Pattern.compile (flags : Flags) (text : String) : Except PatternError Pattern :=
  match Pattern.Reader.read flags text with
  | none => .error .malformed
  | some p => if p.blueprint.fits then .ok p else .error .tooLarge

end GridQuery
