import GridQuery.Decode.Error
import GridQuery.Json.Reader

/-!
# Decoders

A decoder takes a draft to a value of a type, or to the first error. Drafts come from text or from
values, so one decoder serves both, and a wrong type that stands before a fault of the text is
reported instead of the fault. Models what `Deserialize` is derived to do for requests and
configurations.

* `Decoder`: what decodes a type; scalars, `nullable`, `orDefault`, `list`.
* `record`: named fields in the order of the input; the first error wins, missing fields are noticed
  at the end.
* `decodeText`, `decodeValue`: the two ways to run a decoder.
-/

namespace GridQuery

/-- Decodes a draft of the given origin. -/
abbrev Decoder (α : Type) := Origin → Draft → Except DecodeError α

namespace Decoder

/-! ## Scalars -/

/-- The error for a draft of the wrong shape. -/
def mismatch (expected : String) (draft : Draft) : DecodeError :=
  match draft.shape? with
  | some found => .wrongType found expected
  | none => .text .malformed

/-- The origin inside an array or object. -/
def enter (origin : Origin) : Except DecodeError Origin :=
  match origin.inside? with
  | some inner => .ok inner
  | none => .error (.text .malformed)

/-- An integer from `low` up to, not including, `high`. -/
def integer (expected : String) (low high : Int) : Decoder Int
  | _, .number (some (.int n _)) =>
    if low ≤ n ∧ n < high then .ok n else .error (.wrongValue (.integer n) expected)
  | _, draft => .error (mismatch expected draft)

def uint64 : Decoder UInt64 := fun origin draft =>
  (integer "u64" 0 0x10000000000000000 origin draft).map fun n => UInt64.ofNat n.toNat

def uint32 : Decoder UInt32 := fun origin draft =>
  (integer "u32" 0 0x100000000 origin draft).map fun n => UInt32.ofNat n.toNat

def int64 : Decoder Int64 := fun origin draft =>
  (integer "i64" (-0x8000000000000000) 0x8000000000000000 origin draft).map Int64.ofInt

def bool : Decoder Bool
  | _, .bool b => .ok b
  | _, draft => .error (mismatch "a boolean" draft)

def string : Decoder String
  | _, .string (some s) => .ok s
  | _, draft => .error (mismatch "a string" draft)

/-- Any value. -/
def json : Decoder Json := fun origin draft =>
  match draft.json? origin with
  | some value => .ok value
  | none => .error (.text .malformed)

/-! ## Composed decoders -/

def map {α β : Type} (f : α → β) (decode : Decoder α) : Decoder β := fun origin draft =>
  (decode origin draft).map f

/-- Null stands for an absent value. -/
def nullable {α : Type} (decode : Decoder α) : Decoder (Option α)
  | _, .null => .ok none
  | origin, draft => (decode origin draft).map some

/-- Null stands for the given value. -/
def orDefault {α : Type} (default : α) (decode : Decoder α) : Decoder α :=
  map (·.getD default) (nullable decode)

/-- Each item in turn. -/
def eachItem {α : Type} (decode : Decoder α) (origin : Origin) :
    List Draft → Except DecodeError (List α)
  | [] => .ok []
  | x :: rest =>
    match decode origin x with
    | .error e => .error e
    | .ok value => (eachItem decode origin rest).map (value :: ·)

/-- An array of values of one type. -/
def list {α : Type} (decode : Decoder α) : Decoder (List α)
  | origin, .array items closed => do
    let inner ← enter origin
    let values ← eachItem decode inner items
    if closed then .ok values else .error (.text .malformed)
  | _, draft => .error (mismatch "a sequence" draft)

/-- One of several forms, tried on a whole value. -/
def firstOf {α : Type} (type : String) (forms : List (Json → Option α)) : Decoder α :=
  fun origin draft => do
    let value ← json origin draft
    match forms.findSome? fun form => form value with
    | some x => .ok x
    | none => .error (.noVariant type)

/-- A name, or an object with the name as its only key and null under it. -/
def name : Decoder String
  | _, .string (some s) => .ok s
  | .value, .object [(some key, draft)] true =>
    match draft with
    | .null => .ok key
    | draft => .error (mismatch "unit" draft)
  | .value, .object _ _ => .error (.wrongValue .map "map with a single key")
  | .value, draft => .error (mismatch "string or map" draft)
  | .text depth, .object entries closed => do
    let _ ← enter (.text depth)
    match entries with
    | [] => .error (.text .valueExpected)
    | (none, _) :: _ => .error (.text .malformed)
    | (some key, draft) :: rest =>
      match draft with
      | .null => if closed && rest.isEmpty then .ok key else .error (.text .valueExpected)
      | draft => .error (mismatch "unit" draft)
  | .text _, .string none => .error (.text .malformed)
  | .text _, .broken => .error (.text .malformed)
  | .text _, _ => .error (.text .valueExpected)

/-! ## Records -/

/-- A field of a record that is built up in `σ`. -/
structure RecordField (σ : Type) where
  name : String
  required : Bool
  decode : Decoder (σ → σ)

namespace RecordField

/-- A field that may be left out. -/
def optional {σ α : Type} (name : String) (decode : Decoder α) (set : α → σ → σ) : RecordField σ :=
  ⟨name, false, map set decode⟩

/-- A field that must be there. -/
def mandatory {σ α : Type} (name : String) (decode : Decoder α) (set : α → σ → σ) : RecordField σ :=
  ⟨name, true, map set decode⟩

end RecordField

/-- Takes the entries in order: a known name is decoded, once; the value of an unknown one only has
    to be well formed. Gives the record and the names met. -/
def recordEntries {σ : Type} (fields : List (RecordField σ)) (origin : Origin) :
    (met : List String) → σ → List (Option String × Draft) → Except DecodeError (σ × List String)
  | met, state, [] => .ok (state, met)
  | _, _, (none, _) :: _ => .error (.text .malformed)
  | met, state, (some key, draft) :: rest =>
    match fields.find? fun field => field.name = key with
    | none =>
      if draft.hasFault then .error (.text .malformed)
      else recordEntries fields origin met state rest
    | some field =>
      if key ∈ met then .error (.duplicateField key)
      else
        match field.decode origin draft with
        | .error e => .error e
        | .ok update => recordEntries fields origin (key :: met) (update state) rest

/-- Takes the items as the fields in their order; gives the record and the items left over. -/
def recordItems {σ : Type} (expected : String) (closed : Bool) (origin : Origin) :
    (position : Nat) → σ → List (RecordField σ) → List Draft → Except DecodeError (σ × List Draft)
  | _, state, [], items => .ok (state, items)
  | position, state, field :: fields, [] =>
    if !closed then .error (.text .malformed)
    else if field.required then .error (.wrongLength position expected)
    else recordItems expected closed origin (position + 1) state fields []
  | position, state, field :: fields, item :: items =>
    match field.decode origin item with
    | .error e => .error e
    | .ok update => recordItems expected closed origin (position + 1) (update state) fields items

/-- A record given as an object of its fields, or as an array of them in their order. -/
def record {σ : Type} (type : String) (fields : List (RecordField σ)) (start : σ) : Decoder σ
  | origin, .object entries closed => do
    let inner ← enter origin
    let (state, met) ← recordEntries fields inner [] start entries
    if !closed then .error (.text .malformed)
    match fields.find? fun field => field.required && !met.contains field.name with
    | some field => .error (.missingField field.name)
    | none => .ok state
  | origin, .array items closed => do
    let inner ← enter origin
    let expected := "struct " ++ type ++ " with " ++ toString fields.length ++ " elements"
    let (state, rest) ← recordItems expected closed inner 0 start fields items
    match origin with
    | .text _ =>
      if !rest.isEmpty then .error (.text .trailing)
      if !closed then .error (.text .malformed)
      .ok state
    | .value =>
      if rest.isEmpty then .ok state
      else .error (.wrongLength items.length "fewer elements in array")
  | _, draft => .error (mismatch ("struct " ++ type) draft)

end Decoder

/-! ## Running a decoder -/

/-- Decodes a text; after a value only blanks may follow. -/
def decodeText {α : Type} (decode : Decoder α) (text : String) : Except DecodeError α :=
  let document := Document.read text
  match decode .document document.draft with
  | .error e => .error (if document.json?.isSome then e else e.inMalformed)
  | .ok value => if document.complete then .ok value else .error (.text .malformed)

/-- Decodes a value. -/
def decodeValue {α : Type} (decode : Decoder α) (value : Json) : Except DecodeError α :=
  decode .value (.ofJson value)

end GridQuery
