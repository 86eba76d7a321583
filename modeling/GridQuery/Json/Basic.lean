import GridQuery.Binary64.Decimal

/-!
# JSON values

A value keeps the order of its object entries and the difference between integers and binary64
numbers: `1` and `1.0` are two values. Models `Value` and `Map`.

* `Number`: an integer of the signed or unsigned 64-bit range, or a finite binary64 number.
* `Json`: the values, with decidable equality.
* `Entries`: an object's entries, with `get?`, `insert` (in place), `swapRemove` and the key order;
  `get?_insert_self`, `get?_insert_of_ne` and `keys_insert` say what setting a key does.
* `Json.WellFormed`: no object repeats a key.
-/

namespace GridQuery

/-! ## Numbers -/

/-- The integers that are kept as integers: those of 64 bits, signed or unsigned. -/
def InWordRange (n : Int) : Prop := -0x8000000000000000 ≤ n ∧ n < 0x10000000000000000

instance (n : Int) : Decidable (InWordRange n) :=
  inferInstanceAs (Decidable (_ ∧ _))

/-- A JSON number. -/
inductive Number where
  | int (n : Int) (inRange : InWordRange n)
  | float (x : Binary64.Finite)
deriving DecidableEq

namespace Number

theorem inWordRange_toInt (n : Int64) : InWordRange n.toInt := by
  have h₁ := n.minValue_le_toInt
  have h₂ := n.toInt_lt
  simp only [Int64.toInt_minValue] at h₁
  exact ⟨by omega, by omega⟩

theorem inWordRange_toNat (n : UInt64) : InWordRange n.toNat := by
  have := n.toNat_lt
  exact ⟨by omega, by omega⟩

def ofInt64 (n : Int64) : Number := .int n.toInt (inWordRange_toInt n)

def ofUInt64 (n : UInt64) : Number := .int n.toNat (inWordRange_toNat n)

/-- The number as binary64; an integer is rounded. -/
def toBinary64 : Number → Binary64
  | int n _ => .ofInt n
  | float x => .finite x

/-- An integer that fits 64 bits without a sign. -/
def toUInt64? : Number → Option UInt64
  | int n _ => if 0 ≤ n then some (UInt64.ofNat n.toNat) else none
  | float _ => none

/-- An integer that fits 64 bits with a sign. -/
def toInt64? : Number → Option Int64
  | int n _ => if n < 0x8000000000000000 then some (Int64.ofInt n) else none
  | float _ => none

/-- Equal to zero, as an integer or as a binary64 number. -/
def isZero (n : Number) : Bool := n.toBinary64.isZero

end Number

/-! ## Values -/

/-- A JSON value; the entries of an object keep their order. -/
inductive Json where
  | null
  | bool (b : Bool)
  | number (n : Number)
  | string (s : String)
  | array (items : List Json)
  | object (entries : List (String × Json))

/-- The entries of an object, in order. -/
abbrev Entries := List (String × Json)

namespace Json

instance : Inhabited Json := ⟨null⟩

mutual

/-- Equality of values can be decided. -/
def decEq : (a b : Json) → Decidable (a = b)
  | null, null => isTrue rfl
  | bool a, bool b => decidable_of_iff (a = b) (by simp)
  | number a, number b => decidable_of_iff (a = b) (by simp)
  | string a, string b => decidable_of_iff (a = b) (by simp)
  | array a, array b =>
    match decEqItems a b with
    | isTrue h => isTrue (h ▸ rfl)
    | isFalse h => isFalse fun e => h (by injection e)
  | object a, object b =>
    match decEqEntries a b with
    | isTrue h => isTrue (h ▸ rfl)
    | isFalse h => isFalse fun e => h (by injection e)
  | null, bool _ | null, number _ | null, string _ | null, array _ | null, object _
  | bool _, null | bool _, number _ | bool _, string _ | bool _, array _ | bool _, object _
  | number _, null | number _, bool _ | number _, string _ | number _, array _
  | number _, object _ | string _, null | string _, bool _ | string _, number _
  | string _, array _ | string _, object _ | array _, null | array _, bool _
  | array _, number _ | array _, string _ | array _, object _ | object _, null
  | object _, bool _ | object _, number _ | object _, string _ | object _, array _ =>
    isFalse (by simp)

/-- Equality of lists of values can be decided. -/
def decEqItems : (a b : List Json) → Decidable (a = b)
  | [], [] => isTrue rfl
  | x :: a, y :: b =>
    match decEq x y, decEqItems a b with
    | isTrue h₁, isTrue h₂ => isTrue (by rw [h₁, h₂])
    | isFalse h, _ => isFalse fun e => h (by injection e)
    | _, isFalse h => isFalse fun e => h (by injection e)
  | [], _ :: _ | _ :: _, [] => isFalse (by simp)

/-- Equality of lists of entries can be decided. -/
def decEqEntries : (a b : List (String × Json)) → Decidable (a = b)
  | [], [] => isTrue rfl
  | (k, x) :: a, (l, y) :: b =>
    match decEq x y, decEqEntries a b with
    | isTrue h₁, isTrue h₂ =>
      if h₃ : k = l then isTrue (by rw [h₁, h₂, h₃])
      else isFalse fun e => h₃ (by simp at e; exact e.1.1)
    | isFalse h, _ => isFalse fun e => h (by simp at e; exact e.1.2)
    | _, isFalse h => isFalse fun e => h (by injection e)
  | [], _ :: _ | _ :: _, [] => isFalse (by simp)

end

instance : DecidableEq Json := decEq

/-! ## Reading a value -/

def isNull : Json → Bool
  | null => true
  | _ => false

def isArray : Json → Bool
  | array _ => true
  | _ => false

def isObject : Json → Bool
  | object _ => true
  | _ => false

def string? : Json → Option String
  | string s => some s
  | _ => none

def array? : Json → Option (List Json)
  | array items => some items
  | _ => none

def object? : Json → Option Entries
  | object entries => some entries
  | _ => none

/-- A number as binary64. -/
def binary64? : Json → Option Binary64
  | number n => some n.toBinary64
  | _ => none

def uint64? : Json → Option UInt64
  | number n => n.toUInt64?
  | _ => none

def int64? : Json → Option Int64
  | number n => n.toInt64?
  | _ => none

/-! ## Building a value -/

def ofInt64 (n : Int64) : Json := number (.ofInt64 n)

def ofUInt64 (n : UInt64) : Json := number (.ofUInt64 n)

/-- A binary64 outcome as a value: an integer of 64 bits when it has no fractional part and lies
    between the ends of that range, null when it is not finite (`number_value`). -/
def ofBinary64 (f : Binary64) : Json :=
  match f with
  | .finite x =>
    if x.isIntegral ∧ -0x8000000000000000 ≤ x.truncate ∧ x.truncate ≤ 0x8000000000000000 then
      ofInt64 f.toInt64
    else number (.float x)
  | _ => null

/-- The object with one entry. -/
def single (key : String) (value : Json) : Json := object [(key, value)]

end Json

/-! ## Entries of an object -/

namespace Entries

/-- The value under a key. -/
def get? (key : String) : Entries → Option Json
  | [] => none
  | (k, v) :: rest => if k = key then some v else get? key rest

def contains (key : String) (entries : Entries) : Bool := (entries.get? key).isSome

/-- Sets a key: in its place when it is there, else at the end. -/
def insert (key : String) (value : Json) : Entries → Entries
  | [] => [(key, value)]
  | (k, v) :: rest => if k = key then (key, value) :: rest else (k, v) :: insert key value rest

/-- Removes a key; the last entry takes its place (`Map::remove`). -/
def swapRemove (key : String) : Entries → Entries
  | [] => []
  | (k, v) :: rest =>
    if k = key then
      match rest.getLast? with
      | none => []
      | some last => last :: rest.dropLast
    else (k, v) :: swapRemove key rest

/-- Inserts one entry after the other, so a repeated key keeps its first place and last value. -/
def ofList (pairs : List (String × Json)) : Entries :=
  pairs.foldl (fun entries pair => entries.insert pair.1 pair.2) []

/-- The keys in order. -/
def keys (entries : Entries) : List String := entries.map (·.1)

@[simp] theorem get?_insert_self (key : String) (value : Json) (entries : Entries) :
    Entries.get? key (Entries.insert key value entries) = some value := by
  induction entries with
  | nil => simp [Entries.insert, Entries.get?]
  | cons entry rest ih =>
    by_cases h : entry.1 = key <;> simp [Entries.insert, Entries.get?, h, ih]

theorem get?_insert_of_ne {key other : String} (h : other ≠ key) (value : Json)
    (entries : Entries) :
    Entries.get? other (Entries.insert key value entries) = Entries.get? other entries := by
  induction entries with
  | nil => simp [Entries.insert, Entries.get?, h.symm]
  | cons entry rest ih =>
    by_cases hk : entry.1 = key
    · simp [Entries.insert, Entries.get?, hk, h.symm]
    · rw [Entries.insert, if_neg hk, Entries.get?, Entries.get?, ih]

/-- Setting a key twice keeps the second value only. -/
@[simp] theorem insert_insert_self (key : String) (first second : Json) (entries : Entries) :
    Entries.insert key second (Entries.insert key first entries) =
      Entries.insert key second entries := by
  induction entries with
  | nil => simp [Entries.insert]
  | cons entry rest ih =>
    by_cases h : entry.1 = key <;> simp [Entries.insert, h, ih]

/-- A key that is there keeps its place, and a new one comes last. -/
theorem keys_insert (key : String) (value : Json) (entries : Entries) :
    keys (Entries.insert key value entries) =
      if key ∈ keys entries then keys entries else keys entries ++ [key] := by
  induction entries with
  | nil => simp [Entries.insert, keys]
  | cons entry rest ih =>
    by_cases h : entry.1 = key
    · simp [Entries.insert, keys, h]
    · have hne : ¬key = entry.1 := fun e => h e.symm
      by_cases hm : key ∈ keys rest
      · rw [if_pos hm] at ih
        simp_all [Entries.insert, keys]
      · rw [if_neg hm] at ih
        simp_all [Entries.insert, keys]

end Entries

namespace Json

/-- The value under a key of an object. -/
def get? (value : Json) (key : String) : Option Json :=
  value.object?.bind (Entries.get? key)

mutual

/-- No object inside the value, nor the value itself, repeats a key. -/
def WellFormed : Json → Prop
  | null | bool _ | number _ | string _ => True
  | array items => ItemsWellFormed items
  | object entries => (Entries.keys entries).Nodup ∧ EntriesWellFormed entries

def ItemsWellFormed : List Json → Prop
  | [] => True
  | x :: rest => WellFormed x ∧ ItemsWellFormed rest

def EntriesWellFormed : List (String × Json) → Prop
  | [] => True
  | (_, x) :: rest => WellFormed x ∧ EntriesWellFormed rest

end

end Json

end GridQuery
