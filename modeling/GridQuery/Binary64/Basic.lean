/-!
# Binary64 numbers, exactly

Every finite binary64 number is a whole number of units of `2 ^ (-1074)`, so a finite number here is
a sign and a count of units, and each operation is exact arithmetic on units followed by one
rounding. Nothing is left to the hardware.

* `Finite`: a sign and a representable number of units; the two zeros differ in the sign.
* `roundUnits`: a quotient of units to the nearest representable count, a tie to the even one.
* `Binary64`: a finite number, an infinity or no number, with `add`, `sub`, `div`, `rem`, `compare`.
-/

namespace GridQuery.Binary64

/-! ## Finite numbers -/

/-- A count of units fits when its binary expansion has at most 53 digits before the trailing
    zeros and it stays below `2 ^ 2098`, that is, below `2 ^ 1024` as a number. -/
def Fits (units : Nat) : Prop :=
  units.log2 < 2098 ∧ units % Nat.pow 2 (units.log2 - 52) = 0

instance (units : Nat) : Decidable (Fits units) :=
  inferInstanceAs (Decidable (_ ∧ _))

/-- A finite number: its sign and how many units of `2 ^ (-1074)` its magnitude has. -/
structure Finite where
  neg : Bool
  units : Nat
  fits : Fits units
deriving DecidableEq

/-- The binary places of the least number. -/
@[irreducible] def places : Nat := 1074

/-- One as a number of units. -/
def one : Nat := Nat.pow 2 places

namespace Finite

/-- The zero of either sign. -/
def zero (neg : Bool) : Finite := ⟨neg, 0, by decide⟩

/-- The number in units, with its sign; both zeros have the value zero. -/
def value (x : Finite) : Int :=
  if x.neg then -(x.units : Int) else x.units

/-- A zero of either sign. -/
def isZero (x : Finite) : Bool := x.units == 0

/-- The order of the values. -/
def compare (x y : Finite) : Ordering := Ord.compare x.value y.value

def negate (x : Finite) : Finite := { x with neg := !x.neg }

/-- Without a fractional part. -/
def isIntegral (x : Finite) : Bool := x.units % one == 0

/-- The integral part, toward zero. -/
def truncate (x : Finite) : Int := Int.tdiv x.value one

end Finite

/-! ## Rounding -/

/-- The quotient `num / den` rounded to a count of units with at most 53 significant digits: the
    nearest one, and of two equally near ones the one whose last digit is even. -/
def roundUnits (num den : Nat) : Nat :=
  let step := Nat.pow 2 ((num / den).log2 - 52)
  let digits := num / (den * step)
  let rest := num % (den * step)
  if den * step < 2 * rest ∨ (2 * rest = den * step ∧ digits % 2 = 1) then
    (digits + 1) * step
  else
    digits * step

end Binary64

/-- The outcome of binary64 arithmetic. -/
inductive Binary64 where
  | finite (x : Binary64.Finite)
  | infinite (neg : Bool)
  | nan
deriving DecidableEq

namespace Binary64

/-- The quotient `num / den` of units under a sign; beyond the largest finite number it is
    infinite. -/
def ofQuotient (neg : Bool) (num den : Nat) : Binary64 :=
  if h : Fits (roundUnits num den) then .finite ⟨neg, roundUnits num den, h⟩ else .infinite neg

/-- A number of units under the sign it has, zero being positive. -/
def ofUnits (value : Int) : Binary64 := ofQuotient (value < 0) value.natAbs 1

/-- The nearest number to an integer. -/
def ofInt (n : Int) : Binary64 := ofUnits (n * one)

/-- The positive zero. -/
def zero : Binary64 := .finite (.zero false)

/-! ## Arithmetic -/

def negate : Binary64 → Binary64
  | finite x => finite x.negate
  | infinite s => infinite (!s)
  | nan => nan

/-- The sum; a sum of value zero is negative only if both terms are. -/
def add : Binary64 → Binary64 → Binary64
  | finite x, finite y =>
    if x.value + y.value = 0 then finite (.zero (x.neg && y.neg)) else ofUnits (x.value + y.value)
  | infinite s, finite _ => infinite s
  | finite _, infinite s => infinite s
  | infinite s, infinite t => if s = t then infinite s else nan
  | nan, _ => nan
  | _, nan => nan

def sub (x y : Binary64) : Binary64 := add x y.negate

/-- The product. -/
def mul : Binary64 → Binary64 → Binary64
  | finite x, finite y => ofQuotient (x.neg != y.neg) (x.units * y.units) one
  | infinite s, finite y => if y.isZero then nan else infinite (s != y.neg)
  | finite x, infinite t => if x.isZero then nan else infinite (x.neg != t)
  | infinite s, infinite t => infinite (s != t)
  | nan, _ => nan
  | _, nan => nan

/-- The quotient; a nonzero number over zero is infinite. -/
def div : Binary64 → Binary64 → Binary64
  | finite x, finite y =>
    if y.isZero then
      if x.isZero then nan else infinite (x.neg != y.neg)
    else
      ofQuotient (x.neg != y.neg) (one * x.units) y.units
  | infinite s, finite y => infinite (s != y.neg)
  | finite x, infinite t => finite (.zero (x.neg != t))
  | infinite _, infinite _ => nan
  | nan, _ => nan
  | _, nan => nan

/-- What the division toward zero leaves; it is exact and has the sign of the dividend. -/
def rem : Binary64 → Binary64 → Binary64
  | finite x, finite y =>
    if y.isZero then nan else ofQuotient x.neg (x.units % y.units) 1
  | infinite _, _ => nan
  | finite x, infinite _ => finite x
  | nan, _ => nan
  | _, nan => nan

/-- The order of two numbers; `none` when one is no number. -/
def compare? : Binary64 → Binary64 → Option Ordering
  | finite x, finite y => some (x.compare y)
  | infinite s, infinite t => some (Ord.compare t s)
  | infinite s, finite _ => some (if s then .lt else .gt)
  | finite _, infinite t => some (if t then .gt else .lt)
  | nan, _ => none
  | _, nan => none

/-- A zero of either sign. -/
def isZero : Binary64 → Bool
  | finite x => x.isZero
  | _ => false

/-- Greater than zero. -/
def isPositive : Binary64 → Bool
  | finite x => 0 < x.value
  | infinite s => !s
  | nan => false

/-- The integral part as a 64-bit integer; a number beyond the range gives the nearer end of it. -/
def toInt64 : Binary64 → Int64
  | finite x =>
    if x.truncate < Int64.minValue.toInt then Int64.minValue
    else if Int64.maxValue.toInt < x.truncate then Int64.maxValue
    else Int64.ofInt x.truncate
  | infinite s => if s then Int64.minValue else Int64.maxValue
  | nan => 0

end GridQuery.Binary64
