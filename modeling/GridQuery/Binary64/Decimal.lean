import GridQuery.Binary64.Basic

/-!
# Decimal text of binary64 numbers

Writing gives the shortest decimal that reads back as the same number, found by exact arithmetic: on
each grid of powers of ten, from coarse to fine, the two neighbours of the number are tried.

* `Decimal.readsBack`: a decimal rounds to the given number of units.
* `shortest`: the decimal on the coarsest grid that has one reading back, of two the nearer.
* `Finite.text`: positional from `10 ^ (-5)` up to `10 ^ 16`, with an exponent beyond.
* `scale`: the number read from an integer and a power of ten, rounded after each step.
-/

namespace GridQuery.Binary64

/-! ## Shortest decimals -/

/-- The number `digits * 10 ^ exponent`. -/
structure Decimal where
  digits : Nat
  exponent : Int
deriving DecidableEq

namespace Decimal

/-- The numerator of the decimal as a fraction. -/
def num (d : Decimal) : Nat := d.digits * Nat.pow 10 d.exponent.toNat

/-- The denominator of the decimal as a fraction. -/
def den (d : Decimal) : Nat := Nat.pow 10 (-d.exponent).toNat

/-- The decimal rounds to this many units. -/
def readsBack (d : Decimal) (units : Nat) : Bool :=
  roundUnits (one * d.num) d.den == units

/-- The decimal with every digit that the number has. -/
def exact (units : Nat) : Decimal := ⟨units * Nat.pow 5 places, -(places : Int)⟩

end Decimal

/-- Of two neighbours of a number the one that reads back; the nearer, if both do. -/
def choose (units : Nat) (below above : Decimal) (nearer : Bool) : Option Decimal :=
  match below.readsBack units, above.readsBack units with
  | true, true => some (if nearer then below else above)
  | true, false => some below
  | false, true => some above
  | false, false => none

/-- The better neighbour of a number on the grid of multiples of `10 ^ exponent`, if one of the two
    reads back: the nearer, and of two equally near ones the even one. -/
def gridPoint (units : Nat) (exponent : Int) : Option Decimal :=
  let num := units * Nat.pow 10 (-exponent).toNat
  let den := one * Nat.pow 10 exponent.toNat
  let rest := 2 * (num % den)
  choose units ⟨num / den, exponent⟩ ⟨num / den + 1, exponent⟩
    (rest < den || (rest == den && num / den % 2 == 0))

/-- Tries `count` grids, each ten times finer than the one before. -/
def shortestFrom (units : Nat) : (exponent : Int) → (count : Nat) → Decimal
  | _, 0 => .exact units
  | exponent, count + 1 =>
    (gridPoint units exponent).getD (shortestFrom units (exponent - 1) count)

/-- A power of ten at least as great as the number. -/
def coarsest (units : Nat) : Int :=
  ((units.log2 : Int) - 1073) * 30103 / 100000 + 1

/-- The shortest decimal that reads back as this many units. -/
def shortest (units : Nat) : Decimal := shortestFrom units (coarsest units) 40

/-! ## Text -/

/-- Digits at a decimal exponent from -5 to 15 are written positionally, always with a point; all
    others as one digit, a point if more digits follow, and a signed exponent. -/
def Decimal.text (d : Decimal) : String :=
  let digits := Nat.toDigits 10 d.digits
  let point : Int := d.exponent + digits.length
  let zeros (n : Int) : List Char := List.replicate n.toNat '0'
  String.ofList <|
    if point ≤ -5 ∨ 16 < point then
      let exponent := point - 1
      let tail := if digits.length = 1 then [] else '.' :: digits.drop 1
      digits.take 1 ++ tail ++ ['e', if exponent < 0 then '-' else '+'] ++
        Nat.toDigits 10 exponent.natAbs
    else if 0 ≤ d.exponent then
      digits ++ zeros d.exponent ++ ['.', '0']
    else if 0 < point then
      digits.take point.toNat ++ '.' :: digits.drop point.toNat
    else
      '0' :: '.' :: zeros (-point) ++ digits

/-- The text of a finite number. -/
def Finite.text (x : Finite) : String :=
  (if x.neg then "-" else "") ++ (if x.isZero then "0.0" else (shortest x.units).text)

/-! ## Reading -/

/-- A power of ten, rounded. -/
def powerOfTen (n : Nat) : Binary64 := ofInt (Nat.pow 10 n)

/-- Division by a power of ten, at most `10 ^ 308` at a time. -/
def scaleDown (f : Binary64) (exponent : Nat) : Binary64 :=
  if exponent ≤ 308 then f.div (powerOfTen exponent)
  else if f.isZero then f
  else scaleDown (f.div (powerOfTen 308)) (exponent - 308)
termination_by exponent

/-- The number `significand * 10 ^ exponent`, the significand and each product and quotient
    rounded; `none` beyond the finite numbers. -/
def scale (significand : Nat) (exponent : Int) : Option Finite :=
  let f := ofInt significand
  let scaled :=
    if exponent < 0 then scaleDown f exponent.natAbs
    else if exponent ≤ 308 then f.mul (powerOfTen exponent.natAbs)
    else if f.isZero then f
    else .infinite false
  match scaled with
  | .finite x => some x
  | _ => none

end GridQuery.Binary64
