/-!
# Binary64 numbers

The finite numbers of the IEEE 754 binary64 format, held exactly as `± significand · 2 ^ exponent`,
with rounding to nearest (ties to the even significand), the order of their values, and
multiplication and division. The two zeros are different numbers of equal value.

Rounding does not bound the exponent from above: `isFinite` says whether a rounded result is still
in the format.
-/

namespace Guardrail

/-- The number `± significand · 2 ^ exponent`. -/
structure Binary64 where
  /-- The sign, which zero has too. -/
  negative : Bool
  /-- Below `2 ^ 53`, and at least `2 ^ 52` unless the exponent is the least. -/
  significand : Nat
  /-- At least `-1074`; of a zero, 0. -/
  exponent : Int
deriving DecidableEq, Inhabited

namespace Binary64

/-- The least exponent. -/
def minExponent : Int := -1074

/-- The greatest exponent. -/
def maxExponent : Int := 971

/-- The zero of a sign. -/
def zero (negative : Bool) : Binary64 := ⟨negative, 0, 0⟩

/-! ## Rounding -/

/-- `num / den` rounded to the nearest integer, a half going to the even neighbour. -/
def roundHalfEven (num den : Nat) : Nat :=
  let q := num / den
  let r := num % den
  if 2 * r < den || (2 * r == den && q % 2 == 0) then q else q + 1

/-- Numerator and denominator of `num / den · 2 ^ (-place)`. -/
def shifted (num den : Nat) (place : Int) : Nat × Nat :=
  if 0 ≤ place then (num, den * Nat.pow 2 place.toNat) else (num * Nat.pow 2 (-place).toNat, den)

/-- The largest `k` with `2 ^ k ≤ num / den`. -/
def log2Ratio (num den : Nat) : Int :=
  let k : Int := (num.log2 : Int) - den.log2
  let (n, d) := shifted num den k
  if n < d then k - 1 else k

/-- The number of a sign nearest to `num / den`, of two equally near the one with the even
significand. -/
def ofRatio (negative : Bool) (num den : Nat) : Binary64 :=
  if num = 0 then zero negative
  else
    let place := max minExponent (log2Ratio num den - 52)
    let (n, d) := shifted num den place
    let m := roundHalfEven n d
    if m = 0 then zero negative
    else if m = Nat.pow 2 53 then ⟨negative, Nat.pow 2 52, place + 1⟩
    else ⟨negative, m, place⟩

/-- The number nearest to a natural number. -/
def ofNat (n : Nat) : Binary64 := ofRatio false n 1

/-- The number nearest to an integer. -/
def ofInt (n : Int) : Binary64 := ofRatio (n < 0) n.natAbs 1

/-- Whether a rounded result is in the format. -/
def isFinite (x : Binary64) : Bool := x.significand == 0 || x.exponent ≤ maxExponent

/-! ## Values -/

/-- Whether the value is zero. -/
def isZero (x : Binary64) : Bool := x.significand == 0

/-- The value in units of `2 ^ place`, for a place not above the exponent. -/
def inUnits (x : Binary64) (place : Int) : Int :=
  let magnitude := x.significand * Nat.pow 2 (x.exponent - place).toNat
  if x.negative then -(magnitude : Int) else magnitude

/-- The order of the values. -/
def compare (x y : Binary64) : Ordering :=
  let place := min x.exponent y.exponent
  Ord.compare (x.inUnits place) (y.inUnits place)

/-- Whether one value is below another. -/
def lt (x y : Binary64) : Bool := x.compare y == .lt

/-- Whether two values are equal, so that the two zeros are. -/
instance : BEq Binary64 := ⟨fun x y => x.compare y == .eq⟩

/-- The magnitude as a quotient of naturals. -/
def magnitude (x : Binary64) : Nat × Nat :=
  if 0 ≤ x.exponent then (x.significand * Nat.pow 2 x.exponent.toNat, 1)
  else (x.significand, Nat.pow 2 (-x.exponent).toNat)

/-- The value, if it is an integer. -/
def toInt? (x : Binary64) : Option Int :=
  let (num, den) := x.magnitude
  if num % den = 0 then some (if x.negative then -((num / den : Nat) : Int) else (num / den : Nat))
  else none

/-- The number of the other sign. -/
def neg (x : Binary64) : Binary64 := { x with negative := !x.negative }

/-- The rounded product. -/
def mul (x y : Binary64) : Binary64 :=
  let (a, b) := x.magnitude
  let (c, d) := y.magnitude
  ofRatio (x.negative != y.negative) (a * c) (b * d)

/-- The rounded quotient by a number other than zero. -/
def div (x y : Binary64) : Binary64 :=
  let (a, b) := x.magnitude
  let (c, d) := y.magnitude
  ofRatio (x.negative != y.negative) (a * d) (b * c)

end Binary64
end Guardrail
