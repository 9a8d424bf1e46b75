import Guardrail.Number.Binary64

/-!
# Shortest decimal digits

The decimal that stands for a binary64 number in text: of all decimals that lie so near to the
number that reading them gives it back, one with the fewest digits, and of those the nearest. An
exact tie between two is settled by a parameter.

For 1, 2, … 17 digits the two neighbours of the number on that decimal grid are tested in exact
integer arithmetic; the first grid with a hit wins.
-/

namespace Guardrail

/-- The decimal `digits · 10 ^ exponent`. -/
structure Decimal where
  digits : Nat
  exponent : Int
deriving DecidableEq

/-- Which of two equally near decimals is taken. -/
inductive DecimalTie
  | even
  | up
deriving DecidableEq

namespace Shortest

/-- A positive quotient compared with `digits · 10 ^ exponent`. -/
def compareRatio (num den digits : Nat) (exponent : Int) : Ordering :=
  if 0 ≤ exponent then Ord.compare num (digits * Nat.pow 10 exponent.toNat * den)
  else Ord.compare (num * Nat.pow 10 (-exponent).toNat) (digits * den)

/-- The largest `k` with `10 ^ k ≤ num / den`, for a quotient in the range of binary64. The estimate
from the binary logarithm is off by one at most. -/
def log10Ratio (num den : Nat) : Int :=
  let estimate := Int.fdiv (Binary64.log2Ratio num den * 30103) 100000
  if compareRatio num den 1 estimate == .lt then estimate - 1
  else if compareRatio num den 1 (estimate + 1) != .lt then estimate + 1
  else estimate

/-- The interval of the quotients that round to a number, as three numerators (lower end, number,
upper end) over one denominator, and whether the ends belong to it. -/
structure Interval where
  low : Nat
  mid : Nat
  high : Nat
  den : Nat
  closed : Bool

/-- The interval of a number other than zero. Below a power of two the next number is only half as
far away. -/
def interval (x : Binary64) : Interval :=
  let narrow := x.significand = Nat.pow 2 52 ∧ Binary64.minExponent < x.exponent
  let scale := if 0 ≤ x.exponent then Nat.pow 2 x.exponent.toNat else 1
  let den := if 0 ≤ x.exponent then 4 else 4 * Nat.pow 2 (-x.exponent).toNat
  { low := (if narrow then 4 * x.significand - 1 else 4 * x.significand - 2) * scale
    mid := 4 * x.significand * scale
    high := (4 * x.significand + 2) * scale
    den := den
    closed := x.significand % 2 == 0 }

/-- Whether a decimal lies in the interval. -/
def Interval.has (i : Interval) (digits : Nat) (exponent : Int) : Bool :=
  let low := compareRatio i.low i.den digits exponent
  let high := compareRatio i.high i.den digits exponent
  (low == .lt || (i.closed && low == .eq)) && (high == .gt || (i.closed && high == .eq))

/-- The best decimal on the grid of multiples of `10 ^ exponent`, if one of the two neighbours of
the number is in the interval. -/
def onGrid (i : Interval) (tie : DecimalTie) (exponent : Int) : Option Decimal :=
  let (num, den) :=
    if 0 ≤ exponent then (i.mid, i.den * Nat.pow 10 exponent.toNat)
    else (i.mid * Nat.pow 10 (-exponent).toNat, i.den)
  let below := num / den
  let above := below + 1
  match i.has below exponent, i.has above exponent with
  | false, false => none
  | true, false => some ⟨below, exponent⟩
  | false, true => some ⟨above, exponent⟩
  | true, true =>
    match Ord.compare (2 * (num % den)) den with
    | .lt => some ⟨below, exponent⟩
    | .gt => some ⟨above, exponent⟩
    | .eq => some ⟨if tie = .even ∧ below % 2 = 0 then below else above, exponent⟩

/-- Moves zeros at the end of the digits into the exponent, at most `fuel` of them. -/
def dropZeros (fuel : Nat) (d : Decimal) : Decimal :=
  match fuel with
  | 0 => d
  | fuel + 1 =>
    if d.digits % 10 = 0 ∧ d.digits ≠ 0 then dropZeros fuel ⟨d.digits / 10, d.exponent + 1⟩ else d

/-- The shortest decimal of the magnitude of a number. -/
def decimal (tie : DecimalTie) (x : Binary64) : Decimal :=
  if x.isZero then ⟨0, 0⟩
  else
    let i := interval x
    let top := log10Ratio i.mid i.den
    let hit := (List.range 17).findSome? fun (n : Nat) => onGrid i tie (top - (n : Int))
    dropZeros 20 (hit.getD ⟨0, 0⟩)

end Shortest

/-! ## Layout -/

/-- How a decimal is laid out as text. -/
structure NumeralLayout where
  /-- Which of two equally near shortest decimals is taken. -/
  tie : DecimalTie
  /-- Whether a number whose leading digit stands for this power of ten is written without an
  exponent. -/
  positional : Int → Bool
  /-- What follows the digits of an integral number. -/
  integralTail : String

namespace NumeralLayout

/-- Numbers in JSON text keep a decimal place, and are written with an exponent from `10 ^ 16` on
and below `10 ^ -5`. -/
def json : NumeralLayout := ⟨.even, fun top => -5 ≤ top && top ≤ 15, ".0"⟩

/-- Numbers in messages are written in full, without an exponent or an empty decimal place. -/
def plain : NumeralLayout := ⟨.up, fun _ => true, ""⟩

/-- Digits with the point after the first `k` of them, for `0 < k`; zeros fill up missing digits
before the point. -/
def pointed (tail : String) (digits : List Char) (k : Nat) : String :=
  if digits.length ≤ k then
    String.ofList (digits ++ List.replicate (k - digits.length) '0') ++ tail
  else String.ofList (digits.take k ++ '.' :: digits.drop k)

/-- The text of a number. -/
def render (layout : NumeralLayout) (x : Binary64) : String :=
  let d := Shortest.decimal layout.tie x
  let digits := (toString d.digits).toList
  let top : Int := d.exponent + digits.length - 1
  let body :=
    if d.digits = 0 then "0" ++ layout.integralTail
    else if layout.positional top then
      if 0 ≤ top then pointed layout.integralTail digits (top.toNat + 1)
      else String.ofList ('0' :: '.' :: List.replicate (-top - 1).toNat '0' ++ digits)
    else
      let mantissa := if digits.length ≤ 1 then String.ofList digits else pointed "" digits 1
      let sign := if top < 0 then "-" else "+"
      mantissa ++ "e" ++ sign ++ toString top.natAbs
  if x.negative then "-" ++ body else body

end NumeralLayout
end Guardrail
