import Guardrail.Json.Basic

/-!
# Reading numbers

The grammar of JSON numbers and the value of a numeral.

A numeral without point and exponent that fits 64 bits, unsigned or signed, is an integer. Any other
numeral is a binary64 number: its leading digits, as long as they stay below `2 ^ 64`, are rounded
to a significand, which is then multiplied or divided by a power of ten, itself rounded, at most
`10 ^ 308` at a time. A numeral whose value leaves the range of binary64 has no value.
-/

namespace Guardrail.Json

/-- A numeral as written. -/
structure Numeral where
  negative : Bool
  /-- The digits before the point. -/
  whole : List Nat
  /-- The digits after the point, if there is one. -/
  fraction : Option (List Nat)
  /-- Whether the exponent is negative, and its digits, if there is one. -/
  exponent : Option (Bool × List Nat)
deriving DecidableEq

/-! ## Grammar -/

/-- The value of a decimal digit. -/
def digitValue (c : Char) : Nat := c.toNat - '0'.toNat

/-- The digits at the front of a text, and the rest. -/
def takeDigits (cs : List Char) : List Nat × List Char :=
  ((cs.takeWhile Char.isDigit).map digitValue, cs.dropWhile Char.isDigit)

/-- The fraction at the front of a text, if there is a point; a point needs a digit after it. -/
def readFraction : List Char → Option (Option (List Nat) × List Char)
  | '.' :: rest =>
    match takeDigits rest with
    | ([], _) => none
    | (ds, rest) => some (some ds, rest)
  | cs => some (none, cs)

/-- The exponent at the front of a text, if there is one; its mark needs a digit after it. -/
def readExponent (cs : List Char) : Option (Option (Bool × List Nat) × List Char) :=
  match cs with
  | c :: rest =>
    if c = 'e' ∨ c = 'E' then
      let (negative, rest) :=
        match rest with
        | '-' :: rest => (true, rest)
        | '+' :: rest => (false, rest)
        | rest => (false, rest)
      match takeDigits rest with
      | ([], _) => none
      | (ds, rest) => some (some (negative, ds), rest)
    else some (none, cs)
  | [] => some (none, [])

/-- The numeral at the front of a text. A zero before the point stands alone. -/
def readNumeral (cs : List Char) : Option (Numeral × List Char) :=
  let (negative, cs) :=
    match cs with
    | '-' :: rest => (true, rest)
    | cs => (false, cs)
  match takeDigits cs with
  | ([], _) => none
  | (0 :: _ :: _, _) => none
  | (whole, rest) =>
    match readFraction rest with
    | none => none
    | some (fraction, rest) =>
      match readExponent rest with
      | none => none
      | some (exponent, rest) => some (⟨negative, whole, fraction, exponent⟩, rest)

/-! ## Value -/

/-- The largest unsigned integer. -/
def maxUnsigned : Nat := Nat.pow 2 64 - 1

/-- Takes digits into a significand until one would push it past `maxUnsigned`; also the number of
digits taken in. -/
def absorb (significand : Nat) : List Nat → Nat × Nat
  | [] => (significand, 0)
  | d :: ds =>
    if significand * 10 + d ≤ maxUnsigned then
      let (s, n) := absorb (significand * 10 + d) ds
      (s, n + 1)
    else (significand, 0)

/-- A power of ten rounded to binary64. -/
def powerOfTen (k : Nat) : Binary64 := .ofNat (Nat.pow 10 k)

/-- Division by a power of ten, at most `10 ^ 308` at a time. -/
def divideByPower (x : Binary64) (k : Nat) : Binary64 :=
  if k ≤ 308 then x.div (powerOfTen k)
  else if x.isZero then x
  else divideByPower (x.div (powerOfTen 308)) (k - 308)
termination_by k

/-- A significand times a power of ten, if it is in the range of binary64. -/
def scale? (significand : Nat) (exponent : Int) : Option Binary64 :=
  let x := Binary64.ofNat significand
  if exponent < 0 then some (divideByPower x exponent.natAbs)
  else if exponent ≤ 308 then
    let y := x.mul (powerOfTen exponent.toNat)
    if y.isFinite then some y else none
  else if x.isZero then some x
  else none

/-- The number written by digits. -/
def natOfDigits (ds : List Nat) : Nat := ds.foldl (fun n d => n * 10 + d) 0

/-- Exponents are kept in the range of signed 32 bit integers. -/
def clampExponent (e : Int) : Int := max (-↑(Nat.pow 2 31)) (min e ↑(Nat.pow 2 31 - 1))

/-- The value of a numeral with a point, an exponent or too many digits. -/
def Numeral.float? (n : Numeral) : Option Binary64 :=
  let (s₁, used) := absorb 0 n.whole
  let (s₂, places) := absorb s₁ (n.fraction.getD [])
  let start : Int := ((n.whole.length - used : Nat) : Int) - places
  let magnitude :=
    match n.exponent with
    | none => scale? s₂ start
    | some (negative, ds) =>
      let e := natOfDigits ds
      if e < Nat.pow 2 31 then scale? s₂ (clampExponent (if negative then start - e else start + e))
      else if s₂ = 0 ∨ negative then some (.zero false)
      else none
  magnitude.map fun x => if n.negative then x.neg else x

/-- The value of a numeral. -/
def Numeral.value? (n : Numeral) : Option Number :=
  let whole := natOfDigits n.whole
  let integral := n.fraction.isNone && n.exponent.isNone
  if integral && !n.negative && whole ≤ maxUnsigned then some (.int whole)
  else if integral && n.negative && whole ≠ 0 && whole ≤ Nat.pow 2 63 then some (.int (-(whole : Int)))
  else n.float?.map .float

end Guardrail.Json
