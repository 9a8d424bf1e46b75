import Guardrail.Number.Shortest
import Guardrail.Validator.Arguments
import Guardrail.Validator.Basic

/-!
# Bounds on numbers

A number must lie within given bounds. Bounds and value are compared as binary64 numbers. In place
of a number outside, the bound is proposed that it breaks.
-/

namespace Guardrail.Validator

/-- Bounds on a number (`ValidRange`). -/
structure NumberBounds where
  min : Option Binary64
  max : Option Binary64

namespace NumberBounds

/-- The id under which the validator is known. -/
def id : String := "valid-range"

/-- The bounds given by arguments (`from_args`). -/
def ofArgs (args : Dict Json) : Except ConfigError NumberBounds := do
  let min ← numberArgument? id args "min"
  let max ← numberArgument? id args "max"
  match min, max with
  | some lo, some hi =>
    if hi.lt lo then throw (.invalidArguments id "'min' exceeds 'max'") else return ⟨min, max⟩
  | _, _ => return ⟨min, max⟩

/-- A bound as a value of the kind of the number it is to replace (`bound_value`): an integer in
place of an integer, if it is one of fewer than 64 bits. -/
def proposal (bound : Binary64) (like : Json) : Json :=
  match like, bound.toInt? with
  | .num (.int _), some n => if n.natAbs < Nat.pow 2 63 then .num (.int n) else .num (.float bound)
  | _, _ => .num (.float bound)

/-- A number in a message. -/
def inWords (x : Binary64) : String := NumeralLayout.plain.render x

/-- Checks a value (`validate`). -/
def check (b : NumberBounds) (value : Json) : Verdict :=
  match value.binary64? with
  | none => .reject ("Value " ++ value.plain ++ " is not a number.")
  | some x =>
    match b.min.filter x.lt, b.max.filter (·.lt x) with
    | some lo, _ =>
      .propose ("Value " ++ inWords x ++ " is less than " ++ inWords lo ++ ".") (proposal lo value)
    | none, some hi =>
      .propose ("Value " ++ inWords x ++ " is greater than " ++ inWords hi ++ ".")
        (proposal hi value)
    | none, none => .pass

end NumberBounds

/-- The validator of ranges. -/
def range (b : NumberBounds) : Validator where
  name := NumberBounds.id
  args := boundArguments (fun x => .num (.float x)) b.min b.max
  requiredKeys := []
  checkId := none
  check value _ := b.check value

end Guardrail.Validator
