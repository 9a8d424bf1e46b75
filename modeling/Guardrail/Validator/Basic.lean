import Guardrail.Json.Writer
import Guardrail.Policy
import Guardrail.Text.Quoted
import Guardrail.Verdict

/-!
# Validators

A validator checks a value, given the metadata of the call, and says what it needs there. Bound to a
policy it can be attached to a path. Two bound validators are interchangeable if policy, name,
arguments and, for a validator made from a check, the check agree. `Validator` and `BoundValidator`
have the names of what they stand for.
-/

namespace Guardrail

/-- Data that accompany a call and that validators may use. -/
abbrev Metadata := Dict Json

/-- Which check a validator made from a check runs (`check_id`). -/
inductive CheckId
  /-- A check that is given, and that several validators may run. -/
  | given (label : String)
  /-- A check that a registry made for one validator. -/
  | made (serial : Nat)
deriving DecidableEq

/-- A check of values. -/
structure Validator where
  name : String
  /-- The arguments that the check was made with. -/
  args : Dict Json
  /-- The metadata keys that the check needs. -/
  requiredKeys : List String
  /-- Of a validator made from a check, which check that is. -/
  checkId : Option CheckId
  check : Json → Metadata → Verdict

namespace Validator

/-- A validator made from a check (`FnValidator`). -/
def ofCheck (name : String) (checkId : CheckId) (requiredKeys : List String)
    (check : Json → Metadata → Verdict) : Validator :=
  { name, args := [], requiredKeys, checkId := some checkId, check }

/-- How a validator made from a check is described. -/
def describe (v : Validator) : String :=
  "FnValidator \x7b name: " ++ Text.quoted v.name ++ ", required_keys: " ++
    Text.quotedList v.requiredKeys ++ " \x7d"

end Validator

/-- A validator with the policy for its failures. -/
structure BoundValidator where
  validator : Validator
  policy : Policy

namespace BoundValidator

/-- The name of the validator. -/
def name (v : BoundValidator) : String := v.validator.name

/-- Whether one validator may stand for the other (`same_as`). -/
def sameAs (v w : BoundValidator) : Bool :=
  v.policy == w.policy && v.name == w.name && v.validator.checkId == w.validator.checkId &&
    Json.obj v.validator.args == Json.obj w.validator.args

/-- How a bound validator is shown: its name, its arguments, if any, and the policy. -/
def render (v : BoundValidator) : String :=
  let args := if v.validator.args.isEmpty then "" else (Json.obj v.validator.args).compact ++ ", "
  v.name ++ "(" ++ args ++ "on_fail=" ++ v.policy.name ++ ")"

end BoundValidator
end Guardrail
