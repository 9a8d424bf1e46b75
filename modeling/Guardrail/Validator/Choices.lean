import Guardrail.Error
import Guardrail.Validator.Basic

/-!
# Choices

A value must be one of a list.
-/

namespace Guardrail.Validator

/-- The id under which the validator of choices is known. -/
def choicesId : String := "valid-choices"

/-- The validator of choices (`ValidChoices`). -/
def choices (options : List Json) : Validator where
  name := choicesId
  args := [("choices", .arr options)]
  requiredKeys := []
  checkId := none
  check value _ :=
    if options.any (· == value) then .pass
    else .reject
      ("Value " ++ value.plain ++ " is not in choices " ++ (Json.arr options).compact ++ ".")

/-- The choices given by arguments, of which there must be one at least (`from_args`). -/
def choicesOfArgs (args : Dict Json) : Except ConfigError (List Json) :=
  match args.find? "choices" with
  | some (.arr (x :: rest)) => .ok (x :: rest)
  | _ => .error (.invalidArguments choicesId "'choices' must be a non-empty list")

end Guardrail.Validator
