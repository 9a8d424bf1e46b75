import Guardrail.Error
import Guardrail.Json.Basic

/-!
# Arguments of validators

Reading the named arguments from which a validator is made. An argument that is null counts as not
given.
-/

namespace Guardrail.Validator

/-- The complaint about an argument that is not of its kind. -/
def badArgument (id key kind : String) : ConfigError :=
  .invalidArguments id ("'" ++ key ++ "' must be " ++ kind)

/-- An argument read by `decode`, if it is given. -/
def argument? (id kind : String) (decode : Json → Option α) (args : Dict Json) (key : String) :
    Except ConfigError (Option α) :=
  match args.find? key with
  | none | some .null => .ok none
  | some j =>
    match decode j with
    | some v => .ok (some v)
    | none => .error (badArgument id key kind)

/-- A length (`usize_arg`). -/
def lengthArgument? (id : String) : Dict Json → String → Except ConfigError (Option Nat) :=
  argument? id "a non-negative integer" (Json.nat? 64)

/-- A number, integers being rounded (`number_arg`). -/
def numberArgument? (id : String) : Dict Json → String → Except ConfigError (Option Binary64) :=
  argument? id "a number" Json.binary64?

/-- A text (`str_arg`). -/
def textArgument? (id : String) : Dict Json → String → Except ConfigError (Option String) :=
  argument? id "a string" Json.str?

/-- The arguments `min` and `max` of those that are given. -/
def boundArguments (encode : α → Json) (min max : Option α) : Dict Json :=
  .ofList ((min.map fun v => ("min", encode v)).toList ++
    (max.map fun v => ("max", encode v)).toList)

end Guardrail.Validator
