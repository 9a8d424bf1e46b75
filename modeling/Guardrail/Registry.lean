import Guardrail.Reference
import Guardrail.Validator.Choices
import Guardrail.Validator.Length
import Guardrail.Validator.Line
import Guardrail.Validator.Pattern
import Guardrail.Validator.Range

/-!
# Registries

A registry makes validators from their ids and arguments. It lists its ids in the order in which
they were first registered.

Every validator that is made gets a serial number, which a factory may use to tell checks apart that
it makes anew each time. The built-in factories have no use for it.
-/

namespace Guardrail

/-- Makes a validator from a serial number and arguments (`ValidatorFactory`). -/
abbrev Factory := Nat → Dict Json → Except ConfigError Validator

/-- Factories by id (`ValidatorRegistry`). -/
structure Registry where
  factories : List (String × Factory)

namespace Registry

/-- No factories. -/
def empty : Registry := ⟨[]⟩

/-- Factories with one more. A known id keeps its place and gets the new factory. -/
def registerIn (id : String) (make : Factory) : List (String × Factory) → List (String × Factory)
  | [] => [(id, make)]
  | (k, f) :: rest => if k = id then (k, make) :: rest else (k, f) :: registerIn id make rest

/-- The registry with one more factory. -/
def register (r : Registry) (id : String) (make : Factory) : Registry :=
  ⟨registerIn id make r.factories⟩

/-- The registry of the built-in validators (`with_builtins`). -/
def builtins : Registry :=
  ⟨[(Validator.LengthBounds.id, fun _ args => (Validator.LengthBounds.ofArgs args).map .length),
    (Validator.Pattern.id, fun _ args => (Validator.Pattern.ofArgs args).map .pattern),
    (Validator.choicesId, fun _ args => (Validator.choicesOfArgs args).map .choices),
    (Validator.NumberBounds.id, fun _ args => (Validator.NumberBounds.ofArgs args).map .range),
    (Validator.lowerCase.name, fun _ _ => .ok .lowerCase),
    (Validator.oneLine.name, fun _ _ => .ok .oneLine)]⟩

/-- The ids. -/
def ids (r : Registry) : List String := r.factories.map (·.1)

/-- Whether an id is known. -/
def contains (r : Registry) (id : String) : Bool := r.ids.contains id

/-- The validator of an id and arguments (`build`). -/
def build (r : Registry) (serial : Nat) (id : String) (args : Dict Json) :
    Except ConfigError Validator :=
  match r.factories.lookup id with
  | some make => make serial args
  | none => .error (.unknownValidator id)

/-- The path and the bound validator of a reference (`resolve`). -/
def resolve (r : Registry) (serial : Nat) (ref : Reference) :
    Except ConfigError (Path × BoundValidator) := do
  let path ← ref.path
  let validator ← r.build serial ref.id ref.args
  return (path, ⟨validator, ref.policy⟩)

/-- How a registry is described. -/
def describe (r : Registry) : String :=
  "ValidatorRegistry \x7b ids: " ++ Text.quotedList r.ids ++ " \x7d"

end Registry
end Guardrail
