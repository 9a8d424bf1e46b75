import Guardrail.Path.Text
import Guardrail.Policy

/-!
# References to validators

A reference names a validator, its arguments, the path it is attached to and the policy for its
failures. It is what a guard is described by.
-/

namespace Guardrail

/-- A reference to a validator (`ValidatorReference`). -/
structure Reference where
  id : String
  /-- The path, as text. -/
  target : String
  policy : Policy
  args : Dict Json

namespace Reference

/-- The path of a reference. -/
def path (r : Reference) : Except ConfigError Path := Path.parse r.target

/-- The reference with its path in the form that paths are written in (`normalized`). -/
def normalize (r : Reference) : Except ConfigError Reference := do
  return { r with target := (← r.path).render }

/-- The fields of a reference. -/
def toJson (r : Reference) : Json :=
  .ofFields [.present "id" (.str r.id), .present "on" (.str r.target),
    .present "on_fail" r.policy.toJson, .present "kwargs" (.obj r.args)]

/-- Reads a reference. -/
def ofJson? (j : Json) : Option Reference := do
  let r ← j.record? ["id", "on", "on_fail", "kwargs"]
  return {
    id := ← r.required "id" Json.str?
    target := ← r.required "on" Json.str?
    policy := ← r.defaulted "on_fail" Policy.ofJson? .noop
    args := ← r.defaulted "kwargs" Json.members? [] }

end Reference
end Guardrail
