import Guardrail.Reference
import Guardrail.Schema

/-!
# Descriptors

What the remote service is told about a guard.
-/

namespace Guardrail.Remote

/-- What the remote service is told about a guard (`GuardDescriptor`). -/
structure Descriptor where
  id : String
  name : String
  description : Option String
  references : List Reference
  schema : Schema

namespace Descriptor

/-- The fields of a descriptor. -/
def toJson (d : Descriptor) : Json :=
  .ofFields [.present "id" (.str d.id), .present "name" (.str d.name),
    .omitted "description" .str d.description,
    .present "validators" (.arr (d.references.map Reference.toJson)),
    .present "outputSchema" d.schema.toJson]

/-- Reads a descriptor. -/
def ofJson? (j : Json) : Option Descriptor := do
  let r ← j.record? ["id", "name", "description", "validators", "outputSchema"]
  return {
    id := ← r.required "id" Json.str?
    name := ← r.required "name" Json.str?
    description := ← r.omittable "description" Json.str?
    references := ← r.defaulted "validators" (Json.list? Reference.ofJson?) []
    schema := ← r.required "outputSchema" Schema.ofJson? }

end Descriptor
end Guardrail.Remote
