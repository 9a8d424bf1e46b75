import Guardrail.Json.Record
import Guardrail.Json.Writer

/-!
# Output schemas

What an output is to look like: its shape, and a JSON schema that is shown to the generator.
-/

namespace Guardrail

/-- The shape of an output (`OutputType`). -/
inductive Shape
  /-- Text as it comes. -/
  | string
  /-- A JSON object. -/
  | object
  /-- A JSON array. -/
  | list
deriving DecidableEq, Inhabited

namespace Shape

/-- The name of a shape. -/
def name : Shape → String
  | .string => "string"
  | .object => "object"
  | .list => "list"

/-- Whether the output is JSON (`is_structured`). -/
def isStructured : Shape → Bool
  | .string => false
  | .object | .list => true

/-- Whether a value has the shape. -/
def admits : Shape → Json → Bool
  | .string, .str _ => true
  | .object, .obj _ => true
  | .list, .arr _ => true
  | _, _ => false

/-- Reads a shape. -/
def ofJson? (j : Json) : Option Shape :=
  match j.caseName? with
  | some "string" => some .string
  | some "object" => some .object
  | some "list" => some .list
  | _ => none

end Shape

/-- An output schema (`OutputSchema`). -/
structure Schema where
  shape : Shape
  /-- The JSON schema. -/
  document : Json
  description : Option String
deriving Inhabited

namespace Schema

/-- Text without further demands. -/
def string : Schema := ⟨.string, .ofMembers [("type", .str "string")], none⟩

/-- The schema with a description (`with_description`), which the JSON schema mentions too if it is
an object. -/
def describe (s : Schema) (text : String) : Schema :=
  { s with
    document :=
      match s.document with
      | .obj members => .obj (Dict.insert members "description" (.str text))
      | other => other
    description := some text }

/-- How the schema is shown in prompts (`render`): the description of a text, if there is one,
otherwise the JSON schema. -/
def render (s : Schema) : String :=
  match s.shape, s.description with
  | .string, some text => text
  | _, _ => s.document.pretty

/-- The fields of a schema. -/
def toJson (s : Schema) : Json :=
  .ofFields [.present "output_type" (.str s.shape.name), .present "json_schema" s.document,
    .omitted "description" .str s.description]

/-- Reads a schema. -/
def ofJson? (j : Json) : Option Schema := do
  let r ← j.record? ["output_type", "json_schema", "description"]
  return {
    shape := ← r.required "output_type" Shape.ofJson?
    document := ← r.required "json_schema" Json.any?
    description := ← r.omittable "description" Json.str? }

end Schema
end Guardrail
