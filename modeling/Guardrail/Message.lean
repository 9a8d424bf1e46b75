import Guardrail.Json.Record
import Guardrail.Template

/-!
# Messages

Messages of a chat that precedes a request. The content of a message is a template.
-/

namespace Guardrail

/-- Who speaks. -/
inductive Role
  | system
  | user
  | assistant
deriving DecidableEq, Inhabited

namespace Role

/-- The name of a role. -/
def name : Role → String
  | .system => "system"
  | .user => "user"
  | .assistant => "assistant"

/-- The role of a name. -/
def ofName? : String → Option Role
  | "system" => some .system
  | "user" => some .user
  | "assistant" => some .assistant
  | _ => none

/-- Reads a role. -/
def ofJson? (j : Json) : Option Role := j.caseName?.bind ofName?

/-- Reads a role, with a looser view of a case without content. -/
def ofLooseJson? (j : Json) : Option Role := j.looseCaseName?.bind ofName?

end Role

/-- A message. -/
structure Message where
  role : Role
  content : String
deriving DecidableEq, Inhabited

namespace Message

/-- The message with the placeholders of its content filled in (`format`). -/
def render (m : Message) (params : Params) : Message :=
  { m with content := Template.render ⟨m.content⟩ params }

/-- The fields of a message. -/
def toJson (m : Message) : Json :=
  .ofFields [.present "role" (.str m.role.name), .present "content" (.str m.content)]

/-- Reads a message, its role by `role?`. -/
def read? (role? : Json → Option Role) (j : Json) : Option Message := do
  let r ← j.record? ["role", "content"]
  return { role := ← r.required "role" role?, content := ← r.required "content" Json.str? }

/-- Reads a message. -/
def ofJson? (j : Json) : Option Message := read? Role.ofJson? j

end Message
end Guardrail
