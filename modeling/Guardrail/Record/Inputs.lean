import Guardrail.Message

/-!
# Inputs

What a call and each of its rounds are given. The inputs of a later round differ from those of the
call in the prompt and the instructions only, and are never given an output. `Inputs` and
`CallInputs` have the names of the records that they stand for.
-/

namespace Guardrail

/-- What a round is given. -/
structure Inputs where
  /-- The name of the generation target. -/
  target : Option String
  /-- An output to be validated instead of one that is generated. -/
  output : Option String
  prompt : Option Template
  instructions : Option Template
  messages : Option (List Message)
  params : Params
  /-- How often the target may be asked again. -/
  retries : Nat
  metadata : Dict Json
  /-- Whether a prompt to correct an output shows the whole schema and output. -/
  fullSchema : Bool
  stream : Bool
deriving Inhabited

namespace Inputs

/-- Inputs without anything. -/
def empty : Inputs := ⟨none, none, none, none, none, [], 0, [], false, false⟩

/-- The inputs of a round that is to correct an output (`for_reask`). -/
def forReask (i : Inputs) (prompt : Template) (instructions : Option Template) : Inputs :=
  { i with output := none, prompt := some prompt, instructions }

/-- Whether there are messages. -/
def hasMessages (i : Inputs) : Bool := i.messages.any (!·.isEmpty)

/-- The names of the fields. -/
def fieldNames : List String :=
  ["llm_api", "llm_output", "prompt", "instructions", "msg_history", "prompt_params", "num_reasks",
    "metadata", "full_schema_reask", "stream"]

/-- The fields. -/
def fields (i : Inputs) : List Json.Field :=
  [.nullable "llm_api" .str i.target, .nullable "llm_output" .str i.output,
    .nullable "prompt" Template.toJson i.prompt,
    .nullable "instructions" Template.toJson i.instructions,
    .nullable "msg_history" (fun ms => .arr (ms.map Message.toJson)) i.messages,
    .present "prompt_params" (.obj i.params), .present "num_reasks" (.ofNat i.retries),
    .present "metadata" (.obj i.metadata), .present "full_schema_reask" (.bool i.fullSchema),
    .present "stream" (.bool i.stream)]

/-- The object of the fields. -/
def toJson (i : Inputs) : Json := .ofFields i.fields

/-- Reads the fields of a record, the roles of messages by `role?`. -/
def ofRecord? (role? : Json → Option Role) (r : Json.Record) : Option Inputs := do
  return {
    target := ← r.optional "llm_api" Json.str?
    output := ← r.optional "llm_output" Json.str?
    prompt := ← r.optional "prompt" Template.ofJson?
    instructions := ← r.optional "instructions" Template.ofJson?
    messages := ← r.optional "msg_history" (Json.list? (Message.read? role?))
    params := ← r.defaulted "prompt_params" Json.members? []
    retries := ← r.required "num_reasks" (Json.nat? 32)
    metadata := ← r.defaulted "metadata" Json.members? []
    fullSchema := ← r.required "full_schema_reask" Json.bool?
    stream := ← r.defaulted "stream" Json.bool? false }

/-- Reads inputs. -/
def ofJson? (j : Json) : Option Inputs := (j.record? fieldNames).bind (ofRecord? Role.ofJson?)

end Inputs

/-- What a call is given: the inputs of its first round, and arguments that are passed on to the
target. -/
structure CallInputs where
  inputs : Inputs
  args : List Json
  kwargs : Dict Json
deriving Inhabited

namespace CallInputs

/-- The object of all fields, those of the inputs among them. -/
def toJson (c : CallInputs) : Json :=
  .ofFields (c.inputs.fields ++ [.present "args" (.arr c.args), .present "kwargs" (.obj c.kwargs)])

/-- Reads the inputs of a call, which must be an object. The roles of its messages may have an empty
object for their content. -/
def ofJson? (j : Json) : Option CallInputs := do
  let members ← j.members?
  let r : Json.Record := ⟨Dict.find? members, true⟩
  return {
    inputs := ← Inputs.ofRecord? Role.ofLooseJson? r
    args := ← r.defaulted "args" Json.items? []
    kwargs := ← r.defaulted "kwargs" Json.members? [] }

end CallInputs
end Guardrail
