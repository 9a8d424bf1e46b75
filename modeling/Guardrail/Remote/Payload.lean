import Guardrail.Json.Writer
import Guardrail.Record.Inputs

/-!
# Payloads

What the remote service is told about a call. The arguments by name stand beside the fields of the
payload itself. An argument with the name of a field hides the field wherever only one of them can
be told. Section B6.11 of the specification describes payloads.
-/

namespace Guardrail.Remote

/-- What the remote service is told about a call (`ValidatePayload`). -/
structure Payload where
  args : List Json
  /-- An output to be validated instead of one that is generated. -/
  output : Option String
  retries : Option Nat
  params : Option Params
  /-- The provider to generate with. -/
  provider : Option String
  kwargs : Dict Json
deriving Inhabited

namespace Payload

/-- The argument by name that holds the key for the provider (`API_KEY_KWARG`). -/
def keyArgument : String := "api_key"

/-- The key for the provider, if the call has one. -/
def providerKey (c : CallInputs) : Option String := (c.kwargs.find? keyArgument).bind Json.str?

/-- The payload of a call (`from_call_inputs`). The key for the provider is left out. -/
def ofCall (c : CallInputs) (provider : Option String) : Payload where
  args := c.args
  output := c.inputs.output
  retries := some c.inputs.retries
  params := if c.inputs.params.isEmpty then none else some c.inputs.params
  provider := provider
  kwargs := c.kwargs.erase keyArgument

/-- The names of the fields. -/
def fieldNames : List String := ["args", "llmOutput", "numReasks", "promptParams", "llmApi"]

/-- The fields that have a value. -/
def fields (p : Payload) : List (String × Json) :=
  [some ("args", .arr p.args), p.output.map fun o => ("llmOutput", .str o),
    p.retries.map fun n => ("numReasks", .ofNat n),
    p.params.map fun ps => ("promptParams", .obj ps),
    p.provider.map fun name => ("llmApi", .str name)].reduceOption

/-- The payload as a value. -/
def toJson (p : Payload) : Json := .ofMembers (p.fields ++ p.kwargs)

/-- The payload as text: the fields and then the arguments by name, all of them. -/
def text (p : Payload) : String := (Json.obj (p.fields ++ p.kwargs)).compact

/-- Reads a payload, which must be an object. What is no field is an argument. -/
def ofJson? (j : Json) : Option Payload := do
  let members ← j.members?
  let r : Json.Record := ⟨Dict.find? members, true⟩
  return {
    args := ← r.defaulted "args" Json.items? []
    output := ← r.omittable "llmOutput" Json.str?
    retries := ← r.omittable "numReasks" (Json.nat? 32)
    params := ← r.omittable "promptParams" Json.members?
    provider := ← r.omittable "llmApi" Json.str?
    kwargs := members.filter fun m => !fieldNames.contains m.1 }

end Payload
end Guardrail.Remote
