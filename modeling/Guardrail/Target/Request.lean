import Guardrail.Message

/-!
# Requests to a target

What a generation target is asked in a round: the templates of the round, filled in, and the
arguments that the call passes on.
-/

namespace Guardrail.Target

/-- What a target is asked (`LlmRequest`). -/
structure Request where
  prompt : Option String
  instructions : Option String
  messages : Option (List Message)
  args : List Json
  kwargs : Dict Json
  /-- The number of the round. -/
  round : Nat
deriving Inhabited

namespace Request

/-- The fields of a request. -/
def toJson (r : Request) : Json :=
  .ofFields [.nullable "prompt" .str r.prompt, .nullable "instructions" .str r.instructions,
    .nullable "msg_history" (fun ms => .arr (ms.map Message.toJson)) r.messages,
    .present "args" (.arr r.args), .present "kwargs" (.obj r.kwargs),
    .present "round" (.ofNat r.round)]

/-- Reads a request. -/
def ofJson? (j : Json) : Option Request := do
  let r ← j.record? ["prompt", "instructions", "msg_history", "args", "kwargs", "round"]
  return {
    prompt := ← r.optional "prompt" Json.str?
    instructions := ← r.optional "instructions" Json.str?
    messages := ← r.optional "msg_history" (Json.list? Message.ofJson?)
    args := ← r.defaulted "args" Json.items? []
    kwargs := ← r.defaulted "kwargs" Json.members? []
    round := ← r.required "round" (Json.nat? 64) }

end Request
end Guardrail.Target
