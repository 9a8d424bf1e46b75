import Guardrail.Cycle.Evaluation
import Guardrail.Outcome
import Guardrail.Reask.Inputs
import Guardrail.Target.Basic

/-!
# Cycles

A cycle is what a call goes through round by round: the target is asked, its answer is evaluated and
recorded, and where something has to be corrected the target is asked again. This module holds what
a cycle works with and the parts that blocking, awaited and streamed calls share. Section 4.2 of the
specification describes cycles as the ReaskEngine.
-/

namespace Guardrail

/-- What a cycle works with (`Runner`). -/
structure Cycle (σ : Type) where
  requirements : Requirements
  target : Option (Target σ)
  /-- The templates for asking again. -/
  templates : Reask.Templates
  /-- The arguments by name that every request carries. -/
  kwargs : Dict Json

/-- A call as an error leaves it. -/
abbrev Failed := Error × Call

namespace Call

/-- The call ended by an error after a last round (`abort`). Should the round not fit in, the call
stays as it is, and that is the error. -/
def abort (c : Call) (r : Round) (e : Error) : Failed :=
  match c.push r with
  | .error misfit => (misfit, c)
  | .ok c => (e, c.fail e.message)

/-- The call ended by an error before its round had any output (`settle`). An error of the library
itself is not recorded. -/
def abortRound (c : Call) (index : Nat) (inputs : Inputs) (e : Error) : Failed :=
  if e.isFatal then (e, c)
  else c.abort ⟨index, inputs, { Outputs.empty with error := some e.message }⟩ e

end Call

namespace Cycle

variable {σ : Type}

/-- The parameters of the templates (`render_params`): those of the call and, where they leave these
names free, the schema and the shape of the output. -/
def params (c : Cycle σ) (base : Params) : Params :=
  (Dict.insertNew base "output_schema" (.str c.requirements.schema.render)).insertNew
    "output_type" (.str c.requirements.schema.shape.name)

/-- The request of a round (`build_request`). It needs a prompt or messages. -/
def request (c : Cycle σ) (args : List Json) (inputs : Inputs) (round : Nat) :
    Except ConfigError Target.Request :=
  let params := c.params inputs.params
  if inputs.prompt.isNone && !inputs.hasMessages then .error .missingPrompt
  else .ok {
    prompt := inputs.prompt.map (·.render params)
    instructions := inputs.instructions.map (·.render params)
    messages := inputs.messages.map fun ms => ms.map (·.render params)
    args
    kwargs := c.kwargs
    round }

/-- How the cycle of a call is described. -/
def describe (c : Cycle σ) (callId : String) : String :=
  let target := match c.target with
    | some t => "Some(" ++ t.describe ++ ")"
    | none => "None"
  "Runner \x7b call_id: " ++ Text.quoted callId ++ ", api: " ++ target ++ ", validators: " ++
    toString c.requirements.validators.count ++ " \x7d"

end Cycle
end Guardrail
