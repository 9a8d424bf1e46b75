import Guardrail.Error
import Guardrail.Record.Inputs
import Guardrail.Remote.Service
import Guardrail.Target.Basic
import Guardrail.ValidatorMap

/-!
# Routes and preconditions

How a call is carried out, and what has to hold before anything is generated for it. Section 4.1 of
the specification describes both, as the ExecutionRouter.
-/

namespace Guardrail

/-- How a call is carried out (`Strategy`). -/
inductive Route
  /-- By the remote service. -/
  | remote
  /-- By rounds that have to be awaited. -/
  | async
  /-- As a stream of outcomes. -/
  | stream
  /-- By rounds that block the caller. -/
  | blocking
deriving DecidableEq, Inhabited

namespace Route

/-- The name of a route. -/
def name : Route → String
  | .remote => "remote"
  | .async => "async"
  | .stream => "stream"
  | .blocking => "sync"

/-- The route of a call (`select`). The remote service takes it if it can use the target's provider;
otherwise a stream is given if one is asked for. -/
def select {σ : Type} (target : Option (Target σ)) (stream : Bool)
    (service : Option (Remote.Service σ)) : Route :=
  let delegable := match service, target.bind (·.provider) with
    | some service, some provider => service.supports provider
    | _, _ => false
  if delegable then .remote
  else if stream then .stream
  else if target.any (·.isAsync) then .async
  else .blocking

end Route

/-- What has to hold before a call (`check_preconditions`): there is a target or an output, a target
without an output has a prompt or messages to go by, and the validators have the metadata that they
need. -/
def checkPreconditions (hasTarget : Bool) (inputs : Inputs) (validators : ValidatorMap) :
    Except ConfigError Unit :=
  if !hasTarget && inputs.output.isNone then .error .missingTarget
  else if hasTarget && inputs.output.isNone && inputs.prompt.isNone && !inputs.hasMessages then
    .error .missingPrompt
  else validators.checkMetadata inputs.metadata

end Guardrail
