import Guardrail.Cycle.Basic
import Guardrail.Guard.Basic

/-!
# Plans

What a caller asks for, and what a guard makes of it before anything is recorded or generated.
Sections B6.4 and B6.6 of the specification describe what is filled in.
-/

namespace Guardrail

/-- What a caller asks for (`CallOptions`). -/
structure Invocation (σ : Type) where
  target : Option (Target σ)
  /-- An output to be validated instead of one that is generated. -/
  output : Option String
  prompt : Option Template
  instructions : Option Template
  messages : Option (List Message)
  params : Params
  retries : Option Nat
  metadata : Dict Json
  fullSchema : Option Bool
  stream : Bool
  reaskPrompt : Option Template
  reaskInstructions : Option Template
  args : List Json
  kwargs : Dict Json

/-- A call that is ready to be started. -/
structure Plan (σ : Type) where
  route : Route
  target : Option (Target σ)
  inputs : CallInputs
  templates : Reask.Templates

variable {σ : Type}

namespace Invocation

/-- Nothing is asked for. -/
def empty : Invocation σ where
  target := none
  output := none
  prompt := none
  instructions := none
  messages := none
  params := []
  retries := none
  metadata := []
  fullSchema := none
  stream := false
  reaskPrompt := none
  reaskInstructions := none
  args := []
  kwargs := []

/-- How often the target may be asked again (`DEFAULT_CALL_REASKS`), if neither the caller nor the
guard says so. -/
def defaultRetries : Nat := 1

/-- As `defaultRetries` (`parse_default_reasks`), for an output that is given. -/
def defaultParseRetries (o : Invocation σ) : Nat := if o.target.isSome then defaultRetries else 0

end Invocation

namespace Guard

/-- The inputs of a call: what the caller asks for, completed by what the guard falls back on. -/
def inputs (g : Guard σ) (o : Invocation σ) (defaultRetries : Nat) : Inputs where
  target := o.target.map (·.name)
  output := o.output
  prompt := o.prompt.or g.defaults.prompt
  instructions := o.instructions.or g.defaults.instructions
  messages := o.messages
  params := o.params
  retries := (o.retries.or g.retries).getD defaultRetries
  metadata := o.metadata
  fullSchema := o.fullSchema.getD g.ofModel
  stream := o.stream

/-- The plan for what a caller asks for (`plan`). -/
def plan (g : Guard σ) (o : Invocation σ) (defaultRetries : Nat) : Except ConfigError (Plan σ) := do
  let inputs := g.inputs o defaultRetries
  checkPreconditions o.target.isSome inputs g.validators
  return {
    route := .select o.target o.stream g.service
    target := o.target
    inputs := ⟨inputs, o.args, o.kwargs⟩
    templates := ⟨o.reaskPrompt.or g.defaults.reaskPrompt,
      o.reaskInstructions.or g.defaults.reaskInstructions⟩ }

/-- What the rounds of a planned call work with. -/
def cycle (g : Guard σ) (p : Plan σ) : Cycle σ where
  requirements := ⟨g.schema, g.validators⟩
  target := p.target
  templates := p.templates
  kwargs := p.inputs.kwargs

end Guard
end Guardrail
