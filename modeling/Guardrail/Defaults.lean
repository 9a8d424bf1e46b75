import Guardrail.Record.History
import Guardrail.Template

/-!
# Defaults and settings

What a guard falls back on where a call gives nothing, and what may be changed between calls.
-/

namespace Guardrail

/-- The templates that a guard falls back on (`ExecutionOptions`). -/
structure Defaults where
  prompt : Option Template
  instructions : Option Template
  /-- The prompt for asking again. -/
  reaskPrompt : Option Template
  /-- The instructions for asking again. -/
  reaskInstructions : Option Template
deriving DecidableEq, Inhabited

namespace Defaults

/-- No templates. -/
def none : Defaults := ⟨.none, .none, .none, .none⟩

/-- The fields of defaults. -/
def toJson (d : Defaults) : Json :=
  .ofFields [.nullable "prompt" Template.toJson d.prompt,
    .nullable "instructions" Template.toJson d.instructions,
    .nullable "reask_prompt" Template.toJson d.reaskPrompt,
    .nullable "reask_instructions" Template.toJson d.reaskInstructions]

/-- Reads defaults. -/
def ofJson? (j : Json) : Option Defaults := do
  let r ← j.record? ["prompt", "instructions", "reask_prompt", "reask_instructions"]
  return {
    prompt := ← r.optional "prompt" Template.ofJson?
    instructions := ← r.optional "instructions" Template.ofJson?
    reaskPrompt := ← r.optional "reask_prompt" Template.ofJson?
    reaskInstructions := ← r.optional "reask_instructions" Template.ofJson? }

end Defaults

/-- What may be changed between calls; what is not given stays as it is (`GuardSettings`). -/
structure Settings where
  /-- How often the target may be asked again, if a call does not say so. -/
  retries : Option Nat
  retention : Option Retention
deriving DecidableEq, Inhabited

namespace Settings

/-- The fields of settings. -/
def toJson (s : Settings) : Json :=
  .ofFields [.nullable "num_reasks" .ofNat s.retries,
    .nullable "retention" Retention.toJson s.retention]

/-- Reads settings. -/
def ofJson? (j : Json) : Option Settings := do
  let r ← j.record? ["num_reasks", "retention"]
  return {
    retries := ← r.optional "num_reasks" (Json.nat? 32)
    retention := ← r.optional "retention" Retention.ofJson? }

end Settings
end Guardrail
