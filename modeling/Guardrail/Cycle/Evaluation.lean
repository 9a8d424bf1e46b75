import Guardrail.Extraction
import Guardrail.Pass

/-!
# Evaluation of responses

What a response comes to under the requirements for an output: a value is looked for in its text,
and the validators run over the value. A text without a value of the shape asked for has to be
corrected as a whole.
-/

namespace Guardrail

/-- What an output has to meet. -/
structure Requirements where
  schema : Schema
  validators : ValidatorMap

/-- What a response comes to (`Evaluated`). -/
inductive Evaluation
  /-- The response was checked. `annotated` and `corrections` are what asking again needs. -/
  | checked (outputs : Outputs) (annotated : Json) (corrections : List Correction)
  /-- A validator aborted the pass. -/
  | aborted (outputs : Outputs) (error : ValidationError)

namespace Evaluation

/-- The outputs of the round. -/
def outputs : Evaluation → Outputs
  | .checked outputs _ _ => outputs
  | .aborted outputs _ => outputs

end Evaluation

namespace Requirements

/-- The outputs of a response before anything is found in it. -/
def received (response : Response) : Outputs :=
  { Outputs.empty with response := some response, raw := some response.text }

/-- The correction of a text without a value of the shape asked for. -/
def unreadable (text : String) : Correction :=
  ⟨.str text, Path.render [], [.ofMessage Extraction.notFoundMessage]⟩

/-- What a response comes to (`evaluate`). -/
def evaluate (r : Requirements) (response : Response) (metadata : Metadata) : Evaluation :=
  let outputs := received response
  match Extraction.extract? r.schema.shape response.text with
  | none =>
    let c := unreadable response.text
    .checked { outputs with reasks := [c] } c.marker [c]
  | some value =>
    match Pass.run value r.validators metadata with
    | .ok pass =>
      .checked
        { outputs with
          parsed := some value
          validated := pass.validated
          reasks := pass.reasks
          logs := pass.logs }
        pass.annotated pass.corrections
    | .error abort =>
      .aborted
        { outputs with
          parsed := some value
          logs := abort.logs
          error := some abort.error.text }
        abort.error

end Requirements
end Guardrail
