import Guardrail.Policy
import Guardrail.Verdict

/-!
# Outputs

What a round produced: the response, the value found in it, the log of the validators, and the
values that the target has to correct. The status of a round is read off its outputs. `Outputs` and
`Status` have the names of what they stand for.
-/

namespace Guardrail

/-- How a round or a call ended. -/
inductive Status
  | notRun
  | pass
  | fail
  | error
deriving DecidableEq, Inhabited

namespace Status

/-- A status as it is written. -/
def name : Status → String
  | .notRun => "not_run"
  | .pass => "pass"
  | .fail => "fail"
  | .error => "error"

/-- A status as it is shown. -/
def render : Status → String
  | .notRun => "not run"
  | status => status.name

/-- Reads a status. -/
def ofJson? (j : Json) : Option Status :=
  match j.caseName? with
  | some "not_run" => some .notRun
  | some "pass" => some .pass
  | some "fail" => some .fail
  | some "error" => some .error
  | _ => none

end Status

/-- What a target answers (`LlmResponse`). -/
structure Response where
  text : String
  promptTokens : Option Nat
  responseTokens : Option Nat
deriving DecidableEq, Inhabited

namespace Response

/-- A response without token counts. -/
def ofText (text : String) : Response := ⟨text, none, none⟩

/-- The fields of a response. -/
def toJson (r : Response) : Json :=
  .ofFields [.present "output" (.str r.text), .omitted "prompt_token_count" .ofNat r.promptTokens,
    .omitted "response_token_count" .ofNat r.responseTokens]

/-- Reads a response. -/
def ofJson? (j : Json) : Option Response := do
  let r ← j.record? ["output", "prompt_token_count", "response_token_count"]
  return {
    text := ← r.required "output" Json.str?
    promptTokens := ← r.omittable "prompt_token_count" (Json.nat? 32)
    responseTokens := ← r.omittable "response_token_count" (Json.nat? 32) }

end Response

/-- The record of one validator on one value (`ValidatorLog`). -/
structure LogEntry where
  validator : String
  path : String
  policy : Policy
  /-- The value as the validator saw it. -/
  before : Json
  verdict : Verdict
deriving Inhabited

namespace LogEntry

/-- Whether the validator failed. -/
def isFailure (l : LogEntry) : Bool := !l.verdict.isPass

/-- Whether the validator failed with a policy that blocks the value (`is_blocking_failure`). -/
def isBlockingFailure (l : LogEntry) : Bool := l.isFailure && l.policy.isBlocking

/-- The fields of a log entry. -/
def toJson (l : LogEntry) : Json :=
  .ofFields [.present "validator_name" (.str l.validator), .present "path" (.str l.path),
    .present "on_fail" l.policy.toJson, .present "value_before_validation" l.before,
    .present "result" l.verdict.toJson]

/-- Reads a log entry. -/
def ofJson? (j : Json) : Option LogEntry := do
  let r ← j.record? ["validator_name", "path", "on_fail", "value_before_validation", "result"]
  return {
    validator := ← r.required "validator_name" Json.str?
    path := ← r.required "path" Json.str?
    policy := ← r.required "on_fail" Policy.ofJson?
    before := ← r.required "value_before_validation" Json.any?
    verdict := ← r.required "result" Verdict.ofJson? }

end LogEntry

/-- What a round produced. -/
structure Outputs where
  response : Option Response
  /-- The text of the response. -/
  raw : Option String
  /-- The value found in the text. -/
  parsed : Option Json
  /-- The value after fixes and removals. -/
  validated : Option Json
  /-- The values that the target has to correct. -/
  reasks : List Correction
  logs : List LogEntry
  error : Option String
deriving Inhabited

namespace Outputs

/-- Nothing at all. -/
def empty : Outputs := ⟨none, none, none, none, [], [], none⟩

/-- How the round ended (`status`): with an error, before anything was there, or by what its reasks
and its log say. -/
def status (o : Outputs) : Status :=
  if o.error.isSome then .error
  else if o.raw.isNone && o.response.isNone then .notRun
  else if !o.reasks.isEmpty || o.logs.any (·.isBlockingFailure) then .fail
  else .pass

/-- The log entries of validators that failed (`failed_validations`). -/
def failures (o : Outputs) : List LogEntry := o.logs.filter (·.isFailure)

/-- The fields of outputs. -/
def toJson (o : Outputs) : Json :=
  .ofFields [.nullable "llm_response_info" Response.toJson o.response,
    .nullable "raw_output" .str o.raw, .nullable "parsed_output" id o.parsed,
    .nullable "validated_output" id o.validated,
    .present "reasks" (.arr (o.reasks.map Correction.toJson)),
    .present "validator_logs" (.arr (o.logs.map LogEntry.toJson)), .omitted "error" .str o.error]

/-- Reads outputs. -/
def ofJson? (j : Json) : Option Outputs := do
  let r ← j.record? ["llm_response_info", "raw_output", "parsed_output", "validated_output",
    "reasks", "validator_logs", "error"]
  return {
    response := ← r.optional "llm_response_info" Response.ofJson?
    raw := ← r.optional "raw_output" Json.str?
    parsed := ← r.optional "parsed_output" Json.any?
    validated := ← r.optional "validated_output" Json.any?
    reasks := ← r.defaulted "reasks" (Json.list? Correction.ofJson?) []
    logs := ← r.defaulted "validator_logs" (Json.list? LogEntry.ofJson?) []
    error := ← r.omittable "error" Json.str? }

end Outputs
end Guardrail
