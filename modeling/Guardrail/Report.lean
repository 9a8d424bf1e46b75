import Guardrail.Guard.Session

/-!
# Reports

Encodings in JSON for programs that show results: the kind of an error beside its wording, the steps
of a path, the status of a call and of each of its rounds, what a pass came to, and what validators,
targets and guards are made of. None of them stands for an operation of the system, and no other
module of the library uses them.
-/

namespace Guardrail

namespace Error

/-- The kind of an error. -/
def kind : Error → String
  | .config .missingTarget => "Config/MissingTarget"
  | .config .missingPrompt => "Config/MissingPrompt"
  | .config (.missingMetadata _) => "Config/MissingMetadata"
  | .config (.unsupportedOperation _) => "Config/UnsupportedOperation"
  | .config (.streamingUnsupported _) => "Config/StreamingUnsupported"
  | .config (.unknownValidator _) => "Config/UnknownValidator"
  | .config (.invalidArguments _ _) => "Config/InvalidValidatorArgs"
  | .config (.invalidPath _ _) => "Config/InvalidPath"
  | .validation _ => "Validation"
  | .generation _ => "Generation"
  | .remote _ => "Remote"
  | .invariant _ => "Invariant"
  | .serialization _ => "Serialization"
  | .runtime _ => "Runtime"
  | .other _ => "Other"

/-- What is told about errors of some kinds only. The wording of a failed reading is left out: it
says no more than the kind. -/
def details : Error → List Json.Field
  | .serialization _ => []
  | .validation e =>
    [.present "message" (.str e.text), .present "validator" (.str e.validator),
      .present "path" (.str e.path)]
  | .generation e => [.present "message" (.str e.text), .present "retryable" (.bool e.retryable)]
  | e => [.present "message" (.str e.message)]

/-- What is told about an error. -/
def report (e : Error) : Json :=
  .ofFields ([.present "error" (.str e.kind), .present "fatal" (.bool e.isFatal),
    .present "config" (.bool e.isConfig)] ++ e.details)

end Error

namespace RemoteError

/-- The kind of an error of the remote service. -/
def kind : RemoteError → String
  | .http _ _ => "RemoteError/Http"
  | .request _ => "RemoteError/Request"
  | .decode _ => "RemoteError/Decode"
  | .missingConfig _ => "RemoteError/MissingConfig"

/-- What is told about an error of the remote service. -/
def report (e : RemoteError) : Json :=
  .ofFields [.present "error" (.str e.kind), .present "message" (.str e.message),
    .present "as_guard_error" e.toError.report]

end RemoteError

/-- What is told about a step of a path. -/
def Segment.report : Segment → Json
  | .key name => .ofFields [.present "key" (.str name)]
  | .index i => .ofFields [.present "index" (.ofNat i)]
  | .wildcard => .str "*"

/-- What is told about a round. -/
def Round.report (r : Round) : Json :=
  .ofFields [.present "index" (.ofNat r.index), .present "inputs" r.inputs.toJson,
    .present "outputs" r.outputs.toJson, .present "status" (.str r.status.name),
    .present "has_reasks" (.bool r.hasReasks)]

namespace Call

/-- What is told about a call. -/
def report (c : Call) : Json :=
  .ofFields [.present "id" (.str c.id), .present "inputs" c.inputs.toJson,
    .present "iterations" (.arr (c.rounds.map Round.report)),
    .present "status" (.str c.status.name), .nullable "exception" .str c.exception]

/-- What is told about a call in a list of calls. -/
def summary (c : Call) : Json :=
  .arr [.str c.id, .str c.status.name, .ofNat c.rounds.length, c.exception.elim .null .str]

/-- What a call has come to so far. -/
def progress (c : Call) : List Json.Field :=
  let outcome := Outcome.ofCall c
  [.present "status" (.str c.status.name), .present "display" (.str c.status.render),
    .present "count" (.ofNat c.rounds.length), .present "max" (.ofNat c.maxRounds),
    .nullable "exception" .str c.exception, .nullable "validated" (fun v => v) c.validated,
    .nullable "raw" .str c.raw, .present "reasks" (.arr (c.reasks.map Correction.toJson)),
    .present "outcome" outcome.toJson, .nullable "summary" .str outcome.errorSummary]

end Call

/-- What a pass came to. -/
def Pass.report (p : Pass) : Json :=
  .ofFields [.nullable "validated" id p.validated,
    .nullable "validated_text" (fun v => .str v.compact) p.validated,
    .present "annotated" p.annotated, .present "reasks" (.arr (p.reasks.map Correction.toJson)),
    .present "corrections" (.arr (p.corrections.map Correction.toJson)),
    .present "fixes" (.arr (p.corrections.map fun c => c.fix?.getD .null)),
    .present "logs" (.arr (p.logs.map LogEntry.toJson)), .present "failed" (.bool p.failed)]

/-- What an aborted pass came to. -/
def Pass.Abort.report (a : Pass.Abort) : Json :=
  .ofMembers (((Error.validation a.error).report.members?.getD []) ++
    [("logs", .arr (a.logs.map LogEntry.toJson))])

/-- What a map of validators is made of. -/
def ValidatorMap.fields (m : ValidatorMap) : List Json.Field :=
  let texts (ts : List String) : Json := .arr (ts.map .str)
  [.present "len" (.ofNat m.entries.length), .present "empty" (.bool m.entries.isEmpty),
    .present "count" (.ofNat m.count),
    .present "entries" (.arr (m.entries.map fun (path, vs) =>
      .ofFields [.present "path" (.str path.render),
        .present "validators" (texts (vs.map BoundValidator.render))])),
    .present "order" (texts (m.processingOrder.map fun e => e.1.render)),
    .present "required" (texts m.requiredKeys)]

/-- What is told about a target. -/
def Target.report {σ : Type} (t : Target σ) : Json :=
  .ofFields [.present "name" (.str t.name), .present "async" (.bool t.isAsync),
    .nullable "provider" .str t.provider, .present "debug" (.str t.describe)]

/-- What is told about a guard. -/
def Guard.report {σ : Type} (g : Guard σ) : Json :=
  .ofFields [.present "id" (.str g.id), .present "name" (.str g.name),
    .nullable "description" .str g.description, .present "display" (.str g.render),
    .present "count" (.ofNat g.validators.count), .present "model" (.bool g.ofModel),
    .nullable "num_reasks" .ofNat g.retries, .present "options" g.defaults.toJson,
    .present "references" (.arr (g.references.map Reference.toJson)),
    .present "schema" g.schema.toJson]

/-- What is told about the calls that are kept: all of them in short, and the last one in full. -/
def Session.fields {σ : Type} (s : Session σ) : List Json.Field :=
  [.present "history" (.arr (s.retained.map Call.summary)),
    .nullable "last" Call.report s.retained.getLast?]

end Guardrail
