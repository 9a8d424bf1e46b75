import Guardrail.Record.Call

/-!
# Outcomes

What a call comes to for its caller. Section 4.4 of the specification describes it.
-/

namespace Guardrail

/-- What a call comes to (`ValidationOutcome`). -/
structure Outcome where
  callId : Option String
  raw : Option String
  validated : Option Json
  passed : Bool
  error : Option String
  reasks : List Correction
deriving Inhabited

namespace Outcome

/-- What the record of a call comes to (`from_call`): it passed if its last round did and no error
ended it. -/
def ofCall (c : Call) : Outcome where
  callId := some c.id
  raw := c.raw
  validated := c.validated
  passed := c.exception.isNone && (c.last?.map Round.status) == some .pass
  error := c.exception
  reasks := c.reasks

/-- A failure without a record (`failed`). -/
def failed (error : String) : Outcome := ⟨none, none, none, false, some error, []⟩

/-- What has to be corrected, a line for each value (`error_summary`). -/
def errorSummary (o : Outcome) : Option String :=
  if o.reasks.isEmpty then none
  else some (String.intercalate "\n" (o.reasks.map fun c =>
    c.path ++ ": " ++ String.intercalate "; " c.messages))

/-- The validated value read by `decode`, if there is one (`validated_as`). -/
def validatedAs (o : Outcome) (decode : Json → Option α) : Except Error (Option α) :=
  match o.validated with
  | none | some .null => .ok none
  | some j =>
    match decode j with
    | some v => .ok (some v)
    | none => .error (.serialization "the validated value does not have the type asked for")

/-- The fields of an outcome. -/
def toJson (o : Outcome) : Json :=
  .ofFields [.omitted "call_id" .str o.callId, .nullable "raw_llm_output" .str o.raw,
    .nullable "validated_output" id o.validated, .present "validation_passed" (.bool o.passed),
    .omitted "error" .str o.error,
    .omitted "reasks" (fun rs => .arr (rs.map Correction.toJson))
      (if o.reasks.isEmpty then none else some o.reasks)]

/-- Reads an outcome. -/
def ofJson? (j : Json) : Option Outcome := do
  let r ← j.record? ["call_id", "raw_llm_output", "validated_output", "validation_passed", "error",
    "reasks"]
  return {
    callId := ← r.omittable "call_id" Json.str?
    raw := ← r.optional "raw_llm_output" Json.str?
    validated := ← r.optional "validated_output" Json.any?
    passed := ← r.required "validation_passed" Json.bool?
    error := ← r.omittable "error" Json.str?
    reasks := ← r.defaulted "reasks" (Json.list? Correction.ofJson?) [] }

end Outcome
end Guardrail
