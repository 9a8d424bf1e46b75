import Guardrail.Json.Record

/-!
# Verdicts and corrections

What a validator answers about a value, and the record of a value that has to be corrected.
-/

namespace Guardrail

/-- Why a value was refused, and what to put in its place, if the validator knows (`FailResult`). -/
structure Failure where
  message : String
  fix : Option Json
deriving Inhabited

namespace Failure

/-- A failure without a proposed fix. -/
def ofMessage (message : String) : Failure := ⟨message, none⟩

/-- The fields of a failure. -/
def fields (f : Failure) : List Json.Field :=
  [.present "error_message" (.str f.message), .omitted "fix_value" id f.fix]

/-- The fields of a failure. -/
def toJson (f : Failure) : Json := .ofFields f.fields

/-- Reads a failure. -/
def ofJson? (j : Json) : Option Failure := do
  let r ← j.record? ["error_message", "fix_value"]
  return {
    message := ← r.required "error_message" Json.str?
    fix := ← r.omittable "fix_value" Json.any? }

end Failure

/-- What a validator answers (`ValidationResult`). -/
inductive Verdict
  | pass
  | fail (failure : Failure)
deriving Inhabited

namespace Verdict

/-- Refuses a value without proposing another. -/
def reject (message : String) : Verdict := .fail ⟨message, none⟩

/-- Refuses a value and proposes another (`fail_with_fix`). -/
def propose (message : String) (fix : Json) : Verdict := .fail ⟨message, some fix⟩

/-- Whether the value passed. -/
def isPass : Verdict → Bool
  | .pass => true
  | .fail _ => false

/-- The failure, if there is one. -/
def failure? : Verdict → Option Failure
  | .pass => none
  | .fail f => some f

/-- A verdict is written as an object with the tag `outcome`. -/
def toJson : Verdict → Json
  | .pass => .ofFields [.present "outcome" (.str "pass")]
  | .fail f => .ofFields (.present "outcome" (.str "fail") :: f.fields)

/-- Reads a verdict: the failure's fields stand beside the tag, or after it in an array. -/
def ofJson? : Json → Option Verdict
  | .obj members => do
    let tag ← (Dict.find? members "outcome").bind Json.str?
    match tag with
    | "pass" => some .pass
    | "fail" => (Failure.ofJson? (.obj (Dict.erase members "outcome"))).map .fail
    | _ => none
  | .arr [.str "pass"] => some .pass
  | .arr (.str "fail" :: rest) => (Failure.ofJson? (.arr rest)).map .fail
  | _ => none

end Verdict

/-- A value that has to be corrected (`FieldReAsk`). -/
structure Correction where
  /-- The value as it was. -/
  incorrect : Json
  /-- Where it stands, as text. -/
  path : String
  failures : List Failure
deriving Inhabited

namespace Correction

/-- The messages of the failures (`error_messages`). -/
def messages (c : Correction) : List String := c.failures.map (·.message)

/-- The first fix proposed (`fix_value`). -/
def fix? (c : Correction) : Option Json := c.failures.findSome? (·.fix)

/-- The fields of a correction. -/
def toJson (c : Correction) : Json :=
  .ofFields [.present "incorrect_value" c.incorrect, .present "path" (.str c.path),
    .present "fail_results" (.arr (c.failures.map Failure.toJson))]

/-- Reads a correction. -/
def ofJson? (j : Json) : Option Correction := do
  let r ← j.record? ["incorrect_value", "path", "fail_results"]
  return {
    incorrect := ← r.required "incorrect_value" Json.any?
    path := ← r.required "path" Json.str?
    failures := ← r.required "fail_results" (Json.list? Failure.ofJson?) }

end Correction
end Guardrail
