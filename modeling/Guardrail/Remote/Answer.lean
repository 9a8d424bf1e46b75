import Guardrail.Json.Record

/-!
# Answers of the remote service

What the remote service reports about a call that it carried out: the result, and sessions of
rounds, the oldest first. Nothing needs to be reported. Section 6 of the specification describes
answers.
-/

namespace Guardrail.Remote

/-- A value that had to be corrected (`RemoteReask`). -/
structure Complaint where
  incorrect : Option Json
  path : Option String
  message : Option String
  fix : Option Json
deriving Inhabited

namespace Complaint

/-- The fields of a complaint. -/
def toJson (c : Complaint) : Json :=
  .ofFields [.nullable "incorrectValue" id c.incorrect, .nullable "path" .str c.path,
    .nullable "errorMessage" .str c.message, .nullable "fixValue" id c.fix]

/-- Reads a complaint. -/
def ofJson? (j : Json) : Option Complaint := do
  let r ← j.record? ["incorrectValue", "path", "errorMessage", "fixValue"]
  return {
    incorrect := ← r.omittable "incorrectValue" Json.any?
    path := ← r.omittable "path" Json.str?
    message := ← r.omittable "errorMessage" Json.str?
    fix := ← r.omittable "fixValue" Json.any? }

end Complaint

/-- The prompt of a round (`RemotePrompt`). -/
structure SessionPrompt where
  source : Option String
deriving Inhabited

namespace SessionPrompt

/-- The field of a prompt. -/
def toJson (p : SessionPrompt) : Json := .ofFields [.nullable "source" .str p.source]

/-- Reads a prompt. -/
def ofJson? (j : Json) : Option SessionPrompt := do
  let r ← j.record? ["source"]
  return { source := ← r.omittable "source" Json.str? }

end SessionPrompt

/-- A round (`RemoteRound`). -/
structure SessionRound where
  instructions : Option String
  prompt : Option SessionPrompt
  output : Option String
  parsed : Option Json
  validated : Option Json
  complaints : Option (List Complaint)
deriving Inhabited

namespace SessionRound

/-- The fields of a round. -/
def toJson (r : SessionRound) : Json :=
  .ofFields [.nullable "instructions" .str r.instructions,
    .nullable "prompt" SessionPrompt.toJson r.prompt, .nullable "output" .str r.output,
    .nullable "parsedOutput" id r.parsed, .nullable "validatedOutput" id r.validated,
    .nullable "reasks" (fun cs => .arr (cs.map Complaint.toJson)) r.complaints]

/-- Reads a round. -/
def ofJson? (j : Json) : Option SessionRound := do
  let r ← j.record? ["instructions", "prompt", "output", "parsedOutput", "validatedOutput",
    "reasks"]
  return {
    instructions := ← r.omittable "instructions" Json.str?
    prompt := ← r.omittable "prompt" SessionPrompt.ofJson?
    output := ← r.omittable "output" Json.str?
    parsed := ← r.omittable "parsedOutput" Json.any?
    validated := ← r.omittable "validatedOutput" Json.any?
    complaints := ← r.omittable "reasks" (Json.list? Complaint.ofJson?) }

end SessionRound

/-- The rounds of a call, as far as the service kept them (`RemoteCall`). -/
structure SessionLog where
  rounds : Option (List SessionRound)
deriving Inhabited

namespace SessionLog

/-- The field of a session. -/
def toJson (s : SessionLog) : Json :=
  .ofFields [.nullable "history" (fun rs => .arr (rs.map SessionRound.toJson)) s.rounds]

/-- Reads a session. -/
def ofJson? (j : Json) : Option SessionLog := do
  let r ← j.record? ["history"]
  return { rounds := ← r.omittable "history" (Json.list? SessionRound.ofJson?) }

end SessionLog

/-- What the service reports about a call (`ValidationResponse`). -/
structure Answer where
  passed : Option Bool
  validated : Option Json
  raw : Option String
  sessions : Option (List SessionLog)
deriving Inhabited

namespace Answer

/-- The rounds of the last session that has kept any. -/
def rounds (a : Answer) : List SessionRound :=
  ((a.sessions.getD []).reverse.findSome? (·.rounds)).getD []

/-- The fields of an answer. -/
def toJson (a : Answer) : Json :=
  .ofFields [.nullable "result" .bool a.passed, .nullable "validatedOutput" id a.validated,
    .nullable "rawLlmResponse" .str a.raw,
    .nullable "sessionHistory" (fun ss => .arr (ss.map SessionLog.toJson)) a.sessions]

/-- Reads an answer. -/
def ofJson? (j : Json) : Option Answer := do
  let r ← j.record? ["result", "validatedOutput", "rawLlmResponse", "sessionHistory"]
  return {
    passed := ← r.omittable "result" Json.bool?
    validated := ← r.omittable "validatedOutput" Json.any?
    raw := ← r.omittable "rawLlmResponse" Json.str?
    sessions := ← r.omittable "sessionHistory" (Json.list? SessionLog.ofJson?) }

end Answer
end Guardrail.Remote
