import Guardrail.Record.Call
import Guardrail.Record.Timestamp

/-!
# Archived rounds

A round as it is stored: with an id of its own and the times at which it began and ended. These play
no part in what a cycle does, so the rounds of a call do without them.
-/

namespace Guardrail

/-- A round as it is stored (`Iteration`). -/
structure ArchivedRound where
  id : String
  round : Round
  started : Timestamp
  completed : Timestamp
deriving Inhabited

namespace ArchivedRound

/-- The fields of an archived round. -/
def toJson (r : ArchivedRound) : Json :=
  .ofFields [.present "id" (.str r.id), .present "index" (.ofNat r.round.index),
    .present "inputs" r.round.inputs.toJson, .present "outputs" r.round.outputs.toJson,
    .present "started_at" (.str r.started.render),
    .present "completed_at" (.str r.completed.render)]

/-- Reads a timestamp. -/
def timestamp? (j : Json) : Option Timestamp := j.str?.bind Timestamp.parse?

/-- Reads an archived round. -/
def ofJson? (j : Json) : Option ArchivedRound := do
  let r ← j.record? ["id", "index", "inputs", "outputs", "started_at", "completed_at"]
  return {
    id := ← r.required "id" Json.str?
    round := {
      index := ← r.required "index" (Json.nat? 64)
      inputs := ← r.required "inputs" Inputs.ofJson?
      outputs := ← r.required "outputs" Outputs.ofJson? }
    started := ← r.required "started_at" timestamp?
    completed := ← r.required "completed_at" timestamp? }

end ArchivedRound
end Guardrail
