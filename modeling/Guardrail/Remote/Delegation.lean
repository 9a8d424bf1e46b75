import Guardrail.Outcome
import Guardrail.Remote.Service

/-!
# Delegated calls

A call that the remote service carries out. The rounds that the service reports are added to the
record of the call, all of them or, if they exceed its budget, none. Section 4.5 of the
specification describes this as the RemoteMerge.
-/

namespace Guardrail.Remote

/-! ## Rounds of a session as rounds of the call -/

/-- A complaint as a correction (`field_reask`). What is not reported is null, empty or the whole
output. -/
def Complaint.toCorrection (c : Complaint) : Correction :=
  ⟨c.incorrect.getD .null, c.path.getD "$", [⟨c.message.getD "", c.fix⟩]⟩

namespace SessionRound

/-- The inputs of a round (`round_inputs`): those of the call with prompt and instructions as
reported. -/
def toInputs (r : SessionRound) (base : Inputs) : Inputs :=
  { base with
    prompt := (r.prompt.bind (·.source)).map Template.mk
    instructions := r.instructions.map Template.mk }

/-- The outputs of a round (`round_outputs`). -/
def toOutputs (r : SessionRound) : Outputs where
  response := r.output.map .ofText
  raw := r.output
  parsed := r.parsed
  validated := r.validated
  reasks := (r.complaints.getD []).map Complaint.toCorrection
  logs := []
  error := none

end SessionRound

/-! ## Merging -/

/-- The call with rounds of a session. An error ends it. -/
def mergeRounds (call : Call) : List SessionRound → Except Error Unit × Call
  | [] => (.ok (), call)
  | r :: rest =>
    match call.push ⟨call.rounds.length, r.toInputs call.inputs.inputs, r.toOutputs⟩ with
    | .ok call => mergeRounds call rest
    | .error e => (.error e, call.fail e.message)

/-- The outcome of an answer whose rounds have been merged. -/
def Answer.outcome (a : Answer) (call : Call) : Outcome where
  callId := some call.id
  raw := a.raw
  validated := a.validated.filter (!·.isNull)
  passed := a.passed.getD false
  error := none
  reasks := call.reasks

/-- The outcome of an answer, whose rounds become rounds of the call (`merge_response`). -/
def Answer.merge (a : Answer) (call : Call) : Except Error Outcome × Call :=
  if call.maxRounds - call.rounds.length < a.rounds.length then
    let e := Error.invariant ("remote history has " ++ toString a.rounds.length ++
      " rounds but the call allows " ++ toString call.maxRounds)
    (.error e, call.fail e.message)
  else
    match mergeRounds call a.rounds with
    | (.ok (), call) => (.ok (a.outcome call), call)
    | (.error e, call) => (.error e, call)

/-- The outcome of a call without an answer (`empty_response_outcome`). -/
def unanswered (call : Call) : Outcome :=
  { Outcome.failed "The response from the server was empty!" with callId := some call.id }

/-- The service carries out a call of the guard with the given name (`delegate`). -/
def Service.delegate {σ : Type} (v : Service σ) (guardName : String) (provider : Option String)
    (call : Call) (s : σ) : Except Error Outcome × Call × σ :=
  match v.validate guardName (.ofCall call.inputs provider) (Payload.providerKey call.inputs) s with
  | (.error e, s) => (.error e.toError, call.fail e.toError.message, s)
  | (.ok none, s) => (.ok (unanswered call), call, s)
  | (.ok (some answer), s) =>
    let (outcome, call) := answer.merge call
    (outcome, call, s)

end Guardrail.Remote
