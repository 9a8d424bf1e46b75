import Guardrail.Cycle.Basic

/-!
# Runs

A run takes a call through its rounds. A round ends the run if nothing has to be corrected, if the
budget is used up, if there is no target to ask, or with an error; otherwise the next round asks for
a correction. An output that the call comes with stands for the answer of the target in round 0. The
parts of a round are the states *Generate*, *Validate* and *ReaskDecision* of section 4.2 of the
specification.
-/

namespace Guardrail.Cycle

variable {σ : Type}

/-- The answer of the target to the request of a round (`generate_blocking` and `generate_async`). A
blocking run cannot ask a target whose answers have to be awaited. -/
def ask (c : Cycle σ) (mode : Mode) (r : Target.Request) (s : σ) : Except Error Response × σ :=
  match c.target with
  | none => (.error (.config .missingTarget), s)
  | some t =>
    if mode = .blocking ∧ t.mode = .async then
      (.error (.config (.unsupportedOperation
        ("generation target '" ++ t.name ++ "' is asynchronous; use run_async"))), s)
    else
      let (answer, s) := t.generate r s
      (answer.mapError .generation, s)

/-- The response of a round: the output that the call came with, or the target's answer. -/
def response (c : Cycle σ) (mode : Mode) (args : List Json) (inputs : Inputs) (index : Nat)
    (s : σ) : Except Error Response × σ :=
  match index, inputs.output with
  | 0, some output => (.ok (.ofText output), s)
  | _, _ =>
    match c.request args inputs index with
    | .error e => (.error (.config e), s)
    | .ok r => c.ask mode r s

/-- How a round leaves the call (`Step`). -/
inductive RoundEnd
  /-- The run is over. -/
  | done (call : Call)
  /-- Something has to be corrected; `next` are the inputs of the round that asks for it. -/
  | correct (call : Call) (next : Inputs)
  /-- An error ends the call. -/
  | failed (failure : Failed)

/-- A response is evaluated and recorded (`complete_round`). The budget is the one that the round
was given. -/
def record (c : Cycle σ) (call : Call) (inputs : Inputs) (index : Nat) (response : Response) :
    RoundEnd :=
  match c.requirements.evaluate response inputs.metadata with
  | .aborted outputs e => .failed (call.abort ⟨index, inputs, outputs⟩ (.validation e))
  | .checked outputs annotated corrections =>
    match call.push ⟨index, inputs, outputs⟩ with
    | .error e => .failed (e, call)
    | .ok call =>
      if corrections.isEmpty ∨ inputs.retries ≤ index ∨ c.target.isNone then .done call
      else
        .correct call (Reask.inputs inputs
          ⟨c.requirements.schema, corrections, annotated, inputs.fullSchema⟩ c.templates)

/-- One round. -/
def round (c : Cycle σ) (mode : Mode) (call : Call) (inputs : Inputs) (index : Nat) (s : σ) :
    RoundEnd × σ :=
  match c.response mode call.inputs.args inputs index s with
  | (.error e, s) => (.failed (call.abortRound index inputs e), s)
  | (.ok response, s) => (c.record call inputs index response, s)

/-! ## Rounds until the run is over -/

theorem lt_retries_of_record {c : Cycle σ} {call call' : Call} {inputs next : Inputs} {index : Nat}
    {response : Response} (h : c.record call inputs index response = .correct call' next) :
    index < inputs.retries ∧ next.retries = inputs.retries := by
  unfold record at h
  split at h
  · cases h
  · split at h
    · cases h
    · split at h
      · cases h
      · next hstop =>
        cases h
        exact ⟨by omega, rfl⟩

/-- A round asks for a correction within the budget only, and hands the budget on. -/
theorem lt_retries_of_round {c : Cycle σ} {mode : Mode} {call call' : Call} {inputs next : Inputs}
    {index : Nat} {s s' : σ} (h : c.round mode call inputs index s = (.correct call' next, s')) :
    index < inputs.retries ∧ next.retries = inputs.retries := by
  unfold round at h
  split at h
  · cases h
  · exact lt_retries_of_record (Prod.mk.inj h).1

/-- How a run leaves the call and the state of the target. -/
structure Ended (σ : Type) where
  /-- The error that ended the run, if one did. -/
  error : Option Error
  call : Call
  state : σ

/-- The rounds from an index on. -/
def rounds (c : Cycle σ) (mode : Mode) (index : Nat) (call : Call) (inputs : Inputs) (s : σ) :
    Ended σ :=
  match h : c.round mode call inputs index s with
  | (.failed (e, call), s) => ⟨some e, call, s⟩
  | (.done call, s) => ⟨none, call, s⟩
  | (.correct call next, s) => c.rounds mode (index + 1) call next s
termination_by inputs.retries - index
decreasing_by
  obtain ⟨hlt, hnext⟩ := lt_retries_of_round h
  omega

/-- The run of a call (`run` and `run_async`). -/
def run (c : Cycle σ) (mode : Mode) (call : Call) (s : σ) : Ended σ :=
  c.rounds mode 0 call call.inputs.inputs s

/-- What a run comes to for the caller. -/
def Ended.outcome (e : Ended σ) : Except Error Outcome :=
  match e.error with
  | some error => .error error
  | none => .ok (.ofCall e.call)

end Guardrail.Cycle
