import Guardrail.Cycle.Basic

/-!
# Streams of outcomes

A stream takes the target's answer chunk by chunk. After each chunk the text so far is evaluated,
and the stream gives what it comes to. When the chunks end, the text is evaluated once more and
recorded as the only round of the call; there is no asking again. A failed chunk or an aborted
evaluation records the round at once. A finished stream gives nothing more. Section B7 of the
specification describes streams.
-/

namespace Guardrail

/-- A stream of outcomes (`ValidationStream`). -/
structure OutcomeStream where
  requirements : Requirements
  /-- The inputs of the only round. -/
  inputs : Inputs
  /-- The chunks to come. -/
  source : List Chunk
  /-- The text so far. -/
  text : String
  /-- The number of chunks that were taken in. -/
  seen : Nat
  finished : Bool

/-- What a stream gives. -/
abbrev Item := Except Error Outcome

namespace OutcomeStream

/-- A stream at its beginning. -/
def start (requirements : Requirements) (inputs : Inputs) (source : List Chunk) : OutcomeStream :=
  { requirements, inputs, source, text := "", seen := 0, finished := false }

/-- What the text so far comes to. -/
def evaluate (st : OutcomeStream) : Evaluation :=
  st.requirements.evaluate (.ofText st.text) st.inputs.metadata

/-- The outcome of a text that is not complete yet. -/
def partialOutcome (callId : String) (outputs : Outputs) (corrections : List Correction) :
    Outcome where
  callId := some callId
  raw := outputs.raw
  validated := outputs.validated
  passed := corrections.isEmpty
  error := none
  reasks := outputs.reasks

/-- The stream after a chunk (`on_chunk`). -/
def take (st : OutcomeStream) (chunk : String) (call : Call) : Item × OutcomeStream × Call :=
  let st := { st with text := st.text ++ chunk, seen := st.seen + 1 }
  match st.evaluate with
  | .checked outputs _ corrections =>
    (.ok (partialOutcome call.id outputs corrections), st, call)
  | .aborted outputs e =>
    let (e, call) := call.abort ⟨0, st.inputs, outputs⟩ (.validation e)
    (.error e, { st with finished := true }, call)

/-- The end of the chunks (`finish`): the round is recorded, which may fail. -/
def finish (st : OutcomeStream) (call : Call) : Option Error × Call :=
  match st.evaluate with
  | .checked outputs _ _ =>
    match call.push ⟨0, st.inputs, outputs⟩ with
    | .ok call => (none, call)
    | .error e => (some e, call)
  | .aborted outputs e =>
    let (e, call) := call.abort ⟨0, st.inputs, outputs⟩ (.validation e)
    (some e, call)

/-- The next item, if there is one (`next` and `poll_next`). -/
def next (st : OutcomeStream) (call : Call) : Option Item × OutcomeStream × Call :=
  if st.finished then (none, st, call)
  else
    match st.source with
    | .ok chunk :: rest =>
      let (item, st, call) := { st with source := rest }.take chunk call
      (some item, st, call)
    | .error e :: rest =>
      let (e, call) := call.abortRound 0 st.inputs (.generation e)
      (some (.error e), { st with source := rest, finished := true }, call)
    | [] =>
      let (e, call) := st.finish call
      (e.map .error, { st with text := "", finished := true }, call)

/-- The items from here on, but at most so many. -/
def items (limit : Nat) (st : OutcomeStream) (call : Call) : List Item × OutcomeStream × Call :=
  match limit with
  | 0 => ([], st, call)
  | limit + 1 =>
    match st.next call with
    | (none, st, call) => ([], st, call)
    | (some item, st, call) =>
      let (rest, st, call) := items limit st call
      (item :: rest, st, call)

/-- A number of items that no stream exceeds from here on. -/
def bound (st : OutcomeStream) : Nat := st.source.length + 2

/-- All items from here on. -/
def drain (st : OutcomeStream) (call : Call) : List Item × OutcomeStream × Call :=
  st.items st.bound call

/-- How a stream is described. -/
def describe (st : OutcomeStream) (mode : Mode) (callId : String) : String :=
  (match mode with
    | .blocking => "ValidationStream"
    | .async => "AsyncValidationStream") ++
    " \x7b call_id: " ++ Text.quoted callId ++ ", chunks_seen: " ++ toString st.seen ++
    ", finished: " ++ (if st.finished then "true" else "false") ++ " \x7d"

end OutcomeStream

namespace Cycle

variable {σ : Type}

/-- The chunks of the target's answer. A blocking stream cannot take them from a target whose
answers have to be awaited. -/
def chunks (c : Cycle σ) (mode : Mode) (args : List Json) (inputs : Inputs) (s : σ) :
    Except Error (List Chunk) × σ :=
  match c.target with
  | none => (.error (.config (.streamingUnsupported "llm_output")), s)
  | some t =>
    if mode = .blocking ∧ t.mode = .async then
      (.error (.config (.unsupportedOperation
        ("generation target '" ++ t.name ++ "' is asynchronous; use the async stream"))), s)
    else
      match c.request args inputs 0 with
      | .error e => (.error (.config e), s)
      | .ok r => t.chunks r s

/-- Opens a stream for a call (`stream` and `stream_async`). -/
def stream (c : Cycle σ) (mode : Mode) (call : Call) (s : σ) :
    Except Error OutcomeStream × Call × σ :=
  let inputs := call.inputs.inputs
  match c.chunks mode call.inputs.args inputs s with
  | (.ok source, s) => (.ok (.start c.requirements inputs source), call, s)
  | (.error e, s) =>
    let (e, call) := call.abortRound 0 inputs e
    (.error e, call, s)

end Cycle
end Guardrail
