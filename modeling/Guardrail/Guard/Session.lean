import Guardrail.Cycle.Run
import Guardrail.Cycle.Stream
import Guardrail.Guard.Plan
import Guardrail.Record.History
import Guardrail.Remote.Delegation

/-!
# Sessions

A guard in use: the guard, the records of its calls, and the state of the targets and the service
that they are carried out with. A call gets its record when it starts; work that is put off, and
streams that are read later, go on with the same record. Section B6.13 of the specification
describes how records are looked at.
-/

namespace Guardrail

/-- A guard in use. Calls are known by their number. -/
structure Session (σ : Type) where
  guard : Guard σ
  /-- The id of the call with a number. -/
  callId : Nat → String
  /-- The records of all calls. -/
  calls : List Call
  /-- The numbers of the calls that are kept. -/
  history : History Nat
  state : σ

/-- Work that carries out a call. -/
inductive Work (σ : Type)
  /-- The rounds of the call. -/
  | rounds (cycle : Cycle σ)
  /-- The remote service. -/
  | delegate (service : Remote.Service σ) (guardName : String) (provider : Option String)

/-- How far a stream has come that opens when it is read. -/
inductive LazyStream (σ : Type)
  | unopened (cycle : Cycle σ)
  | opened (stream : OutcomeStream)
  | closed

/-- What a caller holds of a call (`GuardResponse`). -/
inductive Handle (σ : Type)
  /-- The call is over. -/
  | outcome (outcome : Outcome)
  /-- The call is put off until its outcome is asked for. -/
  | pending (call : Nat) (work : Work σ)
  /-- Outcomes that are read one by one. -/
  | stream (call : Nat) (stream : OutcomeStream)
  /-- Outcomes that are awaited one by one. -/
  | asyncStream (call : Nat) (stream : LazyStream σ)

variable {σ : Type}

namespace Handle

/-- The name of the kind of a handle. -/
def kind : Handle σ → String
  | .outcome _ => "outcome"
  | .pending _ _ => "pending"
  | .stream _ _ => "stream"
  | .asyncStream _ _ => "async_stream"

end Handle

namespace Session

/-- A guard before its first call. -/
def start (guard : Guard σ) (retention : Retention) (callId : Nat → String) (state : σ) :
    Session σ where
  guard := guard
  callId := callId
  calls := []
  history := ⟨retention, []⟩
  state := state

/-! ## Records -/

/-- The record of a call. -/
def call? (s : Session σ) (n : Nat) : Option Call := s.calls[n]?

/-- The records that are kept, the oldest first. -/
def retained (s : Session σ) : List Call := s.history.entries.filterMap s.call?

/-- Work on the record of a call that also changes the state. -/
def onCall {α : Type} (s : Session σ) (n : Nat) (work : Call → σ → α × Call × σ) :
    Option α × Session σ :=
  match s.call? n with
  | none => (none, s)
  | some call =>
    let (result, call, state) := work call s.state
    (some result, { s with calls := s.calls.set n call, state })

/-- A call gets its record (`start_call`). -/
def register (s : Session σ) (inputs : CallInputs) : Nat × Session σ :=
  let n := s.calls.length
  (n, { s with
    calls := s.calls ++ [.start (s.callId n) inputs]
    history := s.history.push n })

/-- What may be changed between calls is changed (`configure`). -/
def configure (s : Session σ) (settings : Settings) : Session σ :=
  { s with
    guard := { s.guard with retries := settings.retries.or s.guard.retries }
    history := match settings.retention with
      | some r => s.history.setRetention r
      | none => s.history }

/-! ## Work -/

/-- The outcome of work on a record that has been lost. -/
def lost : Error := .invariant "the record of the call is lost"

/-- Rounds are run. -/
def runRounds (s : Session σ) (n : Nat) (cycle : Cycle σ) (mode : Mode) :
    Except Error Outcome × Session σ :=
  let (result, s) := s.onCall n fun call state =>
    let ended := cycle.run mode call state
    (ended.outcome, ended.call, ended.state)
  (result.getD (.error lost), s)

/-- Work that was put off is done. -/
def perform (s : Session σ) (n : Nat) : Work σ → Except Error Outcome × Session σ
  | .rounds cycle => s.runRounds n cycle .async
  | .delegate service guardName provider =>
    let (result, s) := s.onCall n (service.delegate guardName provider)
    (result.getD (.error lost), s)

/-- A stream is opened. -/
def openStream (s : Session σ) (n : Nat) (cycle : Cycle σ) (mode : Mode) :
    Except Error OutcomeStream × Session σ :=
  let (result, s) := s.onCall n (cycle.stream mode)
  (result.getD (.error lost), s)

/-- The next item of a stream. -/
def nextItem (s : Session σ) (n : Nat) (stream : OutcomeStream) :
    Option Item × OutcomeStream × Session σ :=
  match s.call? n with
  | none => (none, stream, s)
  | some call =>
    let (item, stream, call) := stream.next call
    (item, stream, { s with calls := s.calls.set n call })

/-- The next item of a stream that opens when it is read. If it cannot be opened, the error is its
only item. -/
def nextLazy (s : Session σ) (n : Nat) : LazyStream σ → Option Item × LazyStream σ × Session σ
  | .closed => (none, .closed, s)
  | .opened stream =>
    let (item, stream, s) := s.nextItem n stream
    (item, .opened stream, s)
  | .unopened cycle =>
    match s.openStream n cycle .async with
    | (.error e, s) => (some (.error e), .closed, s)
    | (.ok stream, s) =>
      let (item, stream, s) := s.nextItem n stream
      (item, .opened stream, s)

/-! ## Handles -/

/-- The next item of a handle, if it gives items. -/
def next (s : Session σ) : Handle σ → Option Item × Handle σ × Session σ
  | .stream n stream =>
    let (item, stream, s) := s.nextItem n stream
    (item, .stream n stream, s)
  | .asyncStream n stream =>
    let (item, stream, s) := s.nextLazy n stream
    (item, .asyncStream n stream, s)
  | h => (none, h, s)

/-- The items of a handle, but at most so many. -/
def items (limit : Nat) (s : Session σ) (h : Handle σ) : List Item × Handle σ × Session σ :=
  match limit with
  | 0 => ([], h, s)
  | limit + 1 =>
    match s.next h with
    | (none, h, s) => ([], h, s)
    | (some item, h, s) =>
      let (rest, h, s) := items limit s h
      (item :: rest, h, s)

/-- A number of items that a handle does not exceed; of a stream that is not open nothing is
known. -/
def bound : Handle σ → Nat
  | .stream _ stream | .asyncStream _ (.opened stream) => stream.bound
  | _ => 0

/-- All items of a handle. -/
def drain (s : Session σ) (h : Handle σ) : List Item × Handle σ × Session σ :=
  match s.next h with
  | (none, h, s) => ([], h, s)
  | (some item, h, s) =>
    let (rest, h, s) := s.items (bound h) h
    (item :: rest, h, s)

/-- The last outcome among items (`last_of`), unless one of them is an error. -/
def lastOutcome (items : List Item) : Except Error Outcome := do
  match ← items.foldlM (fun _ item => item.map some) none with
  | some outcome => return outcome
  | none => throw (.runtime "stream produced no outcomes")

/-- The outcome of a call that a caller holds (`into_outcome`). -/
def resolve (s : Session σ) : Handle σ → Except Error Outcome × Session σ
  | .outcome outcome => (.ok outcome, s)
  | .pending n work => s.perform n work
  | h =>
    let (items, _, s) := s.drain h
    (lastOutcome items, s)

end Session

namespace Handle

/-- How a handle is described, unless the call is over. -/
def describe (h : Handle σ) (callId : Nat → String) : Option String :=
  match h with
  | .outcome _ => none
  | .stream n st => some ("Stream(" ++ st.describe .blocking (callId n) ++ ")")
  | h => some h.kind

end Handle
end Guardrail
