import Guardrail.Guard.Session

/-!
# Invocations

The ways to use a guard. Each of them plans the call first; a plan that fails leaves no record. A
caller may block, await, hold on to the call, or read a stream. Work that has to be awaited can only
be blocked on where the caller is not itself being awaited. Sections B6.4, B6.5 and B6.10 of the
specification describe the entry points.
-/

namespace Guardrail.Session

variable {σ : Type}

/-! ## Refusals -/

/-- Streams are given by their own entry points only (`reject_stream`). -/
def refuseStream (o : Invocation σ) (entryPoint : String) : Except ConfigError Unit :=
  if o.stream then
    .error (.unsupportedOperation
      (entryPoint ++ " does not stream; use call_stream or call_stream_async"))
  else .ok ()

/-- The remote service gives no streams (`reject_remote_stream`). -/
def refuseRemote (p : Plan σ) : Except ConfigError Unit :=
  if p.route = .remote then .error (.streamingUnsupported "remote delegation") else .ok ()

/-- A stream that is read by blocking needs a target that blocks. -/
def refuseAsync (p : Plan σ) : Except ConfigError Unit :=
  if p.target.any (·.isAsync) then
    .error (.unsupportedOperation
      "asynchronous generation targets stream through call_stream_async")
  else .ok ()

/-- The error of blocking where the caller is being awaited (`block_on`). -/
def wouldBlock (entryPoint instead : String) : Error :=
  .runtime (entryPoint ++ " cannot be called from async context. Use " ++ instead ++ " instead.")

/-! ## Starting a planned call -/

/-- The work of the remote service for a planned call (`remote_future`). -/
def delegation (g : Guard σ) (p : Plan σ) : Except Error (Work σ) :=
  match g.service with
  | some service => .ok (.delegate service g.name (p.target.bind (·.provider)))
  | none => .error (.invariant "remote strategy selected without a remote service")

/-- A planned call starts (`dispatch`). Rounds that block are over when it has; anything else is put
off. -/
def dispatch (s : Session σ) (p : Plan σ) : Except Error (Handle σ) × Session σ :=
  let (n, s) := s.register p.inputs
  let cycle := s.guard.cycle p
  match p.route with
  | .remote => ((delegation s.guard p).map (.pending n), s)
  | .async => (.ok (.pending n (.rounds cycle)), s)
  | .stream =>
    if p.target.any (·.isAsync) then (.ok (.asyncStream n (.unopened cycle)), s)
    else
      let (stream, s) := s.openStream n cycle .blocking
      (stream.map (.stream n), s)
  | .blocking =>
    let (outcome, s) := s.runRounds n cycle .blocking
    (outcome.map .outcome, s)

/-- A planned call is carried out while the caller blocks (`finish_sync`). -/
def finishBlocking (s : Session σ) (awaited : Bool) (p : Plan σ) :
    Except Error Outcome × Session σ :=
  match s.dispatch p with
  | (.error e, s) => (.error e, s)
  | (.ok (.outcome outcome), s) => (.ok outcome, s)
  | (.ok (.pending n work), s) =>
    if awaited then (.error (wouldBlock "call_sync" "call_async"), s) else s.perform n work
  | (.ok h, s) =>
    (.error (.invariant ("blocking invocation produced a " ++ h.kind ++ " response")), s)

/-- A planned call is carried out while the caller awaits it (`finish_async`). -/
def finishAwaited (s : Session σ) (p : Plan σ) : Except Error Outcome × Session σ :=
  let (n, s) := s.register p.inputs
  match p.route with
  | .remote =>
    match delegation s.guard p with
    | .ok work => s.perform n work
    | .error e => (.error e, s)
  | _ => s.runRounds n (s.guard.cycle p) .async

/-- A planned stream is opened. -/
def finishStream (s : Session σ) (mode : Mode) (p : Plan σ) :
    Except Error (Nat × OutcomeStream) × Session σ :=
  let (n, s) := s.register p.inputs
  let (stream, s) := s.openStream n (s.guard.cycle p) mode
  (stream.map (n, ·), s)

/-- Goes on with a plan if there is one. -/
def planned {α : Type} (s : Session σ) (plan : Except ConfigError (Plan σ))
    (go : Plan σ → Except Error α × Session σ) : Except Error α × Session σ :=
  match plan with
  | .error e => (.error (.config e), s)
  | .ok p => go p

/-! ## Entry points -/

/-- Starts a call and hands it to the caller (`call`). -/
def call (s : Session σ) (o : Invocation σ) : Except Error (Handle σ) × Session σ :=
  s.planned (s.guard.plan o Invocation.defaultRetries) s.dispatch

/-- The plan of an entry point that gives no streams. -/
def wholePlan (s : Session σ) (o : Invocation σ) (entryPoint : String) (defaultRetries : Nat) :
    Except ConfigError (Plan σ) := do
  refuseStream o entryPoint
  s.guard.plan o defaultRetries

/-- Blocks until the outcome is there (`call_sync`). `awaited` tells whether the caller itself is
awaited. -/
def callBlocking (s : Session σ) (awaited : Bool) (o : Invocation σ) :
    Except Error Outcome × Session σ :=
  s.planned (s.wholePlan o "call_sync" Invocation.defaultRetries) (s.finishBlocking awaited)

/-- Awaits the outcome (`call_async`). -/
def callAwaited (s : Session σ) (o : Invocation σ) : Except Error Outcome × Session σ :=
  s.planned (s.wholePlan o "call_async" Invocation.defaultRetries) s.finishAwaited

/-- Opens a stream of a target that blocks (`call_stream`). -/
def callStream (s : Session σ) (o : Invocation σ) :
    Except Error (Nat × OutcomeStream) × Session σ :=
  let plan := do
    let p ← s.guard.plan { o with stream := true } Invocation.defaultRetries
    refuseRemote p
    refuseAsync p
    return p
  s.planned plan (s.finishStream .blocking)

/-- Awaits the opening of a stream (`call_stream_async`). -/
def callStreamAwaited (s : Session σ) (o : Invocation σ) :
    Except Error (Nat × OutcomeStream) × Session σ :=
  let plan := do
    let p ← s.guard.plan { o with stream := true } Invocation.defaultRetries
    refuseRemote p
    return p
  s.planned plan (s.finishStream .async)

/-- Validates an output (`parse`); if there is a target, it is asked for corrections. -/
def parse (s : Session σ) (awaited : Bool) (output : String) (o : Invocation σ) :
    Except Error Outcome × Session σ :=
  let plan := do
    refuseStream o "parse"
    s.guard.plan { o with output := some output } o.defaultParseRetries
  s.planned plan (s.finishBlocking awaited)

/-- Awaits the validation of an output (`parse_async`). -/
def parseAwaited (s : Session σ) (output : String) (o : Invocation σ) :
    Except Error Outcome × Session σ :=
  let plan := do
    refuseStream o "parse_async"
    s.guard.plan { o with output := some output } o.defaultParseRetries
  s.planned plan s.finishAwaited

/-- Validates an output without a target (`validate`). -/
def validate (s : Session σ) (awaited : Bool) (output : String) :
    Except Error Outcome × Session σ :=
  s.parse awaited output .empty

/-- Why there is no text to give back. -/
def nothingLeft : Error :=
  .other "The response from the LLM failed validation! See `guard.history` for more details."

/-- The validated value as text: a text as it is, any other value as JSON. -/
def textOf (o : Outcome) : Except Error String :=
  match o.validated with
  | none | some .null => .error nothingLeft
  | some (.str text) => .ok text
  | some value => .ok value.compact

/-- Validates an output without a target and gives back what is left of it, as text (`invoke`). -/
def validatedText (s : Session σ) (awaited : Bool) (output : String) :
    Except Error String × Session σ :=
  let (outcome, s) := s.validate awaited output
  (outcome.bind textOf, s)

/-- Creates the guard at the remote service or replaces it there (`upsert_remote`). -/
def upsert (s : Session σ) : Except Error Unit × Session σ :=
  match s.guard.service with
  | none => (.error (.config (.unsupportedOperation "Guard does not have an api client!")), s)
  | some service =>
    let (result, state) := service.upsert s.guard.descriptor s.state
    (result.mapError RemoteError.toError, { s with state })

/-- As `upsert`, while the caller blocks (`upsert_remote_sync`). -/
def upsertBlocking (s : Session σ) (awaited : Bool) : Except Error Unit × Session σ :=
  if awaited then (.error (wouldBlock "upsert_remote_sync" "upsert_remote"), s) else s.upsert

end Guardrail.Session
