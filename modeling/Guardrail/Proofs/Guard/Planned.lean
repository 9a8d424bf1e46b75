import Guardrail.Guard.Invoke
import Guardrail.Proofs.Cycle.Failure
import Guardrail.Proofs.Stream.Handle

/-!
# Planned calls

Behind its plan a call is carried out in one of four manners: its rounds are run, a stream of it is
read, the remote service has it, or nobody may wait for it. In each of them the session gets one
more record, which only that manner writes to.

Results:
* `Guard.sound_of_plan`, `Sound.answerable`, `Sound.mayAsk`: what a plan makes sure of.
* `Guard.carryOut`, `Session.carriedOut`: what a planned call comes to in a manner.
* `driven_dispatch`, `alone_finishBlocking`, `alone_finishAwaited`, `driven_finishStream`: starting
  a planned call, and waiting for it, is carrying it out.
-/

namespace Guardrail

variable {σ : Type}

/-! ## Plans -/

section Plans

variable {g : Guard σ} {o : Invocation σ} {plan : Plan σ} {retries : Nat}

/-- All that a route may be. The remote service has a call only if there is one. -/
theorem Route.select_cases (target : Option (Target σ)) (stream : Bool)
    (service : Option (Remote.Service σ)) :
    (select target stream service = .remote ∧ service.isSome) ∨
      (select target stream service = .stream ∧ stream = true) ∨
      (select target stream service = .async ∧ stream = false) ∨
      (select target stream service = .blocking ∧ stream = false ∧
        target.any (·.isAsync) = false) := by
  have hlocal : ∀ remote : Bool, (remote = true → service.isSome) →
      ∀ route, route = (if remote then Route.remote else if stream then .stream
        else if target.any (·.isAsync) then .async else .blocking) →
      (route = .remote ∧ service.isSome) ∨ (route = .stream ∧ stream = true) ∨
        (route = .async ∧ stream = false) ∨
        (route = .blocking ∧ stream = false ∧ target.any (·.isAsync) = false) := by
    intro remote hremote route hroute
    cases remote <;> cases stream <;> cases hasync : target.any (·.isAsync) <;>
      simp_all
  refine hlocal _ ?_ _ rfl
  cases service <;> simp

/-- What is known of the plan for an invocation. -/
structure Plan.Sound (plan : Plan σ) (g : Guard σ) (o : Invocation σ) : Prop where
  target_eq : plan.target = o.target
  metadata_eq : plan.inputs.inputs.metadata = o.metadata
  checked : checkPreconditions o.target.isSome plan.inputs.inputs g.validators = .ok ()
  isSome_service : plan.route = .remote → g.service.isSome
  blocks : plan.route = .blocking → plan.target.any (·.isAsync) = false
  stream_of_route : plan.route = .stream → o.stream = true

theorem Guard.sound_of_plan (h : g.plan o retries = .ok plan) : plan.Sound g o := by
  obtain ⟨⟨⟩, hcheck, hplan⟩ := bind_eq_ok h
  cases hplan
  obtain ⟨hroute, hservice⟩ | ⟨hroute, hstream⟩ | ⟨hroute, -⟩ | ⟨hroute, -, hasync⟩ :=
    Route.select_cases o.target o.stream g.service
  · exact ⟨rfl, rfl, hcheck, fun _ => hservice, by simp [hroute], by simp [hroute]⟩
  · exact ⟨rfl, rfl, hcheck, by simp [hroute], by simp [hroute], fun _ => hstream⟩
  · exact ⟨rfl, rfl, hcheck, by simp [hroute], by simp [hroute], by simp [hroute]⟩
  · exact ⟨rfl, rfl, hcheck, by simp [hroute], fun _ => hasync, by simp [hroute]⟩

/-- The route of a planned call. -/
theorem Guard.route_of_plan (h : g.plan o retries = .ok plan) :
    plan.route = .select o.target o.stream g.service := by
  obtain ⟨⟨⟩, -, hplan⟩ := bind_eq_ok h
  cases hplan
  rfl

theorem checkPreconditions_eq_ok {hasTarget : Bool} {inputs : Inputs} {validators : ValidatorMap}
    (h : checkPreconditions hasTarget inputs validators = .ok ()) :
    (inputs.output.isSome ∨
        hasTarget = true ∧ (inputs.prompt.isSome ∨ inputs.hasMessages = true)) ∧
      validators.checkMetadata inputs.metadata = .ok () := by
  unfold checkPreconditions at h
  split at h
  · cases h
  · next htarget =>
    split at h
    · cases h
    · next hprompt =>
      refine ⟨?_, h⟩
      cases houtput : inputs.output with
      | some output => exact .inl rfl
      | none =>
        cases hasTarget <;> cases hasPrompt : inputs.prompt <;> simp_all

namespace Plan.Sound

/-- The first round of a planned call is answerable. -/
theorem answerable (h : plan.Sound g o) :
    (g.cycle plan).Answerable plan.inputs.inputs 0 := by
  obtain ⟨houtput | ⟨htarget, hask⟩, -⟩ := checkPreconditions_eq_ok h.checked
  · exact .inl (by simp [Cycle.given, houtput])
  · exact .inr ⟨by rw [← h.target_eq] at htarget; exact htarget, hask⟩

/-- The rounds of a planned call may ask its target, if they block on their own route only. -/
theorem mayAsk {mode : Mode} (h : plan.Sound g o)
    (hmode : mode = .blocking → plan.route = .blocking) :
    (g.cycle plan).MayAsk mode := by
  rintro t ht ⟨hblocking, hasync⟩
  have hnone := h.blocks (hmode hblocking)
  rw [show plan.target = some t from ht] at hnone
  simp [Target.isAsync, hasync] at hnone

end Plan.Sound

end Plans

/-! ## Sessions with a new call -/

namespace Session

/-- The record of the next call at its start. -/
def fresh (s : Session σ) (inputs : CallInputs) : Call := .start (s.callId s.calls.length) inputs

/-- The session with a new call, the record of which is `call`, and with another state. -/
def after (s : Session σ) (call : Call) (state : σ) : Session σ :=
  { s with
    calls := s.calls ++ [call]
    history := s.history.push s.calls.length
    state }

variable {call : Call} {state : σ}

theorem register_eq (s : Session σ) (inputs : CallInputs) :
    s.register inputs = (s.calls.length, s.after (s.fresh inputs) s.state) := rfl

theorem call?_after (s : Session σ) (call : Call) (state : σ) :
    (s.after call state).call? s.calls.length = some call :=
  List.getElem?_concat_length

theorem set_calls_after (s : Session σ) (call call' : Call) (state : σ) :
    (s.after call state).calls.set s.calls.length call' = s.calls ++ [call'] := by
  show (s.calls ++ [call]).set s.calls.length call' = s.calls ++ [call']
  rw [List.set_append_right _ _ (Nat.le_refl _), Nat.sub_self]
  rfl

theorem withCall_after (s : Session σ) (call call' : Call) (state : σ) :
    (s.after call state).withCall s.calls.length call' = s.after call' state := by
  unfold withCall
  rw [set_calls_after]
  rfl

theorem onCall_after {α : Type} (s : Session σ) (call : Call) (state : σ)
    (work : Call → σ → α × Call × σ) :
    (s.after call state).onCall s.calls.length work =
      (some (work call state).1, s.after (work call state).2.1 (work call state).2.2) := by
  unfold onCall
  rw [call?_after]
  dsimp only
  rw [set_calls_after]
  rfl

theorem runRounds_after (s : Session σ) (call : Call) (state : σ) (c : Cycle σ) (mode : Mode) :
    (s.after call state).runRounds s.calls.length c mode =
      ((c.run mode call state).outcome,
        s.after (c.run mode call state).call (c.run mode call state).state) := by
  unfold runRounds
  rw [onCall_after]
  rfl

theorem openStream_after (s : Session σ) (call : Call) (state : σ) (c : Cycle σ) (mode : Mode) :
    (s.after call state).openStream s.calls.length c mode =
      ((c.stream mode call state).1,
        s.after (c.stream mode call state).2.1 (c.stream mode call state).2.2) := by
  unfold openStream
  rw [onCall_after]
  rfl

theorem perform_delegate_after (s : Session σ) (call : Call) (state : σ)
    (service : Remote.Service σ) (guardName : String) (provider : Option String) :
    (s.after call state).perform s.calls.length (.delegate service guardName provider) =
      ((service.delegate guardName provider call state).1,
        s.after (service.delegate guardName provider call state).2.1
          (service.delegate guardName provider call state).2.2) := by
  unfold perform
  dsimp only
  rw [onCall_after]
  rfl

/-! ### What a caller gets -/

/-- All that a caller gets of a call that it holds: the outcome, or the items of a stream. -/
def drive (s : Session σ) : Handle σ → List Item × Session σ
  | .outcome outcome => ([.ok outcome], s)
  | .pending n work =>
    let (outcome, s) := s.perform n work
    ([outcome], s)
  | h =>
    let (items, _, s) := s.drain h
    (items, s)

/-- As `drive`, unless there is an error in place of the handle. -/
def driven : Except Error (Handle σ) × Session σ → List Item × Session σ
  | (.error e, s) => ([.error e], s)
  | (.ok h, s) => s.drive h

/-- The only thing that a caller gets. -/
def alone : Except Error Outcome × Session σ → List Item × Session σ
  | (outcome, s) => ([outcome], s)

end Session

/-! ## Manners -/

/-- How a planned call is carried out. -/
inductive Manner
  /-- It would have to be waited for where that is not allowed. -/
  | refused
  | rounds (mode : Mode)
  | stream (mode : Mode)
  | delegated

/-- A stream that is opened and read to its end: its items, the record and the state. -/
def Cycle.streamed (c : Cycle σ) (mode : Mode) (call : Call) (state : σ) :
    List Item × Call × σ :=
  match c.stream mode call state with
  | (.error e, call, state) => ([.error e], call, state)
  | (.ok st, call, state) => ((st.drain call).1, (st.drain call).2.2, state)

/-- What a call comes to: all that the caller gets, the record and the state. -/
def Guard.carryOut (g : Guard σ) (plan : Plan σ) (m : Manner) (call : Call) (state : σ) :
    List Item × Call × σ :=
  match m with
  | .refused => ([.error (Session.wouldBlock "call_sync" "call_async")], call, state)
  | .rounds mode =>
    let ended := (g.cycle plan).run mode call state
    ([ended.outcome], ended.call, ended.state)
  | .stream mode => (g.cycle plan).streamed mode call state
  | .delegated =>
    match g.service with
    | some service =>
      let (outcome, call, state) :=
        service.delegate g.name (plan.target.bind (·.provider)) call state
      ([outcome], call, state)
    | none =>
      ([.error (.invariant "remote strategy selected without a remote service")], call, state)

/-- The session in which a planned call has been carried out, with all that its caller gets. -/
def Session.carriedOut (s : Session σ) (plan : Plan σ) (m : Manner) : List Item × Session σ :=
  let (items, call, state) := s.guard.carryOut plan m (s.fresh plan.inputs) s.state
  (items, s.after call state)

/-- How a planned call is carried out if nothing stands in the way. -/
def Plan.manner (plan : Plan σ) : Manner :=
  match plan.route with
  | .remote => .delegated
  | .async => .rounds .async
  | .stream => .stream (if plan.target.any (·.isAsync) then .async else .blocking)
  | .blocking => .rounds .blocking

/-! ## Carrying out a plan -/

namespace Session

variable {plan : Plan σ}

/-- A stream that is opened at once. -/
theorem driven_openStream (s : Session σ) (call : Call) (state : σ) (c : Cycle σ) (mode : Mode) :
    let opened := (s.after call state).openStream s.calls.length c mode
    driven (opened.1.map (.ofStream mode s.calls.length), opened.2) =
      ((c.streamed mode call state).1,
        s.after (c.streamed mode call state).2.1 (c.streamed mode call state).2.2) := by
  intro opened
  have hopened : opened = _ := s.openStream_after call state c mode
  rw [hopened]
  unfold Cycle.streamed
  rcases c.stream mode call state with ⟨e | st, call', state'⟩
  · rfl
  · have hdrive : (s.after call' state').drive (.ofStream mode s.calls.length st) =
        (((s.after call' state').drain (.ofStream mode s.calls.length st)).1,
          ((s.after call' state').drain (.ofStream mode s.calls.length st)).2.2) := by
      cases mode <;> rfl
    dsimp only [Except.map, driven]
    rw [hdrive, drain_ofStream mode st (s.call?_after call' state'), withCall_after]

/-- A stream that is opened when it is read. -/
theorem drive_unopened (s : Session σ) (call : Call) (state : σ) (c : Cycle σ) :
    (s.after call state).drive (.asyncStream s.calls.length (.unopened c)) =
      ((c.streamed .async call state).1,
        s.after (c.streamed .async call state).2.1 (c.streamed .async call state).2.2) := by
  have hopened := s.openStream_after call state c .async
  unfold Cycle.streamed drive
  dsimp only
  rcases hstream : c.stream .async call state with ⟨e | st, call', state'⟩
  · rw [hstream] at hopened
    rw [drain_unopened_of_error hopened]
  · rw [hstream] at hopened
    rw [drain_unopened hopened, drain_ofStream .async st (s.call?_after call' state'),
      withCall_after]

/-- A call that is started and held is carried out in the manner of its plan. -/
theorem driven_dispatch (s : Session σ) (plan : Plan σ) :
    driven (s.dispatch plan) = s.carriedOut plan plan.manner := by
  have hguard : (s.after (s.fresh plan.inputs) s.state).guard = s.guard := rfl
  unfold dispatch carriedOut Guard.carryOut Plan.manner
  rw [register_eq]
  dsimp only
  rw [hguard]
  cases plan.route with
  | remote =>
    unfold delegation
    cases s.guard.service with
    | none => rfl
    | some service =>
      dsimp only [Except.map, driven, drive]
      rw [perform_delegate_after]
  | async =>
    dsimp only [driven, drive, perform]
    rw [runRounds_after]
  | stream =>
    cases plan.target.any (·.isAsync) with
    | true => exact s.drive_unopened _ _ _
    | false => exact s.driven_openStream _ _ _ .blocking
  | blocking =>
    dsimp only
    rw [runRounds_after]
    dsimp only
    cases ((s.guard.cycle plan).run .blocking (s.fresh plan.inputs) s.state).outcome <;> rfl

/-- A call whose rounds do not block is put off when it is started. -/
theorem dispatch_of_waiting (s : Session σ) (hstream : plan.route ≠ .stream)
    (hblocking : plan.route ≠ .blocking)
    (hservice : plan.route = .remote → s.guard.service.isSome) :
    ∃ work, s.dispatch plan =
      (.ok (.pending s.calls.length work), s.after (s.fresh plan.inputs) s.state) := by
  unfold dispatch
  rw [register_eq]
  cases hroute : plan.route with
  | remote =>
    obtain ⟨service, hsome⟩ := Option.isSome_iff_exists.1 (hservice hroute)
    have hdelegation : delegation s.guard plan =
        .ok (.delegate service s.guard.name (plan.target.bind (·.provider))) := by
      unfold delegation
      rw [hsome]
    exact ⟨_, congrArg (fun work => (Except.map _ work, _)) hdelegation⟩
  | async => exact ⟨_, rfl⟩
  | stream => exact absurd hroute hstream
  | blocking => exact absurd hroute hblocking

/-- A call whose rounds block is over when it is started. -/
theorem dispatch_of_blocking (s : Session σ) (hblocking : plan.route = .blocking) :
    let ended := (s.guard.cycle plan).run .blocking (s.fresh plan.inputs) s.state
    s.dispatch plan = (ended.outcome.map .outcome, s.after ended.call ended.state) := by
  unfold dispatch
  rw [register_eq, hblocking]
  dsimp only
  rw [runRounds_after]
  rfl

/-- A call that the caller blocks for is carried out as one that is held, unless it would have to be
waited for where that is not allowed. -/
theorem alone_finishBlocking (s : Session σ) (awaited : Bool) (hstream : plan.route ≠ .stream)
    (hservice : plan.route = .remote → s.guard.service.isSome) :
    alone (s.finishBlocking awaited plan) =
      s.carriedOut plan
        (if awaited ∧ plan.route ≠ .blocking then .refused else plan.manner) := by
  by_cases hblocking : plan.route = .blocking
  · rw [if_neg fun h => h.2 hblocking, ← driven_dispatch]
    unfold finishBlocking
    rw [s.dispatch_of_blocking hblocking]
    cases ((s.guard.cycle plan).run .blocking (s.fresh plan.inputs) s.state).outcome <;> rfl
  · obtain ⟨work, hdispatch⟩ := s.dispatch_of_waiting hstream hblocking hservice
    cases awaited with
    | true =>
      rw [if_pos ⟨rfl, hblocking⟩]
      unfold finishBlocking
      rw [hdispatch]
      rfl
    | false =>
      rw [if_neg fun h => Bool.false_ne_true h.1, ← driven_dispatch]
      unfold finishBlocking
      rw [hdispatch]
      rfl

/-- A call that the caller awaits. -/
theorem alone_finishAwaited (s : Session σ) (plan : Plan σ) :
    alone (s.finishAwaited plan) =
      s.carriedOut plan (if plan.route = .remote then .delegated else .rounds .async) := by
  have hguard : (s.after (s.fresh plan.inputs) s.state).guard = s.guard := rfl
  have hrounds : alone ((s.after (s.fresh plan.inputs) s.state).runRounds s.calls.length
      (s.guard.cycle plan) .async) = s.carriedOut plan (.rounds .async) := by
    rw [runRounds_after]
    rfl
  unfold finishAwaited
  rw [register_eq]
  dsimp only
  rw [hguard]
  cases plan.route with
  | remote =>
    rw [if_pos rfl]
    unfold delegation carriedOut Guard.carryOut
    cases s.guard.service with
    | none => rfl
    | some service =>
      dsimp only
      rw [perform_delegate_after]
      rfl
  | async => exact hrounds
  | stream => exact hrounds
  | blocking => exact hrounds

/-- A stream that the caller opens. -/
theorem driven_finishStream (s : Session σ) (mode : Mode) (plan : Plan σ) :
    let finished := s.finishStream mode plan
    driven (finished.1.map fun (n, st) => .ofStream mode n st, finished.2) =
      s.carriedOut plan (.stream mode) := by
  have hopen := s.driven_openStream (s.fresh plan.inputs) s.state (s.guard.cycle plan) mode
  unfold finishStream
  rw [register_eq]
  have hmap : ∀ stream : Except Error OutcomeStream,
      ((stream.map (s.calls.length, ·)).map fun (n, st) => Handle.ofStream mode n st :
        Except Error (Handle σ)) = stream.map (.ofStream mode s.calls.length) := by
    intro stream
    cases stream <;> rfl
  dsimp only
  rw [hmap]
  exact hopen

end Session

end Guardrail
