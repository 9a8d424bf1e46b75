import Guardrail.Proofs.Guard.EntryPoint
import Guardrail.Target.Script

/-!
# Entry points that agree

A caller who wants one outcome may block for it, await it, or hold on to the call and ask for the
outcome later, and the target may block or have to be awaited. None of this makes a difference: a
run of rounds that block is, round by round, the run of rounds that are awaited, and an answer is
the same whether or not it has to be awaited.

Results:
* `run_inMode`, `run_of_mayAsk`: runs do not depend on who waits.
* `use_eq_whole`: what all entry points that give no streams come to.
* `agreement_law`: blocking, awaited and held calls agree, and so does the validation of an output.
-/

namespace Guardrail

variable {σ : Type}

/-! ## Modes -/

/-- The target with the same answers in another mode. -/
def Target.inMode (t : Target σ) (mode : Mode) : Target σ := { t with mode }

/-- The same is asked for, of the target in another mode. -/
def Invocation.inMode (o : Invocation σ) (mode : Mode) : Invocation σ :=
  { o with target := o.target.map (·.inMode mode) }

namespace Cycle

variable {c : Cycle σ} {mode mode' : Mode} {call : Call} {s : σ}

/-- The cycle with its target in another mode. -/
def inMode (c : Cycle σ) (mode : Mode) : Cycle σ :=
  { c with target := c.target.map (·.inMode mode) }

/-- Two runs are the same if they ask alike, and all else is the same. -/
theorem run_congr {c' : Cycle σ} (hrequirements : c'.requirements = c.requirements)
    (htemplates : c'.templates = c.templates) (hkwargs : c'.kwargs = c.kwargs)
    (htarget : c'.target.isNone = c.target.isNone)
    (hask : ∀ r s, c'.ask mode' r s = c.ask mode r s) :
    c'.run mode' call s = c.run mode call s := by
  refine rounds_congr (fun _ => True) (fun call inputs index s _ => ?_) (fun _ _ => trivial) trivial
  have hrequest : ∀ args, c'.request args inputs index = c.request args inputs index := by
    intro args
    unfold request params
    rw [hrequirements, hkwargs]
  have hresponse : ∀ args,
      c'.response mode' args inputs index s = c.response mode args inputs index s := by
    intro args
    unfold response
    simp only [hrequest, hask]
  have hrecord : ∀ response,
      c'.record call inputs index response = c.record call inputs index response := by
    intro response
    unfold record
    rw [hrequirements, htemplates, htarget]
  unfold Cycle.round
  simp only [hresponse, hrecord]

/-- An awaited run is the same for a target in another mode. -/
theorem run_inMode (c : Cycle σ) (mode : Mode) (call : Call) (s : σ) :
    (c.inMode mode).run .async call s = c.run .async call s := by
  refine run_congr rfl rfl rfl Option.isNone_map fun r s => ?_
  unfold ask inMode
  cases c.target <;> simp [Target.inMode]

/-- A run that may ask is the same whether or not it is awaited. -/
theorem run_of_mayAsk (h : c.MayAsk mode) (call : Call) (s : σ) :
    c.run mode call s = c.run .async call s := by
  refine run_congr rfl rfl rfl rfl fun r s => ?_
  unfold ask
  cases htarget : c.target with
  | none => rfl
  | some t => simp [h t htarget]

end Cycle

/-! ## Plans in another mode -/

section Plans

variable {g : Guard σ} {o : Invocation σ} {plan : Plan σ} {retries : Nat} {mode : Mode}

/-- The plan with its target in another mode. -/
def Plan.inMode (plan : Plan σ) (mode : Mode) (route : Route) : Plan σ :=
  { plan with route, target := plan.target.map (·.inMode mode) }

/-- What is asked of a target in another mode is planned alike. -/
theorem Guard.plan_inMode (g : Guard σ) (o : Invocation σ) (mode : Mode) (retries : Nat) :
    g.plan (o.inMode mode) retries = (g.plan o retries).map fun plan =>
      plan.inMode mode (.select (o.inMode mode).target o.stream g.service) := by
  have hinputs : g.inputs (o.inMode mode) retries = g.inputs o retries := by
    unfold inputs Invocation.inMode
    cases o.target <;> rfl
  unfold plan
  rw [hinputs]
  dsimp only [Invocation.inMode]
  rw [Option.isSome_map]
  cases checkPreconditions o.target.isSome (g.inputs o retries) g.validators <;> rfl

/-- The remote service has a call or not, whatever the mode of the target. -/
theorem Route.select_inMode (target : Option (Target σ)) (mode : Mode) (stream : Bool)
    (service : Option (Remote.Service σ)) :
    select (target.map (·.inMode mode)) stream service = .remote ↔
      select target stream service = .remote := by
  have hprovider : (target.map (·.inMode mode)).bind (·.provider) = target.bind (·.provider) := by
    cases target <;> rfl
  unfold select
  rw [hprovider]
  grind

end Plans

/-! ## One outcome -/

namespace Session

/-- What is made of a plan, if there is one, by a caller who awaits the outcome. -/
def whole (s : Session σ) (made : Except ConfigError (Plan σ)) : List Item × Session σ :=
  match made with
  | .error e => ([.error (.config e)], s)
  | .ok plan => s.carriedOut plan (EntryPoint.callAwaited.manner plan)

/-- The outcome of a call that is held, if there is one. -/
def resolved : Except Error (Handle σ) × Session σ → Except Error Outcome × Session σ
  | (.error e, s) => (.error e, s)
  | (.ok h, s) => s.resolve h

/-- Holds on to a call and asks for its outcome. -/
def callResolved (s : Session σ) (o : Invocation σ) : Except Error Outcome × Session σ :=
  resolved (s.call o)

variable {plan : Plan σ} {o : Invocation σ}

theorem alone_injective : Function.Injective (alone (σ := σ)) := by
  rintro ⟨outcome, s⟩ ⟨outcome', s'⟩ h
  cases h
  rfl

/-- Whether rounds block or are awaited makes no difference. -/
theorem carriedOut_manner (s : Session σ) (hsound : plan.Sound s.guard o)
    (hstream : plan.route ≠ .stream) :
    s.carriedOut plan plan.manner = s.carriedOut plan (EntryPoint.callAwaited.manner plan) := by
  cases hroute : plan.route with
  | stream => exact absurd hroute hstream
  | remote | async => simp [Plan.manner, EntryPoint.manner, hroute]
  | blocking =>
    have hmay : (s.guard.cycle plan).MayAsk .blocking := hsound.mayAsk fun _ => hroute
    simp only [Plan.manner, EntryPoint.manner, hroute, reduceCtorEq, if_false]
    unfold carriedOut Guard.carryOut
    dsimp only
    rw [Cycle.run_of_mayAsk hmay]

/-- A plan comes to the same for a target in another mode. -/
theorem whole_plan_inMode (s : Session σ) (o : Invocation σ) (mode : Mode) (retries : Nat) :
    s.whole (s.guard.plan (o.inMode mode) retries) = s.whole (s.guard.plan o retries) := by
  rw [Guard.plan_inMode]
  cases hplan : s.guard.plan o retries with
  | error e => rfl
  | ok plan =>
    let route := Route.select (o.inMode mode).target o.stream s.guard.service
    have hroute : route = .remote ↔ plan.route = .remote := by
      rw [Guard.route_of_plan hplan]
      exact Route.select_inMode o.target mode o.stream s.guard.service
    have hprovider : (plan.inMode mode route).target.bind (·.provider) =
        plan.target.bind (·.provider) := by
      unfold Plan.inMode
      cases plan.target <;> rfl
    have hcycle : s.guard.cycle (plan.inMode mode route) = (s.guard.cycle plan).inMode mode := rfl
    show s.carriedOut (plan.inMode mode route) (if route = .remote then _ else _) =
      s.carriedOut plan (if plan.route = .remote then _ else _)
    unfold carriedOut Guard.carryOut
    by_cases hremote : plan.route = .remote
    · rw [if_pos hremote, if_pos (hroute.2 hremote)]
      dsimp only
      rw [hprovider]
      rfl
    · rw [if_neg hremote, if_neg (mt hroute.1 hremote)]
      dsimp only
      rw [hcycle, Cycle.run_inMode]
      rfl

/-- How often a target may be asked again is up to the caller and the guard, if they say so. -/
theorem plan_of_retries {g : Guard σ} (o : Invocation σ)
    (h : o.retries.isSome ∨ g.retries.isSome) (m n : Nat) :
    g.plan o m = g.plan o n := by
  have hretries : ∀ n n', (o.retries.or g.retries).getD n = (o.retries.or g.retries).getD n' := by
    intro n n'
    cases ho : o.retries <;> cases hg : g.retries <;> simp_all
  unfold Guard.plan Guard.inputs
  rw [hretries m n]

end Session

namespace EntryPoint

variable {p : EntryPoint} {s : Session σ} {o : Invocation σ}

/-- What an entry point comes to whose caller does not read a stream. -/
theorem use_eq_whole (p : EntryPoint) (s : Session σ) (hstream : (p.invocation o).stream = false)
    (hmanner : ∀ plan : Plan σ,
      p.manner plan = plan.manner ∨ p.manner plan = callAwaited.manner plan) :
    p.use s o = s.whole (p.plan s.guard o) := by
  cases hplan : p.plan s.guard o with
  | error e => exact use_of_refused hplan
  | ok plan =>
    have hsound := sound_of_plan hplan
    have hroute : plan.route ≠ .stream := fun hroute =>
      Bool.false_ne_true (hstream.symm.trans (hsound.stream_of_route hroute))
    rw [use_of_plan hplan]
    obtain hplain | hawaited := hmanner plan
    · rw [hplain]
      exact s.carriedOut_manner hsound hroute
    · rw [hawaited]
      rfl

end EntryPoint

namespace Session

variable {o : Invocation σ}

theorem refuseStream_of_false (h : o.stream = false) (entryPoint : String) :
    refuseStream o entryPoint = .ok () := by
  unfold refuseStream
  rw [h]
  rfl

/-- The outcome of a held call is all that its caller gets of it. -/
theorem alone_callResolved (s : Session σ) (hstream : o.stream = false) :
    alone (s.callResolved o) = EntryPoint.call.use s o := by
  show alone (resolved (s.call o)) = driven (s.call o)
  unfold call planned
  cases hplan : s.guard.plan o Invocation.defaultRetries with
  | error e => rfl
  | ok plan =>
    have hsound := Guard.sound_of_plan hplan
    have hroute : plan.route ≠ .stream := fun hroute =>
      Bool.false_ne_true (hstream.symm.trans (hsound.stream_of_route hroute))
    dsimp only
    by_cases hblocking : plan.route = .blocking
    · rw [s.dispatch_of_blocking hblocking]
      cases ((s.guard.cycle plan).run .blocking (s.fresh plan.inputs) s.state).outcome <;> rfl
    · obtain ⟨work, hdispatch⟩ := s.dispatch_of_waiting hroute hblocking hsound.isSome_service
      rw [hdispatch]
      rfl

/-- What entry points that give one outcome come to. -/
theorem alone_eq_whole (s : Session σ) (o : Invocation σ) (hstream : o.stream = false) :
    let plan := s.guard.plan o Invocation.defaultRetries
    alone (s.callBlocking false o) = s.whole plan ∧ alone (s.callAwaited o) = s.whole plan ∧
      alone (s.callResolved o) = s.whole plan := by
  intro plan
  have hrefuse := refuseStream_of_false hstream
  have hplan : ∀ name, (do refuseStream o name; plan) = plan := by
    intro name
    rw [hrefuse]
    rfl
  refine ⟨?_, ?_, ?_⟩
  · have huse := EntryPoint.use_eq_whole (.callBlocking false) s hstream
      fun plan => .inl (by simp [EntryPoint.manner])
    exact huse.trans (congrArg s.whole (hplan _))
  · have huse := EntryPoint.use_eq_whole .callAwaited s hstream
      fun plan => .inr rfl
    exact huse.trans (congrArg s.whole (hplan _))
  · have huse := EntryPoint.use_eq_whole .call s hstream
      fun plan => .inl rfl
    exact (s.alone_callResolved hstream).trans huse

/-- What the validation of an output comes to, if its caller or the guard says how often the target
may be asked again. -/
theorem alone_parse_eq_whole (s : Session σ) (o : Invocation σ) (text : String)
    (hstream : o.stream = false)
    (hretries : o.retries.isSome ∨ s.guard.retries.isSome) :
    let plan := s.guard.plan { o with output := some text } Invocation.defaultRetries
    alone (s.parse false text o) = s.whole plan ∧
      alone (s.parseAwaited text o) = s.whole plan := by
  intro plan
  have hrefuse := refuseStream_of_false hstream
  have hplan : ∀ name, (do
      refuseStream o name
      s.guard.plan { o with output := some text } o.defaultParseRetries) = plan := by
    intro name
    rw [hrefuse]
    exact plan_of_retries { o with output := some text } hretries _ _
  constructor
  · have huse := EntryPoint.use_eq_whole (.parse false text) s hstream
      fun plan => .inl (by simp [EntryPoint.manner])
    exact huse.trans (congrArg s.whole (hplan _))
  · have huse := EntryPoint.use_eq_whole (.parseAwaited text) s hstream
      fun plan => .inr rfl
    exact huse.trans (congrArg s.whole (hplan _))

/-- Entry points that give one outcome agree. Whether a caller blocks, awaits, or holds on to the
call and asks for its outcome later, and whether the target blocks or has to be awaited, the outcome
or error is the same, and so are the records, the history and the state, in which a target may keep
the requests that it gets. The validation of an output agrees with a call that is given the output,
if the caller or the guard says how often the target may be asked again. -/
theorem agreement_law (s : Session σ) (o : Invocation σ) (mode : Mode)
    (hstream : o.stream = false) :
    let blocking := s.callBlocking false o
    (s.callBlocking false (o.inMode mode) = blocking ∧
      s.callAwaited (o.inMode mode) = blocking ∧
      s.callResolved (o.inMode mode) = blocking) ∧
    ∀ text, o.retries.isSome ∨ s.guard.retries.isSome →
      let given := s.callBlocking false { o with output := some text }
      s.parse false text (o.inMode mode) = given ∧
        s.parseAwaited text (o.inMode mode) = given := by
  intro blocking
  constructor
  · have hblocking : alone blocking = _ := (s.alone_eq_whole o hstream).1
    obtain ⟨hone, htwo, hthree⟩ := s.alone_eq_whole (o.inMode mode) hstream
    rw [whole_plan_inMode, ← hblocking] at hone htwo hthree
    exact ⟨alone_injective hone, alone_injective htwo, alone_injective hthree⟩
  · intro text hretries given
    have hgiven : alone given = _ :=
      (s.alone_eq_whole { o with output := some text } hstream).1
    obtain ⟨hone, htwo⟩ :=
      s.alone_parse_eq_whole (o.inMode mode) text hstream hretries
    have hsame : ({ o.inMode mode with output := some text } : Invocation σ) =
        ({ o with output := some text } : Invocation σ).inMode mode := rfl
    rw [hsame, whole_plan_inMode, ← hgiven] at hone htwo
    exact ⟨alone_injective hone, alone_injective htwo⟩

/-- A session of a guard for texts, for a target that keeps its requests. -/
def keepingSession : Session (List Target.Reply × List Target.Request) :=
  .start
    { id := "g", name := "g", description := none, schema := ⟨.string, .null, none⟩,
      references := [], validators := .empty, defaults := .none, retries := some 2,
      ofModel := false, service := none }
    .unbounded toString ([], [])

/-- A target that fails and keeps its requests is asked for a text. -/
def keepingInvocation : Invocation (List Target.Reply × List Target.Request) where
  target := some (Target.Script.target
    ⟨"mock", .blocking, none, .error Target.Script.exhausted, none⟩).recorded
  output := none
  prompt := some ⟨"A text"⟩
  instructions := none
  messages := none
  params := []
  retries := none
  metadata := []
  fullSchema := none
  stream := false
  reaskPrompt := none
  reaskInstructions := none
  args := []
  kwargs := []

/-- A target that fails is asked once, whether its caller blocks or awaits the outcome. -/
theorem agreement_law_of_failing_target :
    let o := keepingInvocation
    let awaited := keepingSession.callAwaited (o.inMode .async)
    o.stream = false ∧ awaited = keepingSession.callBlocking false o ∧
      awaited.1 = .error (.generation Target.Script.exhausted) ∧
      awaited.2.state.2.length = 1 ∧
      keepingSession.parse false "yes" (o.inMode .async) =
        keepingSession.callBlocking false { o with output := some "yes" } := by
  intro o awaited
  obtain ⟨⟨-, hawaited, -⟩, hparse⟩ := agreement_law keepingSession o .async rfl
  obtain ⟨plan, hplan, hmanner, call, r, hround⟩ : ∃ plan,
      EntryPoint.callAwaited.plan keepingSession.guard (o.inMode .async) = .ok plan ∧
        EntryPoint.callAwaited.manner plan = .rounds .async ∧
        ∃ call r, (keepingSession.guard.cycle plan).round .async (keepingSession.fresh plan.inputs)
            plan.inputs.inputs 0 keepingSession.state =
          (.failed (.generation Target.Script.exhausted, call), ([], [r])) :=
    ⟨_, rfl, rfl, _, _, rfl⟩
  have hrun : (keepingSession.guard.cycle plan).run .async (keepingSession.fresh plan.inputs)
      keepingSession.state = ⟨some (.generation Target.Script.exhausted), call, ([], [r])⟩ :=
    Cycle.rounds_of_failed hround
  have huse : alone awaited = keepingSession.carriedOut plan (.rounds .async) :=
    hmanner ▸ EntryPoint.use_of_plan hplan
  have hended : awaited = (.error (.generation Target.Script.exhausted),
      keepingSession.after call ([], [r])) := by
    refine alone_injective (huse.trans ?_)
    unfold carriedOut Guard.carryOut
    dsimp only
    rw [hrun]
    rfl
  exact ⟨rfl, hawaited, by rw [hended], by rw [hended]; rfl, (hparse "yes" (.inr rfl)).1⟩

end Session

end Guardrail
