import Guardrail.Proofs.Guard.Planned

/-!
# Entry points

The entry points of a guard differ in what they refuse, in the budget that they fall back on and in
who waits for the outcome. All of them plan the call first, and carry it out if there is a plan.

Results:
* `EntryPoint.plan`, `EntryPoint.use`: the plan of an entry point, and all that a caller gets of it.
* `sound_of_plan`, `route_of_delegated`, `route_of_blocking`: what is known of such a plan.
* `use_of_refused`, `use_of_plan`: what an entry point comes to without a plan, and with one.
-/

namespace Guardrail

variable {σ : Type}

/-- The entry points. To those that block it matters whether their caller is itself awaited. -/
inductive EntryPoint
  | call
  | callBlocking (awaited : Bool)
  | callAwaited
  | callStream
  | callStreamAwaited
  | parse (awaited : Bool) (output : String)
  | parseAwaited (output : String)

namespace EntryPoint

/-- The plan of an entry point, unless something is refused. -/
def plan (p : EntryPoint) (g : Guard σ) (o : Invocation σ) : Except ConfigError (Plan σ) :=
  match p with
  | call => g.plan o Invocation.defaultRetries
  | callBlocking _ => do
    Session.refuseStream o "call_sync"
    g.plan o Invocation.defaultRetries
  | callAwaited => do
    Session.refuseStream o "call_async"
    g.plan o Invocation.defaultRetries
  | callStream => do
    let plan ← g.plan { o with stream := true } Invocation.defaultRetries
    Session.refuseRemote plan
    Session.refuseAsync plan
    return plan
  | callStreamAwaited => do
    let plan ← g.plan { o with stream := true } Invocation.defaultRetries
    Session.refuseRemote plan
    return plan
  | parse _ output => do
    Session.refuseStream o "parse"
    g.plan { o with output := some output } o.defaultParseRetries
  | parseAwaited output => do
    Session.refuseStream o "parse_async"
    g.plan { o with output := some output } o.defaultParseRetries

/-- What an entry point asks of the guard. -/
def invocation (p : EntryPoint) (o : Invocation σ) : Invocation σ :=
  match p with
  | call | callBlocking _ | callAwaited => o
  | callStream | callStreamAwaited => { o with stream := true }
  | parse _ output | parseAwaited output => { o with output := some output }

/-- How an entry point carries out a planned call. -/
def manner (p : EntryPoint) (plan : Plan σ) : Manner :=
  match p with
  | call => plan.manner
  | callBlocking awaited | parse awaited _ =>
    if awaited ∧ plan.route ≠ .blocking then .refused else plan.manner
  | callAwaited | parseAwaited _ => if plan.route = .remote then .delegated else .rounds .async
  | callStream => .stream .blocking
  | callStreamAwaited => .stream .async

/-- All that a caller gets of an entry point. What it can hold on to is driven to its end. -/
def use (p : EntryPoint) (s : Session σ) (o : Invocation σ) : List Item × Session σ :=
  match p with
  | call => Session.driven (s.call o)
  | callBlocking awaited => Session.alone (s.callBlocking awaited o)
  | callAwaited => Session.alone (s.callAwaited o)
  | callStream =>
    let (stream, s) := s.callStream o
    Session.driven (stream.map fun (n, st) => .ofStream .blocking n st, s)
  | callStreamAwaited =>
    let (stream, s) := s.callStreamAwaited o
    Session.driven (stream.map fun (n, st) => .ofStream .async n st, s)
  | parse awaited output => Session.alone (s.parse awaited output o)
  | parseAwaited output => Session.alone (s.parseAwaited output o)

variable {s : Session σ} {o : Invocation σ} {plan : Plan σ} {p : EntryPoint} {e : ConfigError}

@[simp] theorem target_invocation (p : EntryPoint) (o : Invocation σ) :
    (p.invocation o).target = o.target := by cases p <;> rfl

@[simp] theorem metadata_invocation (p : EntryPoint) (o : Invocation σ) :
    (p.invocation o).metadata = o.metadata := by cases p <;> rfl

/-- An entry point that refuses something gives the error, and nothing has happened. -/
theorem use_of_refused (h : p.plan s.guard o = .error e) :
    p.use s o = ([.error (.config e)], s) := by
  have hplanned : ∀ {α : Type} {made : Except ConfigError (Plan σ)}
      (go : Plan σ → Except Error α × Session σ), made = .error e →
      s.planned made go = (.error (.config e), s) := by
    rintro α made go rfl
    rfl
  cases p with
  | call => exact congrArg Session.driven (hplanned s.dispatch h)
  | callBlocking awaited => exact congrArg Session.alone (hplanned (s.finishBlocking awaited) h)
  | callAwaited => exact congrArg Session.alone (hplanned s.finishAwaited h)
  | callStream =>
    have hcall : s.callStream o = _ := hplanned (s.finishStream .blocking) h
    unfold use
    rw [hcall]
    rfl
  | callStreamAwaited =>
    have hcall : s.callStreamAwaited o = _ := hplanned (s.finishStream .async) h
    unfold use
    rw [hcall]
    rfl
  | parse awaited output =>
    exact congrArg Session.alone (hplanned (s.finishBlocking awaited) h)
  | parseAwaited output => exact congrArg Session.alone (hplanned s.finishAwaited h)

/-- The remote service has a call only on its own route. -/
theorem route_of_delegated (h : p.manner plan = .delegated) : plan.route = .remote := by
  have hplain : plan.manner = .delegated → plan.route = .remote := by
    unfold Plan.manner
    cases plan.route <;> simp
  unfold manner at h
  cases p <;> grind

/-- Rounds block the caller only on their own route. -/
theorem route_of_blocking (h : p.manner plan = .rounds .blocking) : plan.route = .blocking := by
  have hplain : plan.manner = .rounds .blocking → plan.route = .blocking := by
    unfold Plan.manner
    cases plan.route <;> simp
  unfold manner at h
  cases p <;> grind

theorem sound_of_plan {g : Guard σ} (h : p.plan g o = .ok plan) :
    plan.Sound g (p.invocation o) := by
  cases p with
  | call => exact Guard.sound_of_plan h
  | callBlocking awaited | callAwaited | parse awaited output | parseAwaited output =>
    obtain ⟨⟨⟩, -, hplan⟩ := bind_eq_ok h
    exact Guard.sound_of_plan hplan
  | callStream =>
    obtain ⟨plan', hplan, h⟩ := bind_eq_ok h
    obtain ⟨⟨⟩, -, h⟩ := bind_eq_ok h
    obtain ⟨⟨⟩, -, h⟩ := bind_eq_ok h
    cases h
    exact Guard.sound_of_plan hplan
  | callStreamAwaited =>
    obtain ⟨plan', hplan, h⟩ := bind_eq_ok h
    obtain ⟨⟨⟩, -, h⟩ := bind_eq_ok h
    cases h
    exact Guard.sound_of_plan hplan

/-- An entry point that refuses a stream has no plan that is carried out as one. -/
theorem route_ne_stream {g : Guard σ} (o o' : Invocation σ) {name : String} {retries : Nat}
    (hsame : o'.stream = o.stream)
    (h : (do Session.refuseStream o name; g.plan o' retries) = .ok plan) :
    plan.route ≠ .stream := by
  obtain ⟨⟨⟩, hrefuse, hplan⟩ := bind_eq_ok h
  intro hroute
  have hstream := (Guard.sound_of_plan hplan).stream_of_route hroute
  rw [Session.refuseStream, if_pos (hsame ▸ hstream)] at hrefuse
  cases hrefuse

/-- An entry point that has a plan carries it out in its manner. -/
theorem use_of_plan (h : p.plan s.guard o = .ok plan) :
    p.use s o = s.carriedOut plan (p.manner plan) := by
  have hservice := (sound_of_plan h).isSome_service
  have hplanned : ∀ {α : Type} {made : Except ConfigError (Plan σ)}
      (go : Plan σ → Except Error α × Session σ), made = .ok plan →
      s.planned made go = go plan := by
    rintro α made go rfl
    rfl
  cases p with
  | call =>
    exact (congrArg Session.driven (hplanned s.dispatch h)).trans (s.driven_dispatch plan)
  | callBlocking awaited =>
    have hstream := route_ne_stream o o rfl h
    exact (congrArg Session.alone (hplanned (s.finishBlocking awaited) h)).trans
      (s.alone_finishBlocking awaited hstream hservice)
  | callAwaited =>
    exact (congrArg Session.alone (hplanned s.finishAwaited h)).trans (s.alone_finishAwaited plan)
  | callStream =>
    have hcall : s.callStream o = _ := hplanned (s.finishStream .blocking) h
    unfold use
    rw [hcall]
    exact s.driven_finishStream .blocking plan
  | callStreamAwaited =>
    have hcall : s.callStreamAwaited o = _ := hplanned (s.finishStream .async) h
    unfold use
    rw [hcall]
    exact s.driven_finishStream .async plan
  | parse awaited output =>
    have hstream := route_ne_stream o { o with output := some output } rfl h
    exact (congrArg Session.alone (hplanned (s.finishBlocking awaited) h)).trans
      (s.alone_finishBlocking awaited hstream hservice)
  | parseAwaited output =>
    exact (congrArg Session.alone (hplanned s.finishAwaited h)).trans (s.alone_finishAwaited plan)

end EntryPoint

end Guardrail
