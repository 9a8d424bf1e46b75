import Guardrail.Proofs.Guard.EntryPoint
import Guardrail.Proofs.Record.Growth
import Guardrail.Proofs.Stream.Ending
import Guardrail.Target.Script

/-!
# How calls fail

What is wrong with the configuration shows before anything is generated: when a call is planned,
which leaves no trace, or when a stream of it is opened, which leaves one round with the error. A
violated invariant cannot show at all, unless the remote service reports more rounds than a call may
have.

Results:
* `streamed_cases`, `delegate_cases`: how streams and delegated calls end.
* `Guard.Settled`, `EntryPoint.settled`: all that a planned call can come to.
* `config_law`: errors of the configuration.
* `invariant_law`: violated invariants.
-/

namespace Guardrail

variable {σ : Type} {g : Guard σ} {o : Invocation σ} {plan : Plan σ} {call : Call}

/-! ## Streams -/

namespace Cycle

variable {c : Cycle σ}

/-- The chunks of a stream are refused by its configuration, or come from the target. -/
theorem chunks_cases (c : Cycle σ) (mode : Mode) (args : List Json) (inputs : Inputs) (s : σ) :
    (∃ e, c.chunks mode args inputs s = (.error (.config e), s)) ∨
      ∃ t r, c.target = some t ∧ c.chunks mode args inputs s = t.chunks r s := by
  unfold chunks
  cases c.target with
  | none => exact .inl ⟨_, rfl⟩
  | some t =>
    dsimp only
    split
    · exact .inl ⟨_, rfl⟩
    · cases c.request args inputs 0 with
      | error e => exact .inl ⟨e, rfl⟩
      | ok r => exact .inr ⟨t, r, rfl, rfl⟩

/-- An error before there is any output is the only round of a fresh call, unless it is fatal. -/
theorem abortRound_fresh (hrounds : call.rounds = []) (e : Error) :
    call.abortRound 0 call.inputs.inputs e =
      (e, if e.isFatal then call
        else call.streamed { Outputs.empty with error := some e.message } (some e)) := by
  unfold Call.abortRound
  split
  · rfl
  · exact OutcomeStream.abort_of_fresh hrounds _ e

/-- A stream of a fresh call that is read to its end cannot be opened, or gives the failure that the
only round on record ends with, if it ends with one. -/
theorem streamed_cases (c : Cycle σ) (mode : Mode) (s : σ) (hrounds : call.rounds = [])
    (hexception : call.exception = none) :
    (∃ e s', c.chunks mode call.inputs.args call.inputs.inputs s = (.error e, s') ∧
        c.streamed mode call s =
          ([.error e],
            if e.isFatal then call
            else call.streamed { Outputs.empty with error := some e.message } (some e), s')) ∨
      ∃ items outputs error s',
        c.streamed mode call s = (items, call.streamed outputs error, s') ∧
          (∀ e, .error e ∈ items ↔ error = some e) ∧ ∀ e, error = some e → e.isFailure = true := by
  unfold streamed stream
  dsimp only
  rcases c.chunks mode call.inputs.args call.inputs.inputs s with ⟨e | source, s'⟩
  · refine .inl ⟨e, s', rfl, ?_⟩
    dsimp only
    rw [abortRound_fresh hrounds]
  · obtain ⟨chunks, rest, outputs, error, rfl, hquiet, hending⟩ :=
      OutcomeStream.exists_ending c.requirements call.inputs.inputs.metadata source
    obtain ⟨st', hdrain⟩ := OutcomeStream.drain_start hrounds hexception hquiet hending
    dsimp only
    rw [hdrain]
    refine .inr ⟨_, outputs, error, s', rfl, fun e => ?_, ?_⟩
    · have hanswers : Except.error e ∉
          c.requirements.answers call.inputs.inputs.metadata call.id "" chunks := by
        intro hmem
        obtain ⟨outcome, hok⟩ := Requirements.ok_of_mem_answers hquiet _ hmem
        cases hok
      rw [List.mem_append, or_iff_right hanswers]
      cases error <;> simp [eq_comm]
    · rintro e rfl
      cases hending <;> rfl

end Cycle

/-! ## Delegated calls -/

namespace Remote

/-- The error of more rounds than a call may have. -/
def overrun (rounds allowed : Nat) : Error :=
  .invariant ("remote history has " ++ toString rounds ++ " rounds but the call allows " ++
    toString allowed)

/-- A fresh call that is delegated fails with the service, or has what the service reports on
record, unless those are more rounds than it may have. -/
theorem Service.delegate_cases (v : Service σ) (guardName : String) (provider : Option String)
    (s : σ) (hrounds : call.rounds = []) :
    (∃ (e : RemoteError) (s' : σ), v.delegate guardName provider call s =
        (.error e.toError, call.fail e.toError.message, s')) ∨
      (∃ outcome rounds s', v.delegate guardName provider call s =
        (.ok outcome, { call with rounds }, s')) ∨
      ∃ a s', v.validate guardName (.ofCall call.inputs provider)
          (Payload.providerKey call.inputs) s = (.ok (some a), s') ∧
        call.maxRounds < a.rounds.length ∧
        v.delegate guardName provider call s =
          (.error (overrun a.rounds.length call.maxRounds),
            call.fail (overrun a.rounds.length call.maxRounds).message, s') := by
  unfold Service.delegate
  rcases v.validate guardName (.ofCall call.inputs provider)
    (Payload.providerKey call.inputs) s with ⟨e | _ | a, s'⟩
  · exact .inl ⟨e, s', rfl⟩
  · exact .inr (.inl ⟨unanswered call, call.rounds, s', rfl⟩)
  · have hmax : call.maxRounds = call.retries + 1 := rfl
    dsimp only
    obtain ⟨-, hmerge⟩ | ⟨hfull, -⟩ := merge_cases a call (by rw [hrounds]; exact Nat.zero_le _)
    · rw [hmerge]
      exact .inr (.inl ⟨_, _, s', rfl⟩)
    · rw [hrounds, List.length_nil, Nat.zero_add, ← hmax] at hfull
      refine .inr (.inr ⟨a, s', rfl, hfull, ?_⟩)
      unfold Answer.merge
      rw [hrounds, List.length_nil, Nat.sub_zero, if_pos hfull]
      rfl

end Remote

/-! ## Planned calls -/

/-- The service reports more rounds than the planned call may have, and that is the error. -/
def Guard.Overruns (g : Guard σ) (plan : Plan σ) (state : σ) (e : Error) : Prop :=
  ∃ service answer state', g.service = some service ∧
    service.validate g.name (.ofCall plan.inputs (plan.target.bind (·.provider)))
      (Remote.Payload.providerKey plan.inputs) state = (.ok (some answer), state') ∧
    plan.inputs.inputs.retries + 1 < answer.rounds.length ∧
    e = Remote.overrun answer.rounds.length (plan.inputs.inputs.retries + 1)

/-- All that a planned call can come to. -/
inductive Guard.Settled (g : Guard σ) (plan : Plan σ) (call : Call) (state : σ) :
    List Item × Call × σ → Prop
  /-- The configuration and the library are not to blame, and the exception on record is an error
  that the caller gets. -/
  | ordinary {done : List Item × Call × σ}
      (herrors : ∀ e, .error e ∈ done.1 → e.isConfig = false ∧ e.isFatal = false)
      (hexception : ∀ message, done.2.1.exception = some message →
        ∃ e, .error e ∈ done.1 ∧ message = e.message) :
      Settled g plan call state done
  /-- A stream of it cannot be opened, which the configuration or the target refuses. -/
  | unopened {e : Error} {state' : σ}
      (hcause : (∃ cause, e = .config cause ∧ state' = state) ∨
        ∃ t r, plan.target = some t ∧ t.chunks r state = (.error e, state')) :
      Settled g plan call state
        ([.error e],
          if e.isFatal then call
          else call.streamed { Outputs.empty with error := some e.message } (some e), state')
  /-- The remote service reports more rounds than it may have. -/
  | overrun {e : Error} {state' : σ} (hroute : plan.route = .remote)
      (hoverruns : g.Overruns plan state e) :
      Settled g plan call state ([.error e], call.fail e.message, state')

namespace Guard

theorem settled_rounds {mode : Mode} (hmay : (g.cycle plan).MayAsk mode)
    (hanswerable : (g.cycle plan).Answerable call.inputs.inputs 0) (hrounds : call.rounds = [])
    (hexception : call.exception = none) (state : σ) :
    g.Settled plan call state (g.carryOut plan (.rounds mode) call state) := by
  unfold carryOut
  dsimp only
  unfold Cycle.Ended.outcome
  obtain ⟨herror, hkept⟩ | ⟨cause, herror, hfailure, hrecorded⟩ :=
    Cycle.leaves_run hmay hanswerable hrounds state
  · rw [herror]
    exact .ordinary (by simp) (by simp [hkept, hexception])
  · rw [herror]
    exact .ordinary
      (by simp [Error.isConfig_of_isFailure hfailure, Error.isFatal_of_isFailure hfailure])
      (by simp [hrecorded])

theorem settled_stream (mode : Mode) (hrounds : call.rounds = [])
    (hexception : call.exception = none) (state : σ) :
    g.Settled plan call state (g.carryOut plan (.stream mode) call state) := by
  dsimp only [carryOut]
  obtain ⟨e, state', hchunks, hopen⟩ | ⟨items, outputs, error, state', hread, hitems, hfailure⟩ :=
    (g.cycle plan).streamed_cases mode state hrounds hexception
  · rw [hopen]
    refine .unopened ?_
    obtain ⟨cause, hrefused⟩ | ⟨t, r, htarget, hasked⟩ :=
      (g.cycle plan).chunks_cases mode call.inputs.args call.inputs.inputs state
    · rw [hrefused] at hchunks
      cases hchunks
      exact .inl ⟨cause, rfl, rfl⟩
    · exact .inr ⟨t, r, htarget, hasked.symm.trans hchunks⟩
  · rw [hread]
    refine .ordinary (fun e he => ?_) (fun message hmessage => ?_)
    · have hfailed := hfailure e ((hitems e).1 he)
      exact ⟨Error.isConfig_of_isFailure hfailed, Error.isFatal_of_isFailure hfailed⟩
    · obtain ⟨e, herror, rfl⟩ := Option.map_eq_some_iff.1 hmessage
      exact ⟨e, (hitems e).2 herror, rfl⟩

theorem settled_delegated (hroute : plan.route = .remote) (hservice : g.service.isSome)
    (hrounds : call.rounds = []) (hexception : call.exception = none)
    (hinputs : call.inputs = plan.inputs) (state : σ) :
    g.Settled plan call state (g.carryOut plan .delegated call state) := by
  obtain ⟨service, hservice⟩ := Option.isSome_iff_exists.1 hservice
  dsimp only [carryOut]
  rw [hservice]
  dsimp only
  obtain ⟨cause, s', hdelegate⟩ | ⟨outcome, rounds, s', hdelegate⟩ |
      ⟨a, s', hvalidate, hfull, hdelegate⟩ :=
    service.delegate_cases g.name (plan.target.bind (·.provider)) state hrounds
  · rw [hdelegate]
    exact .ordinary (by simp [RemoteError.toError, Error.isConfig, Error.isFatal])
      (by simp [Call.fail])
  · rw [hdelegate]
    exact .ordinary (by simp) (by simp [hexception])
  · have hmax : call.maxRounds = plan.inputs.inputs.retries + 1 := by
      unfold Call.maxRounds Call.retries
      rw [hinputs]
    rw [hmax] at hfull hdelegate
    rw [hinputs] at hvalidate
    rw [hdelegate]
    exact .overrun hroute ⟨service, a, s', hservice, hvalidate, hfull, rfl⟩

/-- Whatever the manner, if only the remote route leads to the service, and rounds block on their
own route only. -/
theorem settled {m : Manner} (hsound : plan.Sound g o)
    (hblocks : m = .rounds .blocking → plan.route = .blocking)
    (hdelegable : m = .delegated → plan.route = .remote) (hrounds : call.rounds = [])
    (hexception : call.exception = none) (hinputs : call.inputs = plan.inputs) (state : σ) :
    g.Settled plan call state (g.carryOut plan m call state) := by
  cases m with
  | refused =>
    exact .ordinary (by simp [carryOut, Session.wouldBlock, Error.isConfig, Error.isFatal])
      (by simp [carryOut, hexception])
  | rounds mode =>
    have hmay : (g.cycle plan).MayAsk mode := hsound.mayAsk fun hmode => hblocks (hmode ▸ rfl)
    exact settled_rounds hmay (hinputs ▸ hsound.answerable) hrounds hexception state
  | stream mode => exact settled_stream mode hrounds hexception state
  | delegated =>
    have hroute := hdelegable rfl
    exact settled_delegated hroute (hsound.isSome_service hroute) hrounds hexception hinputs state

end Guard

/-- An entry point that has a plan adds one record to the session. -/
theorem EntryPoint.settled {p : EntryPoint} {s : Session σ} (hplan : p.plan s.guard o = .ok plan) :
    ∃ items call state', p.use s o = (items, s.after call state') ∧
      s.guard.Settled plan (s.fresh plan.inputs) s.state (items, call, state') :=
  ⟨_, _, _, use_of_plan hplan,
    Guard.settled (sound_of_plan hplan) route_of_blocking route_of_delegated rfl rfl rfl s.state⟩

/-! ## Errors of the configuration -/

namespace EntryPoint

/-- A session of a guard that takes any text. -/
def textSession (replies : List Target.Reply) : Session (List Target.Reply) :=
  .start
    { id := "g", name := "g", description := none, schema := ⟨.string, .null, none⟩,
      references := [], validators := .empty, defaults := .none, retries := none,
      ofModel := false, service := none }
    .unbounded toString replies

/-- A scripted target is asked for a text. -/
def textInvocation (chunks : Option (Except Error (List Chunk))) : Invocation (List Target.Reply) :=
  { (Invocation.empty : Invocation (List Target.Reply)) with
    target := some (Target.Script.target
      ⟨"mock", .blocking, none, .error Target.Script.exhausted, chunks⟩)
    prompt := some ⟨"A text"⟩ }

/-- If the configuration does not allow what is asked for, nothing is generated: what the target
produces is as before, if a target that refuses to answer in chunks produces nothing. A call that
cannot be planned leaves no trace; any other has one record, with the error as its only round. -/
theorem config_law (p : EntryPoint) (s : Session σ) (o : Invocation σ) {α : Type}
    (produced : σ → α) {e : ConfigError}
    (htarget : ∀ t, o.target = some t → ∀ r state cause state',
      t.chunks r state = (.error (.config cause), state') → produced state' = produced state)
    (h : .error (.config e) ∈ (p.use s o).1) :
    (p.use s o).1 = [.error (.config e)] ∧
      produced (p.use s o).2.state = produced s.state ∧
      ((p.plan s.guard o = .error e ∧ (p.use s o).2 = s) ∨
        ∃ plan call round, p.plan s.guard o = .ok plan ∧
          (p.use s o).2.calls = s.calls ++ [call] ∧
          (p.use s o).2.history = s.history.push s.calls.length ∧
          call.rounds = [round] ∧ round.status = .error ∧ call.exception = some e.message) := by
  cases hplan : p.plan s.guard o with
  | error cause =>
    rw [use_of_refused hplan] at h ⊢
    obtain rfl : e = cause := by simpa using h
    exact ⟨rfl, rfl, .inl ⟨rfl, rfl⟩⟩
  | ok plan =>
    obtain ⟨items, call, state', huse, hsettled⟩ := settled hplan
    rw [huse] at h ⊢
    cases hsettled with
    | ordinary herrors => cases (herrors _ h).1
    | unopened hcause =>
      cases List.mem_singleton.1 h
      refine ⟨rfl, ?_, .inr ⟨plan, _, _, rfl, rfl, rfl, rfl, rfl, rfl⟩⟩
      obtain ⟨-, -, rfl⟩ | ⟨t, r, ht, hchunks⟩ := hcause
      · rfl
      · rw [(sound_of_plan hplan).target_eq, p.target_invocation] at ht
        exact htarget t ht r s.state e state' hchunks
    | overrun _ hoverruns =>
      obtain ⟨_, _, _, -, -, -, hcause⟩ := hoverruns
      cases (List.mem_singleton.1 h).trans (congrArg Except.error hcause)

/-- A target that does not stream is asked for a stream: its script is not used up, and the error is
on record. -/
theorem config_law_of_no_chunks :
    let replies : List Target.Reply := [.ok (.ofText "yes")]
    let used := callStream.use (textSession replies) (textInvocation none)
    (∀ t, (textInvocation none).target = some t → ∀ r state cause state',
        t.chunks r state = (.error (.config cause), state') → state' = state) ∧
      .error (.config (.streamingUnsupported "mock")) ∈ used.1 ∧ used.2.state = replies ∧
      ∃ call round, used.2.calls = [call] ∧ call.rounds = [round] ∧ round.status = .error := by
  intro replies used
  have htarget : ∀ t, (textInvocation none).target = some t → ∀ r state cause state',
      t.chunks r state = (.error (.config cause), state') → id state' = id state := by
    rintro t ht r state cause state' hchunks
    cases ht
    cases hchunks
    rfl
  have huse : used.1 = [.error (.config (.streamingUnsupported "mock"))] := rfl
  have hmem : .error (.config (.streamingUnsupported "mock")) ∈ used.1 := by rw [huse]; simp
  obtain ⟨-, hstate, ⟨hplan, -⟩ | ⟨plan, call, round, -, hcalls, -, hrounds, hstatus, -⟩⟩ :=
    config_law callStream (textSession replies) (textInvocation none) id htarget hmem
  · cases hplan
  · exact ⟨htarget, hmem, hstate, call, round, hcalls, hrounds, hstatus⟩

end EntryPoint

/-! ## Violated invariants -/

namespace EntryPoint

/-- The library never contradicts itself, if the target does not say so. A call that cannot be
planned fails with an error of the configuration and leaves no trace. Any other has one record; the
exception on record, if there is one, is an error that the caller gets; and the caller gets a
violated invariant only of the remote service, which reports more rounds than the call may have. -/
theorem invariant_law (p : EntryPoint) (s : Session σ) (o : Invocation σ)
    (htarget : ∀ t, o.target = some t → ∀ r state e,
      (t.chunks r state).1 = .error e → e.isFatal = false) :
    (∃ e, p.plan s.guard o = .error e ∧ p.use s o = ([.error (.config e)], s)) ∨
      ∃ plan call, p.plan s.guard o = .ok plan ∧
        (p.use s o).2.calls = s.calls ++ [call] ∧
        (∀ message, call.exception = some message →
          ∃ e, .error e ∈ (p.use s o).1 ∧ message = e.message) ∧
        ∀ e, .error e ∈ (p.use s o).1 → e.isFatal = true →
          plan.route = .remote ∧ s.guard.Overruns plan s.state e := by
  cases hplan : p.plan s.guard o with
  | error e => exact .inl ⟨e, rfl, use_of_refused hplan⟩
  | ok plan =>
    obtain ⟨items, call, state', huse, hsettled⟩ := settled hplan
    refine .inr ⟨plan, call, rfl, by rw [huse]; rfl, ?_⟩
    rw [huse]
    cases hsettled with
    | ordinary herrors hexception =>
      refine ⟨hexception, fun e he hfatal => ?_⟩
      rw [(herrors e he).2] at hfatal
      cases hfatal
    | @unopened e _ hcause =>
      have hfatal : e.isFatal = false := by
        obtain ⟨cause, rfl, -⟩ | ⟨t, r, ht, hchunks⟩ := hcause
        · rfl
        · rw [(sound_of_plan hplan).target_eq, p.target_invocation] at ht
          exact htarget t ht r s.state e (by rw [hchunks])
      simp [hfatal, Call.streamed]
    | overrun hroute hoverruns => simp [Call.fail, hroute, hoverruns]

/-- A stream that breaks off: the caller gets the failure that is on record, and nothing fatal. -/
theorem invariant_law_of_failed_source :
    let chunks : List Chunk := [.ok "y", .error ⟨"connection lost", true⟩]
    let o := textInvocation (some (.ok chunks))
    let used := callStream.use (textSession []) o
    (∀ t, o.target = some t → ∀ r state e, (t.chunks r state).1 = .error e → e.isFatal = false) ∧
      ∃ call, used.2.calls = [call] ∧
        (∀ message, call.exception = some message →
          ∃ e, .error e ∈ used.1 ∧ message = e.message) ∧
        ∀ e, .error e ∈ used.1 → e.isFatal = false := by
  intro chunks o used
  have htarget : ∀ t, o.target = some t → ∀ r state e,
      (t.chunks r state).1 = .error e → e.isFatal = false := by
    rintro t ht r state e hchunks
    cases ht
    cases hchunks
  obtain ⟨e, hplan, -⟩ | ⟨plan, call, hplan, hcalls, hexception, hfatal⟩ :=
    invariant_law callStream (textSession []) o htarget
  · cases hplan
  · refine ⟨htarget, call, hcalls, hexception, fun e he => ?_⟩
    cases hplan
    by_contra hne
    obtain ⟨hroute, -⟩ := hfatal e he (by simpa using hne)
    cases hroute

end EntryPoint

end Guardrail
