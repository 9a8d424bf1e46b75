import Guardrail.Proofs.Cycle.Carried
import Guardrail.Proofs.Guard.EntryPoint
import Guardrail.Proofs.Pass.Metadata
import Guardrail.Proofs.Stream.Ending
import Guardrail.Target.Script

/-!
# No validator runs without its metadata

The metadata of a call are checked once, when it is planned. They reach the validators in every
round and with every chunk: a correction is asked for with the metadata of the round before, and a
stream keeps those that it was opened with. So what validators would do without the metadata that
they need cannot be seen through any entry point.

Results:
* `evaluated_of_rounds`: what the rounds of a run have in their logs.
* `round_otherwise`, `next_otherwise`, `carryOut_otherwise`: what validators do without their
  metadata plays no part in rounds, streams and planned calls.
* `metadata_law`: the check of the metadata, and what validators get.
-/

namespace Guardrail

variable {σ : Type} {metadata : Metadata} (other : Validator → Json → Metadata → Verdict)

/-! ## Rounds -/

namespace Cycle

variable {c : Cycle σ} {mode : Mode} {call call' : Call} {inputs next : Inputs} {index : Nat}
  {s s' : σ}

/-- The cycle whose validators do something else where they lack metadata. -/
def otherwise (c : Cycle σ) : Cycle σ := { c with requirements := c.requirements.otherwise other }

/-- A correction is asked for with the same metadata. -/
theorem metadata_of_round (h : c.round mode call inputs index s = (.correct call' next, s')) :
    next.metadata = inputs.metadata := by
  obtain ⟨response, outputs, annotated, corrections, -, -, -, -, rfl⟩ := correct_cases h
  rfl

/-- A round is as it was recorded before, or new, and then evaluated with the metadata. -/
theorem evaluated_of_rounds (c : Cycle σ) (mode : Mode) (index : Nat) (call : Call)
    (inputs : Inputs) (s : σ) (hmetadata : inputs.metadata = metadata) :
    ∀ r ∈ (c.rounds mode index call inputs s).call.rounds,
      r ∈ call.rounds ∨ c.Evaluated metadata r := by
  have hround : ∀ {call inputs index s ended s'}, inputs.metadata = metadata →
      c.round mode call inputs index s = (ended, s') →
      ∀ r ∈ ended.call.rounds, r ∈ call.rounds ∨ c.Evaluated metadata r := by
    rintro call inputs index s ended s' rfl h r hr
    obtain hsame | ⟨outputs, hone, hevaluated⟩ := rounds_of_round h
    · exact .inl (hsame ▸ hr)
    · rw [hone, List.mem_append, List.mem_singleton] at hr
      obtain hbefore | rfl := hr
      · exact .inl hbefore
      · exact .inr hevaluated
  induction index, call, inputs, s using rounds.induct c mode with
  | case1 index call inputs s e call' s' h =>
    rw [rounds_of_failed h]
    exact hround hmetadata h
  | case2 index call inputs s call' s' h =>
    rw [rounds_of_done h]
    exact hround hmetadata h
  | case3 index call inputs s call' next s' h ih =>
    rw [rounds_of_correct h]
    intro r hr
    obtain hbefore | hevaluated := ih ((metadata_of_round h).trans hmetadata) r hr
    · exact hround hmetadata h r hbefore
    · exact .inr hevaluated

theorem round_otherwise (h : c.requirements.validators.Equipped inputs.metadata) :
    (c.otherwise other).round mode call inputs index s = c.round mode call inputs index s := by
  have hresponse : (c.otherwise other).response mode call.inputs.args inputs index s =
      c.response mode call.inputs.args inputs index s := rfl
  have hrecord : ∀ response, (c.otherwise other).record call inputs index response =
      c.record call inputs index response := by
    intro response
    have hevaluate := Requirements.evaluate_otherwise other h response
    unfold record
    rw [show (c.otherwise other).requirements = c.requirements.otherwise other from rfl, hevaluate]
    rfl
  unfold Cycle.round
  simp only [hresponse, hrecord]

theorem run_otherwise (h : c.requirements.validators.Equipped call.inputs.inputs.metadata) :
    (c.otherwise other).run mode call s = c.run mode call s :=
  rounds_congr (fun inputs => c.requirements.validators.Equipped inputs.metadata)
    (fun _ _ _ _ hequipped => round_otherwise other hequipped)
    (fun hequipped hround => (metadata_of_round hround).symm ▸ hequipped) h

end Cycle

/-! ## Streams -/

namespace OutcomeStream

variable {st : OutcomeStream} {call : Call}

/-- The stream whose validators do something else where they lack metadata. -/
def otherwise (st : OutcomeStream) : OutcomeStream :=
  { st with requirements := st.requirements.otherwise other }

/-- A stream keeps its requirements and its inputs. -/
theorem next_kept (st : OutcomeStream) (call : Call) :
    (st.next call).2.1.requirements = st.requirements ∧ (st.next call).2.1.inputs = st.inputs := by
  unfold next
  split
  · exact ⟨rfl, rfl⟩
  · split
    · unfold take
      dsimp only
      split <;> exact ⟨rfl, rfl⟩
    · exact ⟨rfl, rfl⟩
    · exact ⟨rfl, rfl⟩

theorem polls_kept (st : OutcomeStream) (call : Call) (n : Nat) :
    (st.polls call n).2.1.requirements = st.requirements ∧
      (st.polls call n).2.1.inputs = st.inputs := by
  induction n generalizing st call with
  | zero => exact ⟨rfl, rfl⟩
  | succ n ih =>
    obtain ⟨hrequirements, hinputs⟩ := st.next_kept call
    obtain ⟨hrest, hrest'⟩ := ih (st.next call).2.1 (st.next call).2.2
    exact ⟨hrest.trans hrequirements, hrest'.trans hinputs⟩

theorem next_otherwise (h : st.requirements.validators.Equipped st.inputs.metadata) :
    (st.otherwise other).next call =
      ((st.next call).1, (st.next call).2.1.otherwise other, (st.next call).2.2) := by
  have hevaluate := fun text => Requirements.evaluate_otherwise other h (.ofText text)
  unfold next otherwise take finish evaluate
  dsimp only
  simp only [hevaluate]
  split
  · rfl
  · split
    · dsimp only
      split <;> rfl
    · rfl
    · rfl

theorem items_otherwise (limit : Nat)
    (h : st.requirements.validators.Equipped st.inputs.metadata) :
    (st.otherwise other).items limit call =
      ((st.items limit call).1, (st.items limit call).2.1.otherwise other,
        (st.items limit call).2.2) := by
  induction limit generalizing st call with
  | zero => rfl
  | succ limit ih =>
    obtain ⟨hrequirements, hinputs⟩ := st.next_kept call
    rw [items, items, next_otherwise other h]
    rcases hnext : st.next call with ⟨item, st', call'⟩
    rw [hnext] at hrequirements hinputs
    cases item with
    | none => rfl
    | some item =>
      have h' : st'.requirements.validators.Equipped st'.inputs.metadata := by
        rwa [hrequirements, hinputs]
      dsimp only
      rw [ih h']

end OutcomeStream

theorem Cycle.streamed_otherwise {c : Cycle σ} {mode : Mode} {call : Call} {s : σ}
    (h : c.requirements.validators.Equipped call.inputs.inputs.metadata) :
    (c.otherwise other).streamed mode call s = c.streamed mode call s := by
  have hchunks : (c.otherwise other).chunks mode call.inputs.args call.inputs.inputs s =
      c.chunks mode call.inputs.args call.inputs.inputs s := rfl
  unfold streamed stream
  dsimp only
  rw [hchunks]
  rcases c.chunks mode call.inputs.args call.inputs.inputs s with ⟨e | source, s'⟩
  · rfl
  · let st := OutcomeStream.start c.requirements call.inputs.inputs source
    have hdrain : (st.otherwise other).drain call = _ :=
      OutcomeStream.items_otherwise other st.bound h
    show ((OutcomeStream.drain (st.otherwise other) call).1,
      (OutcomeStream.drain (st.otherwise other) call).2.2, s') = _
    rw [hdrain]
    rfl

/-! ## Guards -/

/-- The guard whose validators do something else where they lack metadata. -/
def Guard.otherwise (g : Guard σ) : Guard σ := { g with validators := g.validators.otherwise other }

/-- The session of the guard whose validators do something else where they lack metadata. -/
def Session.otherwise (s : Session σ) : Session σ := { s with guard := s.guard.otherwise other }

namespace Guard

variable {g : Guard σ} {o : Invocation σ} {plan : Plan σ} {retries : Nat} {e : ConfigError}

/-- What validators need does not depend on what they do. -/
theorem plan_otherwise (g : Guard σ) (o : Invocation σ) (retries : Nat) :
    (g.otherwise other).plan o retries = g.plan o retries := by
  have hkeys : (g.validators.otherwise other).requiredKeys = g.validators.requiredKeys := by
    unfold ValidatorMap.requiredKeys ValidatorMap.otherwise Entry.otherwise
    simp only [List.flatMap_map]
    rfl
  have hcheck : ∀ metadata, (g.validators.otherwise other).checkMetadata metadata =
      g.validators.checkMetadata metadata := by
    intro metadata
    unfold ValidatorMap.checkMetadata ValidatorMap.missingKeys
    rw [hkeys]
  have hpreconditions : ∀ hasTarget inputs,
      checkPreconditions hasTarget inputs (g.otherwise other).validators =
        checkPreconditions hasTarget inputs g.validators := by
    intro hasTarget inputs
    unfold checkPreconditions
    rw [show (g.otherwise other).validators = g.validators.otherwise other from rfl, hcheck]
  unfold plan
  dsimp only
  rw [hpreconditions]
  rfl

/-- A planned call goes as if validators could not do without their metadata. -/
theorem carryOut_otherwise (plan : Plan σ) (m : Manner) (call : Call) (state : σ)
    (h : g.validators.Equipped call.inputs.inputs.metadata) :
    (g.otherwise other).carryOut plan m call state = g.carryOut plan m call state := by
  have hcycle : (g.otherwise other).cycle plan = (g.cycle plan).otherwise other := rfl
  cases m with
  | refused | delegated => rfl
  | rounds mode =>
    unfold carryOut
    rw [hcycle]
    dsimp only
    rw [Cycle.run_otherwise other h]
  | stream mode =>
    unfold carryOut
    rw [hcycle]
    exact Cycle.streamed_otherwise other h

/-- A plan fails as the check of its preconditions does. -/
theorem plan_eq_error (h : g.plan o retries = .error e) :
    checkPreconditions o.target.isSome (g.inputs o retries) g.validators = .error e := by
  unfold plan at h
  dsimp only at h
  cases hcheck : checkPreconditions o.target.isSome (g.inputs o retries) g.validators with
  | error cause =>
    rw [hcheck] at h
    cases h
    rfl
  | ok u =>
    rw [hcheck] at h
    cases h

end Guard

/-- Metadata that are missing show only where everything else is in order. -/
theorem missing_of_checkPreconditions {hasTarget : Bool} {inputs : Inputs}
    {validators : ValidatorMap} {keys : List String}
    (h : checkPreconditions hasTarget inputs validators = .error (.missingMetadata keys)) :
    validators.Missing inputs.metadata keys := by
  unfold checkPreconditions at h
  split at h
  · cases h
  · split at h
    · cases h
    · exact ValidatorMap.missing_of_checkMetadata h

namespace EntryPoint

variable {p : EntryPoint} {g : Guard σ} {s : Session σ} {o : Invocation σ} {plan : Plan σ}

theorem plan_otherwise (p : EntryPoint) (g : Guard σ) (o : Invocation σ) :
    p.plan (g.otherwise other) o = p.plan g o := by
  cases p <;> unfold EntryPoint.plan <;> simp only [Guard.plan_otherwise]

theorem use_otherwise (p : EntryPoint) (s : Session σ) (o : Invocation σ) :
    p.use (s.otherwise other) o = ((p.use s o).1, (p.use s o).2.otherwise other) := by
  have hplan' : p.plan (s.otherwise other).guard o = p.plan s.guard o :=
    p.plan_otherwise other s.guard o
  cases hplan : p.plan s.guard o with
  | error e => rw [use_of_refused hplan, use_of_refused (hplan'.trans hplan)]
  | ok plan =>
    have hequipped : s.guard.validators.Equipped plan.inputs.inputs.metadata :=
      ValidatorMap.checkMetadata_eq_ok_iff.1
        (checkPreconditions_eq_ok (sound_of_plan hplan).checked).2
    rw [use_of_plan hplan, use_of_plan (hplan'.trans hplan)]
    have hcarry : (s.otherwise other).guard.carryOut plan (p.manner plan) (s.fresh plan.inputs)
        s.state = s.guard.carryOut plan (p.manner plan) (s.fresh plan.inputs) s.state :=
      Guard.carryOut_otherwise other plan (p.manner plan) (s.fresh plan.inputs) s.state hequipped
    unfold Session.carriedOut
    dsimp only
    rw [show (s.otherwise other).fresh plan.inputs = s.fresh plan.inputs from rfl,
      show (s.otherwise other).state = s.state from rfl, hcarry]
    rfl

/-- What is missing for a plan is missing in the metadata that the caller gives. -/
theorem missing_of_plan {keys : List String}
    (h : p.plan g o = .error (.missingMetadata keys)) :
    g.validators.Missing o.metadata keys := by
  have hplan : ∀ {o' : Invocation σ} {retries : Nat},
      g.plan o' retries = .error (.missingMetadata keys) → o'.metadata = o.metadata →
      g.validators.Missing o.metadata keys := by
    intro o' retries h hsame
    rw [← hsame]
    exact missing_of_checkPreconditions (Guard.plan_eq_error h)
  -- an entry point that refuses something says so in other words
  have hstream : ∀ {name}, Session.refuseStream o name ≠ .error (.missingMetadata keys) := by
    intro name
    unfold Session.refuseStream
    split <;> simp
  have hremote : ∀ {plan : Plan σ}, Session.refuseRemote plan ≠ .error (.missingMetadata keys) := by
    intro plan
    unfold Session.refuseRemote
    split <;> simp
  have hasync : ∀ {plan : Plan σ}, Session.refuseAsync plan ≠ .error (.missingMetadata keys) := by
    intro plan
    unfold Session.refuseAsync
    split <;> simp
  cases p with
  | call => exact hplan h rfl
  | callBlocking awaited | callAwaited | parse awaited output | parseAwaited output =>
    obtain hrefused | ⟨⟨⟩, -, h⟩ := bind_eq_error h
    · exact absurd hrefused hstream
    · exact hplan h rfl
  | callStream =>
    obtain hfailed | ⟨plan, -, h⟩ := bind_eq_error h
    · exact hplan hfailed rfl
    · obtain hrefused | ⟨⟨⟩, -, h⟩ := bind_eq_error h
      · exact absurd hrefused hremote
      · obtain hrefused | ⟨⟨⟩, -, h⟩ := bind_eq_error h
        · exact absurd hrefused hasync
        · cases h
  | callStreamAwaited =>
    obtain hfailed | ⟨plan, -, h⟩ := bind_eq_error h
    · exact hplan hfailed rfl
    · obtain hrefused | ⟨⟨⟩, -, h⟩ := bind_eq_error h
      · exact absurd hrefused hremote
      · cases h

/-- No validator runs without its metadata. If metadata are missing for a call, the error names
exactly the keys that are needed and not there, each once, in the order in which they come up in the
map. If a call can be planned, the metadata have all keys that are needed, and they are what every
round of the call and every chunk of a stream is evaluated with. What validators would do without
their metadata makes no difference to anything that can be observed of the call. -/
theorem metadata_law (p : EntryPoint) (s : Session σ) (o : Invocation σ) :
    let validators := s.guard.validators
    (∀ hasTarget inputs keys,
      checkPreconditions hasTarget inputs validators = .error (.missingMetadata keys) →
        validators.Missing inputs.metadata keys) ∧
    (∀ keys, p.plan s.guard o = .error (.missingMetadata keys) →
      validators.Missing o.metadata keys) ∧
    ∀ plan, p.plan s.guard o = .ok plan →
      let c := s.guard.cycle plan
      let call := s.fresh plan.inputs
      plan.inputs.inputs.metadata = o.metadata ∧
      validators.Equipped o.metadata ∧
      (∀ mode state, ∀ r ∈ (c.run mode call state).call.rounds,
        c.Evaluated o.metadata r ∧ ∀ l ∈ r.outputs.logs, validators.Ran o.metadata l) ∧
      (∀ mode state st call' state', c.stream mode call state = (.ok st, call', state') →
        ∀ n text, let st' := (st.polls call' n).2.1
          st'.inputs.metadata = o.metadata ∧
          ∀ l ∈ (st'.requirements.evaluate (.ofText text) o.metadata).outputs.logs,
            validators.Ran o.metadata l) ∧
      ∀ other, p.use (s.otherwise other) o = ((p.use s o).1, (p.use s o).2.otherwise other) := by
  intro validators
  refine ⟨fun hasTarget inputs keys h => missing_of_checkPreconditions h,
    fun keys h => missing_of_plan h, fun plan hplan => ?_⟩
  have hsound := sound_of_plan hplan
  intro c call
  have hmetadata : plan.inputs.inputs.metadata = o.metadata :=
    hsound.metadata_eq.trans (p.metadata_invocation o)
  have hequipped : validators.Equipped o.metadata :=
    hmetadata ▸ ValidatorMap.checkMetadata_eq_ok_iff.1 (checkPreconditions_eq_ok hsound.checked).2
  refine ⟨hmetadata, hequipped, fun mode state r hr => ?_,
    fun mode state st call' state' hopen n text => ?_, fun other => p.use_otherwise other s o⟩
  · have hevaluated : c.Evaluated o.metadata r :=
      (c.evaluated_of_rounds mode 0 call call.inputs.inputs state hmetadata r hr).resolve_left
        (by simp [call, Session.fresh, Call.start])
    refine ⟨hevaluated, ?_⟩
    obtain hnone | ⟨response, houtputs⟩ := hevaluated.2
    · rw [hnone]
      intro l hl
      cases hl
    · rw [houtputs]
      exact Requirements.ran_of_evaluate hequipped response
  · obtain ⟨-, source, rfl⟩ := Cycle.stream_eq_ok hopen
    obtain ⟨hrequirements, hinputs⟩ := OutcomeStream.polls_kept
      (.start c.requirements call.inputs.inputs source) call' n
    refine ⟨(congrArg Inputs.metadata hinputs).trans hmetadata, ?_⟩
    rw [hrequirements]
    exact Requirements.ran_of_evaluate hequipped _

/-- A validator that passes where it has the metadata that it needs. -/
def needing (keys : List String) : BoundValidator :=
  ⟨.ofCheck "needing" (.given "needing") keys fun _ _ => .pass, .reask⟩

/-- A session of a guard whose validators need metadata. -/
def needingSession : Session (List Target.Reply) :=
  .start
    { id := "g", name := "g", description := none, schema := ⟨.string, .null, none⟩,
      references := [],
      validators := ⟨[([.key "b"], [needing ["user", "tenant"], needing ["tenant"]]),
        ([], [needing ["locale", "user"]])]⟩,
      defaults := .none, retries := none, ofModel := false, service := none }
    .unbounded toString []

/-- An output is to be validated with some metadata. -/
def withMetadata (metadata : Metadata) : Invocation (List Target.Reply) :=
  { (Invocation.empty : Invocation (List Target.Reply)) with output := some "yes", metadata }

/-- Of four keys one is there: the others are named in the order in which they come up. -/
theorem metadata_law_of_missing_keys :
    let partly : Metadata := [("tenant", .str "t")]
    let all : Metadata := [("locale", .str "l"), ("tenant", .str "t"), ("user", .str "u")]
    (call.plan needingSession.guard (withMetadata partly) =
        .error (.missingMetadata ["user", "locale"]) ∧
      needingSession.guard.validators.Missing partly ["user", "locale"]) ∧
    (∃ plan, call.plan needingSession.guard (withMetadata all) = .ok plan) ∧
      needingSession.guard.validators.Equipped all ∧
      ∀ other, call.use (needingSession.otherwise other) (withMetadata all) =
        ((call.use needingSession (withMetadata all)).1,
          (call.use needingSession (withMetadata all)).2.otherwise other) := by
  intro partly all
  have hmissing : call.plan needingSession.guard (withMetadata partly) =
      .error (.missingMetadata ["user", "locale"]) := rfl
  obtain ⟨plan, hplan⟩ : ∃ plan, call.plan needingSession.guard (withMetadata all) = .ok plan :=
    ⟨_, rfl⟩
  obtain ⟨-, hnamed, -⟩ := metadata_law call needingSession (withMetadata partly)
  obtain ⟨-, -, hplanned⟩ := metadata_law call needingSession (withMetadata all)
  obtain ⟨-, hequipped, -, -, hsame⟩ := hplanned plan hplan
  exact ⟨⟨hmissing, hnamed _ hmissing⟩, ⟨plan, hplan⟩, hequipped, hsame⟩

end EntryPoint

end Guardrail
